import CloudIde.Subscription.Usage

/-!
# Services that accounts subscribe to

A service takes part in the life of its subscriptions. It may refuse or change a subscription before
it is stored, it is told when one has been stored or removed, and it reports what is used under one.
`ServiceCall` records that a service took part.

The registry holds services in ascending order of their ids, one for each id.
-/

namespace CloudIde

/-- A service. -/
structure Service where
  id : String
  /-- The subscription to store in the place of a new one. -/
  before : Subscription → Except Failure Subscription
  /-- Takes note of a stored subscription. -/
  after : Subscription → Except Failure Unit
  /-- Takes note of a removed subscription. -/
  removed : Subscription → Except Failure Unit
  /-- What is used under a subscription. -/
  usage : Subscription → Except Failure UsedAccountResources

/-- A service that accepts every subscription, does nothing and reports nothing. -/
def Service.plain (id : String) : Service where
  id := id
  before s := .ok s
  after _ := .ok ()
  removed _ := .ok ()
  usage _ := .ok ⟨[]⟩

/-- The parts that a service takes in the life of a subscription. -/
inductive Part where
  | before
  | after
  | removed
  | usage
  deriving DecidableEq, Repr

/-- A service took part in the life of a subscription. -/
structure ServiceCall where
  part : Part
  service : String
  subscription : Subscription
  deriving DecidableEq

/-- Registered services. -/
structure Registry where
  services : List Service
  ascending : services.Pairwise fun a b => a.id < b.id

namespace Registry

/-- The registry without services. -/
def empty : Registry := ⟨[], .nil⟩

instance : Inhabited Registry := ⟨empty⟩

/-- A service put into its place; one with its id is replaced. -/
def insertService (service : Service) : List Service → List Service
  | [] => [service]
  | other :: rest =>
    if service.id < other.id then service :: other :: rest
    else if other.id < service.id then other :: insertService service rest
    else service :: rest

theorem mem_insertService {service a : Service} {services : List Service}
    (h : a ∈ insertService service services) : a = service ∨ a ∈ services := by
  induction services with
  | nil => simpa [insertService] using h
  | cons other rest ih =>
    simp only [insertService] at h
    split at h
    · simpa using h
    · split at h
      · rcases List.mem_cons.1 h with h | h
        · simp [h]
        · rcases ih h with h | h <;> simp [h]
      · rcases List.mem_cons.1 h with h | h <;> simp [h]

theorem insertService_ascending {service : Service} {services : List Service}
    (h : services.Pairwise fun a b => a.id < b.id) :
    (insertService service services).Pairwise fun a b => a.id < b.id := by
  induction services with
  | nil => simp [insertService]
  | cons other rest ih =>
    have ⟨first, tail⟩ := List.pairwise_cons.1 h
    simp only [insertService]
    split
    · next below =>
      refine List.pairwise_cons.2 ⟨fun a ha => ?_, h⟩
      rcases List.mem_cons.1 ha with rfl | ha
      · exact below
      · exact String.lt_trans below (first a ha)
    · split
      · next above =>
        refine List.pairwise_cons.2 ⟨fun a ha => ?_, ih tail⟩
        rcases mem_insertService ha with rfl | ha
        · exact above
        · exact first a ha
      · next notBelow notAbove =>
        have same : service.id = other.id :=
          String.le_antisymm (String.not_lt.1 notAbove) (String.not_lt.1 notBelow)
        exact List.pairwise_cons.2 ⟨fun a ha => by simpa [same] using first a ha, tail⟩

/-- The registry with one service more. -/
def insert (registry : Registry) (service : Service) : Registry :=
  ⟨insertService service registry.services, insertService_ascending registry.ascending⟩

/-- The registry of some services; of two with one id the later one counts. -/
def ofList (services : List Service) : Registry :=
  services.foldl insert empty

/-- The service with an id. -/
def get? (registry : Registry) (id : String) : Option Service :=
  registry.services.find? fun service => service.id = id

/-- The ids of the services, in ascending order. -/
def ids (registry : Registry) : List String := registry.services.map Service.id

/-- The number of services. -/
def size (registry : Registry) : Nat := registry.services.length

/-- Whether there is no service. -/
def isEmpty (registry : Registry) : Bool := registry.services.isEmpty

/-- The service with an id, which has to be registered. -/
def known (registry : Registry) (id : String) : Except Failure Service :=
  match registry.get? id with
  | some service => .ok service
  | none => .error .unknownService

end Registry

end CloudIde
