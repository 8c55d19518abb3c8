import CloudIde.Date.Civil
import CloudIde.Failure
import CloudIde.Plan

/-!
# Subscriptions

A subscription gives an account a service on the terms of a plan. A new one copies the terms of its
plan, is active and has no dates; a trial sets two of them.
-/

namespace CloudIde

/-- Whether a subscription gives its service. -/
inductive SubscriptionState where
  | active
  | inactive
  deriving DecidableEq, Repr

namespace SubscriptionState

/-- The name under which it is stored. -/
def text : SubscriptionState → String
  | active => "ACTIVE"
  | inactive => "INACTIVE"

/-- The state that a stored name means: an unknown name means inactive. -/
def ofText (text : String) : SubscriptionState := if text = "ACTIVE" then active else inactive

end SubscriptionState

instance : Wire SubscriptionState where
  shape := .leaf (.choice "ACTIVE" ["INACTIVE"])
  toVal
    | .active => (Json.Place.first : Fin 2)
    | .inactive => (Json.Place.second : Fin 2)
  ofVal := fun (place : Fin 2) => match place with
    | 0 => .active
    | 1 => .inactive
  ofVal_toVal a := by cases a <;> rfl

/-- What there is for each of the seven dates of a subscription. -/
structure SubscriptionDates (α : Type) where
  start : α
  stop : α
  trialStart : α
  trialEnd : α
  billingStart : α
  billingEnd : α
  nextBilling : α
  deriving DecidableEq, Repr

namespace SubscriptionDates

/-- The same for each date. -/
def all {α : Type} (a : α) : SubscriptionDates α := ⟨a, a, a, a, a, a, a⟩

/-- No dates. -/
def none {α : Type} : SubscriptionDates (Option α) := all .none

/-- What `f` gives for each date. -/
def map {α β : Type} (f : α → β) (d : SubscriptionDates α) : SubscriptionDates β :=
  ⟨f d.start, f d.stop, f d.trialStart, f d.trialEnd, f d.billingStart, f d.billingEnd,
    f d.nextBilling⟩

/-- What `f` gives for each date, unless it fails for one of them. -/
def tryMap {α β ε : Type} (f : α → Except ε β) (d : SubscriptionDates α) :
    Except ε (SubscriptionDates β) := do
  .ok ⟨← f d.start, ← f d.stop, ← f d.trialStart, ← f d.trialEnd, ← f d.billingStart,
    ← f d.billingEnd, ← f d.nextBilling⟩

/-- Each date of one kind beside that of another. -/
def zip {α β : Type} (d : SubscriptionDates α) (e : SubscriptionDates β) :
    SubscriptionDates (α × β) :=
  ⟨(d.start, e.start), (d.stop, e.stop), (d.trialStart, e.trialStart), (d.trialEnd, e.trialEnd),
    (d.billingStart, e.billingStart), (d.billingEnd, e.billingEnd), (d.nextBilling, e.nextBilling)⟩

end SubscriptionDates

/-- A subscription. -/
structure Subscription where
  id : String
  account : String
  service : String
  plan : String
  properties : Properties
  state : SubscriptionState
  description : String
  /-- Whether it is charged through the payment system. -/
  usePaymentSystem : Bool
  dates : SubscriptionDates (Option Instant)
  billingCycle : Int32
  billingCycleType : BillingCycleType
  billingContractTerm : Int32
  deriving DecidableEq

namespace Subscription

/-- A new subscription on the terms of a plan. -/
def ofPlan (id account : String) (plan : Plan) (usePaymentSystem : Bool)
    (properties : Properties) : Subscription where
  id := id
  account := account
  service := plan.service
  plan := plan.id
  properties := properties
  state := .active
  description := plan.description
  usePaymentSystem := usePaymentSystem
  dates := SubscriptionDates.none
  billingCycle := plan.billingCycle
  billingCycleType := plan.billingCycleType
  billingContractTerm := plan.billingContractTerm

/-- Whether the subscription gives its service. -/
def isActive (s : Subscription) : Bool := s.state = .active

/-- The end of a trial of some days that starts now, when it is an instant. -/
def trialEnd? (now : Instant) (days : Int32) : Option Instant := now.addDays? days.toInt

/-- The subscription with a trial of some days that starts now. -/
def startTrial (s : Subscription) (now : Instant) (days : Int32) : Except Failure Subscription :=
  match trialEnd? now days with
  | none => .error .trialOutOfRange
  | some stop =>
    .ok { s with dates := { s.dates with trialStart := some now, trialEnd := some stop } }

end Subscription

end CloudIde
