import CloudIde.Proofs.Frame
import CloudIde.Proofs.ReadBack
import CloudIde.Proofs.Run

/-!
# Stores that requests have made

`Reached` holds of the stores that requests alone make out of the empty one. More is true of them
than of stores that calls have written, as requests check what they store. Here it is shown for the
roles of members: they are always some, and always roles of accounts (`Reached.knownRoles`).
-/

namespace CloudIde.Http

open Store

/-- The stores that requests alone make out of the empty one, when they are answered in
circumstances that satisfy `P`. -/
inductive Reached (P : Context → Prop) : Store → Prop
  | empty : Reached P Store.empty
  | next {s : Store} (h : Reached P s) (ctx : Context) (hctx : P ctx) (r : Request) :
    Reached P (respond ctx s r).store

variable {P : Context → Prop} {ctx : Context} {s : Store} {caller : Caller}

theorem Reached.mono {Q : Context → Prop} (h : Reached P s) (hQ : ∀ ctx, P ctx → Q ctx) :
    Reached Q s := by
  induction h with
  | empty => exact .empty
  | next _ ctx hctx r ih => exact .next ih ctx (hQ ctx hctx) r

theorem Reached.written (h : Reached P s) : Written s := by
  induction h with
  | empty => exact written_empty
  | next _ ctx _ r ih => exact (respond_leads ctx _ r).keeps written_write ih

/-- A request does nothing to the store, or what it asks for does. -/
theorem respond_effect (ctx : Context) (s : Store) (r : Request) :
    (respond ctx s r).store = s ∨ ∃ d resource method reply, Asks r d resource method ∧
      Effect ctx s d.caller d.operation reply ∧ (respond ctx s r).store = reply.store := by
  cases hd : r.demand with
  | error response =>
    rw [respond_of_no_demand hd]
    exact Or.inl rfl
  | ok d =>
    obtain ⟨resource, method, hasks⟩ := Request.demand_ok hd
    refine Or.inr ⟨d, resource, method, _, hasks, perform_effect d.operation, ?_⟩
    rw [respond_of_demand hd, Demand.reply_store]

/-- What every operation keeps is kept by every request. -/
theorem respond_keeps {Q : Store → Prop} (hQ : Q s)
    (heffect : ∀ {caller op reply}, Effect ctx s caller op reply → Q reply.store) (r : Request) :
    Q (respond ctx s r).store := by
  rcases respond_effect ctx s r with hsame | ⟨d, resource, method, reply, -, h, hstore⟩
  · rw [hsame]
    exact hQ
  · rw [hstore]
    exact heffect h

end CloudIde.Http

namespace CloudIde

/-- Some roles, and none but those of a list. -/
def SomeOf (known roles : List String) : Prop := roles ≠ [] ∧ ∀ role ∈ roles, role ∈ known

instance (known roles : List String) : Decidable (SomeOf known roles) :=
  inferInstanceAs (Decidable (_ ∧ _))

/-- The roles that are not refused. -/
theorem checkRoles_iff {known roles : List String} {unknown : String → Failure} :
    checkRoles known unknown roles = .ok () ↔ SomeOf known roles := by
  unfold checkRoles SomeOf
  cases roles with
  | nil => simp
  | cons role rest =>
    simp only [List.isEmpty_cons, Bool.false_eq_true, if_false, ne_eq, reduceCtorEq,
      not_false_eq_true, true_and]
    split
    · next other hother =>
      have hmem := List.mem_of_find?_eq_some hother
      have hunknown : other ∉ known := by simpa using List.find?_some hother
      exact ⟨fun h => absurd h (by simp), fun h => absurd (h other hmem) hunknown⟩
    · next hnone =>
      refine ⟨fun _ => ?_, fun _ => rfl⟩
      simpa using hnone

namespace Store

/-- Every membership of an account gives some roles of accounts, and no others. -/
def KnownRoles (s : Store) : Prop :=
  ∀ row ∈ s.members.rows, ∃ m, row = .ofMember m ∧ SomeOf Role.account m.roles

theorem knownRoles_empty : KnownRoles empty := by
  intro row hrow
  exact absurd hrow List.not_mem_nil

variable {s t : Store}

theorem KnownRoles.of_members (h : KnownRoles s) (he : t.members = s.members) : KnownRoles t := by
  unfold KnownRoles
  rw [he]
  exact h

theorem knownRoles_addMember {m : Member} (h : KnownRoles s) (hw : s.addMember m = .ok t)
    (hm : SomeOf Role.account m.roles) : KnownRoles t := by
  obtain ⟨-, rfl⟩ := addMember_ok hw
  intro row hrow
  rcases Table.mem_of_mem_put hrow with rfl | hrow
  · exact ⟨m, rfl, hm⟩
  · exact h row hrow

theorem KnownRoles.gives {account user role : String} (h : KnownRoles s)
    (hg : s.Gives account user role) : role ∈ Role.account := by
  obtain ⟨row, hrow, -, m, hread, -, hrole⟩ := hg
  obtain ⟨m', rfl, -, hknown⟩ := h row hrow
  rw [MemberRow.readOne_ofMember] at hread
  cases hread
  exact hknown role hrole

end Store

namespace Http

open Store

variable {P : Context → Prop} {ctx : Context} {s : Store} {caller : Caller}

theorem Effect.knownRoles {op : Operation} {reply : Reply} (h : Effect ctx s caller op reply)
    (hs : KnownRoles s) : KnownRoles reply.store := by
  rcases h.frame.members with hwritten | hsame
  · cases h with
    | looked | refused => exact hs
    | accountMade _ _ ht hu =>
      -- the owner of a new account gets the role of owners
      obtain ⟨T, -, rfl⟩ := createAccount_ok ht
      have hmid : KnownRoles { s with accounts := T } := hs.of_members rfl
      have howner : SomeOf Role.account [Role.accountOwner] := by decide
      exact knownRoles_addMember hmid hu howner
    | ownerMissing _ _ ht _ => obtain ⟨T, -, rfl⟩ := createAccount_ok ht; exact hs.of_members rfl
    | memberAdded _ _ hroles ht => exact knownRoles_addMember hs ht (checkRoles_iff.1 hroles)
    | _ => exact absurd hwritten (by simp [Operation.writes])
  · exact hs.of_members hsame

theorem Reached.knownRoles (h : Reached P s) : KnownRoles s := by
  induction h with
  | empty => exact knownRoles_empty
  | next _ ctx _ r ih => exact respond_keeps ih (fun heffect => heffect.knownRoles ih) r

/-- **Requests give members no roles but those of accounts.** -/
theorem Reached.gives {account user role : String} (h : Reached P s)
    (hg : s.Gives account user role) : role ∈ Role.account := h.knownRoles.gives hg

end Http

end CloudIde
