import Mathlib.Data.List.Forall2
import CloudIde.Proofs.Reading
import CloudIde.Proofs.Written

/-!
# Stores that agree row by row

Two stores can be the same but for a few cells: the properties of some subscriptions, or the
commands that a user does not see. Their tables then have the same layouts and as many rows, and the
rows that stand at the same place are in some relation. `Store.RowByRow` says this with one relation
for subscriptions and one for commands; all other tables are the same.

An operation on a table that does not look at the cells in which the rows differ gives related
results, and tables that are related again. What reads or writes another table does the same to both
stores, whatever the two relations are.
-/

namespace CloudIde

/-! ## Lists -/

section

variable {α β : Type} {R : α → β → Prop} {as : List α} {bs : List β}

theorem any_of_forall₂ (h : List.Forall₂ R as bs) {p : α → Bool} {q : β → Bool}
    (hpq : ∀ a b, R a b → p a = q b) : as.any p = bs.any q := by
  induction h with
  | nil => rfl
  | cons hab _ ih => rw [List.any_cons, List.any_cons, hpq _ _ hab, ih]

theorem countP_of_forall₂ (h : List.Forall₂ R as bs) {p : α → Bool} {q : β → Bool}
    (hpq : ∀ a b, R a b → p a = q b) : as.countP p = bs.countP q := by
  induction h with
  | nil => rfl
  | cons hab _ ih => rw [List.countP_cons, List.countP_cons, hpq _ _ hab, ih]

theorem filter_of_forall₂ (h : List.Forall₂ R as bs) {p : α → Bool} {q : β → Bool}
    (hpq : ∀ a b, R a b → p a = q b) : List.Forall₂ R (as.filter p) (bs.filter q) := by
  refine List.rel_filter (fun a b hab => ?_) h
  show p a = true ↔ q b = true
  rw [hpq a b hab]

/-- Where what is picked is related to nothing but itself, the same is picked. -/
theorem filter_eq_of_forall₂ {as bs : List α} {R : α → α → Prop} (h : List.Forall₂ R as bs)
    {p : α → Bool} (hp : ∀ a b, R a b → a = b ∨ p a = false ∧ p b = false) :
    as.filter p = bs.filter p := by
  induction h with
  | nil => rfl
  | cons hab _ ih =>
    rcases hp _ _ hab with rfl | ⟨ha, hb⟩
    · rw [List.filter_cons, List.filter_cons, ih]
    · rw [List.filter_cons_of_neg (by simp [ha]), List.filter_cons_of_neg (by simp [hb]), ih]

/-- The first hits are related, when there are any. -/
theorem find?_of_forall₂ (h : List.Forall₂ R as bs) {p : α → Bool} {q : β → Bool}
    (hpq : ∀ a b, R a b → p a = q b) : Option.Rel R (as.find? p) (bs.find? q) := by
  induction h with
  | nil => exact .none
  | @cons a b _ _ hab _ ih =>
    rw [List.find?_cons, List.find?_cons, hpq a b hab]
    cases q b with
    | true => exact .some hab
    | false => exact ih

/-- Lists that are related stay so when they are sorted by what related members have in common. -/
theorem mergeSort_of_forall₂ (h : List.Forall₂ R as bs) {le : α → α → Bool} {le' : β → β → Bool}
    (hle : ∀ a b c d, R a b → R c d → le a c = le' b d) :
    List.Forall₂ R (as.mergeSort le) (bs.mergeSort le') := by
  obtain ⟨hlength, hrel⟩ := List.forall₂_iff_zip.1 h
  -- both are sorted as the list of pairs is, by the first components
  let pairs := (as.zip bs).mergeSort fun p q => le p.1 q.1
  have hfst : pairs.map Prod.fst = as.mergeSort le := by
    rw [List.map_mergeSort (f := Prod.fst) (s := le) fun _ _ _ _ => rfl,
      List.map_fst_zip (Nat.le_of_eq hlength)]
  have hsnd : pairs.map Prod.snd = bs.mergeSort le' := by
    rw [List.map_mergeSort (f := Prod.snd) (s := le')
      fun p hp q hq => hle _ _ _ _ (hrel hp) (hrel hq),
      List.map_snd_zip (Nat.le_of_eq hlength.symm)]
  rw [← hfst, ← hsnd, List.forall₂_map_left_iff, List.forall₂_map_right_iff, List.forall₂_same]
  intro p hp
  exact hrel (List.mem_mergeSort.1 hp)

end

/-! ## Tables -/

section

variable {ρ : Type} [Row ρ] {Q : ρ → ρ → Prop}

/-- Two tables of one layout, whose rows at the same place are in a relation. -/
structure Table.RowByRow (Q : ρ → ρ → Prop) (t u : Table ρ) : Prop where
  layout : t.layout = u.layout
  rows : List.Forall₂ Q t.rows u.rows

namespace Table.RowByRow

variable {t u : Table ρ} {a b : ρ}

theorem same (h : RowByRow Eq t u) : t = u := by
  obtain ⟨layout, rows, _⟩ := t
  obtain ⟨layout', rows', _⟩ := u
  obtain rfl : layout = layout' := h.layout
  obtain rfl : rows = rows' := by simpa using h.rows
  rfl

theorem of_same (hQ : ∀ r, Q r r) (t : Table ρ) : RowByRow Q t t :=
  ⟨rfl, List.forall₂_same.2 fun r _ => hQ r⟩

theorem naming_eq (h : RowByRow Q t u) (columns : List String) :
    t.naming columns = u.naming columns := by
  unfold naming
  rw [h.layout]

theorem filling_eq (h : RowByRow Q t u) (columns : List String) :
    t.filling columns = u.filling columns := by
  unfold filling
  rw [h.layout]

theorem select (h : RowByRow Q t u) {p : ρ → Bool} {order : ρ → List Cell}
    (hp : ∀ a b, Q a b → p a = p b) (horder : ∀ a b, Q a b → order a = order b) :
    List.Forall₂ Q (t.select p order) (u.select p order) :=
  mergeSort_of_forall₂ (filter_of_forall₂ h.rows hp) fun a b c d hab hcd => by
    rw [horder a b hab, horder c d hcd]

/-- Related rows that are changed are related again, when those of the one table are. -/
theorem modify (h : RowByRow Q t u) {f : ρ → ρ} (keeps : ∀ r, Row.key (f r) = Row.key r)
    (hf : ∀ a ∈ t.rows, ∀ b, Q a b → Q (f a) (f b)) :
    RowByRow Q (t.modify f keeps) (u.modify f keeps) := by
  have hrows : List.Forall₂ (fun a b => a ∈ t.rows ∧ Q a b) t.rows u.rows :=
    (List.forall₂_and_left _ _).2 ⟨fun _ ha => ha, h.rows⟩
  exact ⟨h.layout, List.rel_map (fun a b hab => hf a hab.1 b hab.2) hrows⟩

/-! Related rows have one key from here on. -/

variable (hkey : ∀ a b, Q a b → Row.key a = Row.key b)
include hkey

theorem find? (h : RowByRow Q t u) (key : Key) : Option.Rel Q (t.find? key) (u.find? key) :=
  find?_of_forall₂ h.rows fun a b hab => by rw [hkey a b hab]

theorem hasKey_eq (h : RowByRow Q t u) (key : Key) : t.hasKey key = u.hasKey key :=
  any_of_forall₂ h.rows fun a b hab => by rw [hkey a b hab]

theorem count_eq (h : RowByRow Q t u) (key : Key) : t.count key = u.count key :=
  countP_of_forall₂ h.rows fun a b hab => by rw [hkey a b hab]

theorem place {rows rows' : List ρ} (h : List.Forall₂ Q rows rows') (hab : Q a b) :
    List.Forall₂ Q (CloudIde.place a rows) (CloudIde.place b rows') := by
  have horder {a b : ρ} (hab : Q a b) : Row.order a = Row.order b := order_of_key (hkey a b hab)
  induction h with
  | nil => exact .cons hab .nil
  | cons hcd hrest ih =>
    unfold CloudIde.place
    rw [horder hab, horder hcd]
    split
    · exact .cons hab (.cons hcd hrest)
    · exact .cons hcd ih

/-- Related rows are both taken, or neither is. -/
theorem insert? (h : RowByRow Q t u) (hab : Q a b) :
    Option.Rel (RowByRow Q) (t.insert? a) (u.insert? b) := by
  have horder {a b : ρ} (hab : Q a b) : Row.order a = Row.order b := order_of_key (hkey a b hab)
  have htaken : (t.rows.any fun r => Row.order r = Row.order a)
      = u.rows.any fun r => Row.order r = Row.order b :=
    any_of_forall₂ h.rows fun c d hcd => by rw [horder hcd, horder hab]
  unfold Table.insert?
  by_cases hmade : t.layout = .made
  · have hmade' : u.layout = .made := h.layout ▸ hmade
    rw [dif_pos hmade, dif_pos hmade']
    by_cases hyes : (t.rows.any fun r => Row.order r = Row.order a) = true
    · rw [dif_pos hyes, dif_pos (htaken ▸ hyes)]
      exact .none
    · rw [dif_neg hyes, dif_neg (htaken ▸ hyes)]
      exact .some ⟨h.layout, place hkey h.rows hab⟩
  · have hmade' : ¬ u.layout = .made := h.layout ▸ hmade
    rw [dif_neg hmade, dif_neg hmade']
    exact .some ⟨h.layout, List.rel_append h.rows (.cons hab .nil)⟩

theorem erase (h : RowByRow Q t u) (key : Key) : RowByRow Q (t.erase key) (u.erase key) :=
  ⟨h.layout, filter_of_forall₂ h.rows fun a b hab => by rw [hkey a b hab]⟩

theorem replace (h : RowByRow Q t u) (hab : Q a b) : RowByRow Q (t.replace a) (u.replace b) := by
  refine ⟨h.layout, ?_⟩
  rw [replace_rows, replace_rows]
  refine List.rel_map (fun c d hcd => ?_) h.rows
  rw [hkey a b hab, hkey c d hcd]
  split
  · exact hab
  · exact hcd

end Table.RowByRow

end

/-! ## Stores -/

namespace Store

variable {Q : SubscriptionRow → SubscriptionRow → Prop} {P : CommandRow → CommandRow → Prop}

/-- Two stores that are the same but for what one relation allows of subscriptions and another of
commands. -/
structure RowByRow (Q : SubscriptionRow → SubscriptionRow → Prop)
    (P : CommandRow → CommandRow → Prop) (s t : Store) : Prop where
  accounts : s.accounts = t.accounts
  members : s.members = t.members
  plans : s.plans = t.plans
  subscriptions : Table.RowByRow Q s.subscriptions t.subscriptions
  workspaceMembers : s.workspaceMembers = t.workspaceMembers
  commands : Table.RowByRow P s.commands t.commands
  others : s.others = t.others

namespace RowByRow

variable {s t : Store} (h : RowByRow Q P s t)
include h

/-! What is read from the tables that are the same. -/

theorem account_eq (id : String) : s.account id = t.account id := by
  unfold Store.account
  rw [h.accounts]

theorem accountRoles_eq (id user : String) : s.accountRoles id user = t.accountRoles id user := by
  unfold Store.accountRoles Store.memberships
  rw [h.members]

theorem membersOf_eq (id : String) : s.membersOf id = t.membersOf id := by
  unfold Store.membersOf
  rw [h.members]

theorem plan_eq (id : String) : s.plan id = t.plan id := by
  unfold Store.plan
  rw [h.plans]

theorem allPlans_eq : s.allPlans = t.allPlans := by
  unfold Store.allPlans
  rw [h.plans]

/-! What a reference to an account comes to. Only the layout of the table that refers counts. -/

theorem relating_eq {ρ : Type} [Row ρ] {child child' : Table ρ}
    (hlayout : child.layout = child'.layout) : s.relating child = t.relating child' := by
  unfold Store.relating
  rw [hlayout, h.accounts]

theorem referring_eq {ρ : Type} [Row ρ] {child child' : Table ρ}
    (hlayout : child.layout = child'.layout) (account : Cell) :
    s.referring child account = t.referring child' account := by
  unfold Store.referring
  rw [hlayout, h.accounts]

/-! What is written into them. -/

theorem createAccount (a : Account) :
    Matches (RowByRow Q P) (s.createAccount a) (t.createAccount a) := by
  unfold Store.createAccount
  rw [h.accounts]
  refine bind_matches rfl fun _ _ => ?_
  split
  · exact .ok { h with accounts := rfl }
  · exact .error _

theorem addMember (m : Member) : Matches (RowByRow Q P) (s.addMember m) (t.addMember m) := by
  unfold Store.addMember
  rw [h.members]
  refine bind_matches (h.account_eq _) fun _ _ => ?_
  refine bind_matches rfl fun _ _ => ?_
  refine bind_matches (h.relating_eq rfl) fun _ _ => ?_
  refine bind_matches (h.referring_eq rfl _) fun _ _ => ?_
  exact .ok { h with members := rfl }

theorem createPlan (p : Plan) : Matches (RowByRow Q P) (s.createPlan p) (t.createPlan p) := by
  unfold Store.createPlan
  rw [h.plans]
  refine bind_matches rfl fun _ _ => ?_
  split
  · exact .ok { h with plans := rfl }
  · exact .error _

end RowByRow

end Store

end CloudIde
