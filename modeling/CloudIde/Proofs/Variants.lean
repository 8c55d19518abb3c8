import CloudIde.Proofs.RowByRow

/-!
# Subscriptions that vary in their properties

Two tables of subscriptions may hold the same rows but for the texts of the properties. Which texts
may stand for each other is left open: `Variants Q V` says of a relation of rows that related rows
differ in nothing else, and that they are read as subscriptions in the relation `V`, or fail to be
read with one failure.

Nothing in a store depends on the properties: neither which row is found, nor the order in which
rows are listed, nor whether a row is taken. So each look at two stores that agree up to such a
relation gives related subscriptions, and each write leaves stores that agree.
-/

namespace CloudIde

/-- Rows that differ at most in the text of the properties, and what they are read as. -/
structure Variants (Q : SubscriptionRow → SubscriptionRow → Prop)
    (V : Subscription → Subscription → Prop) : Prop where
  /-- A new row is like itself. -/
  self : ∀ v, Q (.ofSubscription v) (.ofSubscription v)
  row : ∀ {a b}, Q a b → ∃ properties, b = { a with properties }
  readOne : ∀ {a b}, Q a b → Matches V (readOne SubscriptionRow.read a)
    (CloudIde.readOne SubscriptionRow.read b)
  readAll : ∀ {as bs}, List.Forall₂ Q as bs → Matches (List.Forall₂ V)
    (readAll SubscriptionRow.read as) (CloudIde.readAll SubscriptionRow.read bs)
  read : ∀ {v w}, V v w → ∃ properties, w = { v with properties }
  /-- They are written as such rows again, in whatever state. -/
  write : ∀ {v w}, V v w → ∀ state,
    Q (.ofSubscription { v with state }) (.ofSubscription { w with state })

/-- Rows that are the same are read as the same subscription. -/
theorem variants_same : Variants Eq Eq where
  self _ := rfl
  row {a b} h := ⟨a.properties, h.symm⟩
  readOne h := by
    rw [h]
    exact .refl (fun _ => rfl) _
  readAll h := by
    rw [List.forall₂_eq_eq_eq] at h
    rw [h]
    exact .refl (fun _ => List.forall₂_same.2 fun _ _ => rfl) _
  read {v w} h := ⟨v.properties, h.symm⟩
  write h _ := by rw [h]

namespace Variants

variable {Q : SubscriptionRow → SubscriptionRow → Prop} {V : Subscription → Subscription → Prop}
  (hQ : Variants Q V) {a b c d : SubscriptionRow} {v w : Subscription}
include hQ

theorem key_eq (h : Q a b) : Row.key a = Row.key b := by
  obtain ⟨_, rfl⟩ := hQ.row h
  rfl

theorem gives_eq (h : Q a b) (account service : String) :
    a.gives account service = b.gives account service := by
  obtain ⟨_, rfl⟩ := hQ.row h
  rfl

theorem clashesWith_eq (hab : Q a b) (hcd : Q c d) : a.clashesWith c = b.clashesWith d := by
  obtain ⟨_, rfl⟩ := hQ.row hab
  obtain ⟨_, rfl⟩ := hQ.row hcd
  rfl

end Variants

namespace Store.RowByRow

variable {Q : SubscriptionRow → SubscriptionRow → Prop} {V : Subscription → Subscription → Prop}
  {P : CommandRow → CommandRow → Prop} {s t : Store} (hQ : Variants Q V) (h : RowByRow Q P s t)
include hQ h

/-! ## Looks -/

theorem subscription (id : String) : Matches V (s.subscription id) (t.subscription id) := by
  refine bind_matches (h.subscriptions.naming_eq _) fun _ _ => ?_
  have hfind := h.subscriptions.find? (fun _ _ => hQ.key_eq) [.text id]
  generalize s.subscriptions.find? [.text id] = x at hfind ⊢
  generalize t.subscriptions.find? [.text id] = y at hfind ⊢
  cases hfind with
  | none => exact .error _
  | some hab => exact hQ.readOne hab

theorem activeSubscription (account service : String) :
    Matches (Option.Rel V) (s.activeSubscription account service)
      (t.activeSubscription account service) := by
  refine bind_matches (h.subscriptions.naming_eq _) fun _ _ => ?_
  have hfind := find?_of_forall₂ h.subscriptions.rows fun a b hab =>
    hQ.gives_eq hab account service
  generalize s.subscriptions.rows.find? _ = x at hfind ⊢
  generalize t.subscriptions.rows.find? _ = y at hfind ⊢
  cases hfind with
  | none => exact .ok .none
  | some hab =>
    have hread := hQ.readOne hab
    simp only
    generalize readOne SubscriptionRow.read _ = x at hread ⊢
    generalize readOne SubscriptionRow.read _ = y at hread ⊢
    cases hread with
    | error f => exact .error f
    | ok hvw => exact .ok (.some hvw)

theorem activeSubscriptions (account : String) :
    Matches (List.Forall₂ V) (s.activeSubscriptions account) (t.activeSubscriptions account) := by
  refine bind_matches (h.subscriptions.naming_eq _) fun _ _ => hQ.readAll ?_
  refine h.subscriptions.select (fun a b hab => ?_) fun a b hab => ?_
  · obtain ⟨_, rfl⟩ := hQ.row hab
    rfl
  · obtain ⟨_, rfl⟩ := hQ.row hab
    rfl

/-! ## Writes -/

theorem insertSubscription (v : Subscription) :
    Matches (RowByRow Q P) (s.insertSubscription v) (t.insertSubscription v) := by
  refine bind_matches (h.subscriptions.filling_eq _) fun _ _ => ?_
  refine bind_matches (h.relating_eq h.subscriptions.layout) fun _ _ => ?_
  have hclash := any_of_forall₂ h.subscriptions.rows fun a b hab =>
    hQ.clashesWith_eq (hQ.self v) hab
  have hinsert := h.subscriptions.insert? (fun _ _ => hQ.key_eq) (hQ.self v)
  simp only [hclash]
  generalize s.subscriptions.insert? _ = x at hinsert ⊢
  generalize t.subscriptions.insert? _ = y at hinsert ⊢
  cases hinsert with
  | none => exact .error _
  | some hrows =>
    simp only
    split
    · exact .error _
    · refine bind_matches (h.referring_eq h.subscriptions.layout _) fun _ _ => ?_
      exact .ok { h with subscriptions := hrows }

theorem addSubscription (v : Subscription) :
    Matches (RowByRow Q P) (s.addSubscription v) (t.addSubscription v) := by
  unfold Store.addSubscription
  rw [h.accounts]
  refine bind_matches rfl fun _ _ => ?_
  split
  · split
    · refine (h.activeSubscription hQ v.account v.service).bind fun x y hxy => ?_
      cases hxy with
      | none => exact h.insertSubscription hQ v
      | some _ => exact .error _
    · exact h.insertSubscription hQ v
  · exact .error _

theorem clashesElsewhere_eq {a b : SubscriptionRow} (hab : Q a b) :
    s.clashesElsewhere a = t.clashesElsewhere b := by
  have hid {a b : SubscriptionRow} (hab : Q a b) : a.id = b.id := by
    obtain ⟨_, rfl⟩ := hQ.row hab
    rfl
  have hothers := any_of_forall₂ h.subscriptions.rows
    (p := fun other => decide (other.id ≠ a.id) && a.clashesWith other)
    (q := fun other => decide (other.id ≠ b.id) && b.clashesWith other)
    fun c d hcd => by rw [hid hcd, hid hab, hQ.clashesWith_eq hab hcd]
  unfold Store.clashesElsewhere
  rw [hothers, hQ.key_eq hab, h.subscriptions.count_eq (fun _ _ => hQ.key_eq),
    hQ.clashesWith_eq hab hab]

/-- Related subscriptions are written over the rows with their id. -/
theorem updateSubscription {v w : Subscription} (hvw : V v w) (state : SubscriptionState) :
    Matches (RowByRow Q P) (s.updateSubscription { v with state })
      (t.updateSubscription { w with state }) := by
  have hrow := hQ.write hvw state
  obtain ⟨_, rfl⟩ := hQ.read hvw
  refine bind_matches (h.subscriptions.naming_eq _) fun _ _ => ?_
  refine bind_matches (h.relating_eq h.subscriptions.layout) fun _ _ => ?_
  simp only
  rw [h.clashesElsewhere_eq hQ hrow, h.subscriptions.hasKey_eq (fun _ _ => hQ.key_eq),
    hQ.key_eq hrow]
  split
  · split
    · exact .error _
    · refine bind_matches (h.referring_eq h.subscriptions.layout _) fun _ _ => ?_
      exact .ok { h with
        subscriptions := h.subscriptions.replace (fun _ _ => hQ.key_eq) hrow }
  · exact .error _

end Store.RowByRow

end CloudIde
