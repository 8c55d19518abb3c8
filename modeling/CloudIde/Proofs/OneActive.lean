import CloudIde.Proofs.Run

/-!
# One active subscription

An account has at most one active subscription to a service. What keeps this is the index over the
active rows, which the two statements that write rows consult: `oneActive_insert` and
`oneActive_update` ask for nothing but the statement's success. So it does not matter what was
looked at before, by whom a subscription was changed since, or whether a row is made active again or
handed to another account.
-/

namespace CloudIde

namespace SubscriptionRow

/-- Two rows are active and give one account one service. -/
def Rival (a b : SubscriptionRow) : Prop :=
  a.isActive = true ∧ b.isActive = true ∧ a.account = b.account ∧ a.service = b.service

theorem Rival.symm {a b : SubscriptionRow} (h : Rival a b) : Rival b a :=
  ⟨h.2.1, h.1, h.2.2.1.symm, h.2.2.2.symm⟩

/-- The index passes over rows without an account or a service. -/
theorem Rival.clashesWith {a b : SubscriptionRow} (h : Rival a b) (haccount : a.account ≠ .null)
    (hservice : a.service ≠ .null) : a.clashesWith b = true := by
  obtain ⟨ha, hb, hacc, hser⟩ := h
  unfold SubscriptionRow.clashesWith
  rw [ha, hb, ← hacc, ← hser]
  simp [haccount, hservice]

/-- A row that was written has both. -/
theorem Rival.clashes {v : Subscription} {r : SubscriptionRow} (h : Rival (ofSubscription v) r) :
    (ofSubscription v).clashesWith r = true :=
  h.clashesWith Cell.noConfusion Cell.noConfusion

instance (a b : SubscriptionRow) : Decidable (Rival a b) :=
  inferInstanceAs (Decidable (_ ∧ _ ∧ _ ∧ _))

end SubscriptionRow

open SubscriptionRow

namespace Store

/-- Of any two rows at most one is active for an account and a service. -/
def OneActive (s : Store) : Prop := s.subscriptions.rows.Pairwise fun a b => ¬ Rival a b

instance (s : Store) : Decidable (OneActive s) :=
  inferInstanceAs (Decidable (List.Pairwise _ _))

theorem oneActive_empty : OneActive empty := List.Pairwise.nil

variable {s t : Store} {v : Subscription}

/-- What says nothing about the rows of subscriptions says nothing about this. -/
theorem OneActive.of_rows (h : OneActive s) (he : t.subscriptions = s.subscriptions) :
    OneActive t := by
  unfold OneActive
  rw [he]
  exact h

theorem OneActive.eq_of_rival (h : OneActive s) {a b : SubscriptionRow}
    (ha : a ∈ s.subscriptions.rows) (hb : b ∈ s.subscriptions.rows)
    (hrival : Rival a b) : a = b := by
  have hne : s.subscriptions.rows.Pairwise fun x y => x ≠ y → ¬ Rival x y :=
    h.imp fun {x y} hno (_ : x ≠ y) => hno
  -- the order of the list says this of a row and the later ones only
  have hall := List.Pairwise.forall_of_forall_of_flip (fun x _ hx => absurd rfl hx) hne
    (hne.imp fun hno hxy hyes => hno (Ne.symm hxy) hyes.symm)
  exact Decidable.byContradiction fun hab => hall ha hb hab hrival

theorem oneActive_insert (h : OneActive s) (hw : s.insertSubscription v = .ok t) :
    OneActive t := by
  obtain ⟨-, hfree, T, hT, rfl⟩ := insertSubscription_ok hw
  -- the rows are those of before and the new one, in some order, which rivals do not care for
  have hsymm : ∀ {a b : SubscriptionRow}, ¬ Rival a b → ¬ Rival b a := fun hn hr => hn hr.symm
  refine (hT.rows.pairwise_iff hsymm).2 (List.pairwise_cons.2 ⟨?_, h⟩)
  intro r hr hrival
  exact absurd hrival.clashes (by simp [hfree r hr])

/-- Rows that are written over with one row have no rivals, when the row has none that stays and is
none to itself where it is written more than once. -/
theorem pairwise_written_over {row : SubscriptionRow} {rows : List SubscriptionRow}
    (h : rows.Pairwise fun a b => ¬ Rival a b)
    (hothers : ∀ r ∈ rows, r.id ≠ row.id → ¬ Rival row r)
    (hself : 1 < rows.countP (fun r => Row.key r = Row.key row) → ¬ Rival row row) :
    (rows.map fun r => if Row.key r = Row.key row then row else r).Pairwise
      fun a b => ¬ Rival a b := by
  induction rows with
  | nil => exact List.Pairwise.nil
  | cons a rest ih =>
    obtain ⟨ha, hrest⟩ := List.pairwise_cons.1 h
    rw [List.map_cons, List.pairwise_cons]
    refine ⟨?_, ih hrest (fun r hr => hothers r (List.mem_cons_of_mem a hr)) fun hmany => ?_⟩
    · intro b hb
      obtain ⟨r, hr, rfl⟩ := List.mem_map.1 hb
      by_cases hka : Row.key a = Row.key row
      · rw [if_pos hka]
        by_cases hkr : Row.key r = Row.key row
        · -- two places for the row, so the row itself was checked
          rw [if_pos hkr]
          refine hself ?_
          have hpos : 0 < rest.countP fun r => Row.key r = Row.key row :=
            List.countP_pos_iff.2 ⟨r, hr, by simpa using hkr⟩
          rw [List.countP_cons_of_pos (by simpa using hka)]
          omega
        · rw [if_neg hkr]
          exact hothers r (List.mem_cons_of_mem a hr) fun he => hkr (by simp [Row.key, he])
      · rw [if_neg hka]
        by_cases hkr : Row.key r = Row.key row
        · rw [if_pos hkr]
          intro hrival
          exact hothers a List.mem_cons_self (fun he => hka (by simp [Row.key, he])) hrival.symm
        · rw [if_neg hkr]
          exact ha r hr
    · exact hself (Nat.lt_of_lt_of_le hmany (by rw [List.countP_cons]; omega))

theorem oneActive_update (h : OneActive s) (hw : s.updateSubscription v = .ok t) :
    OneActive t := by
  obtain ⟨-, -, hfree, rfl⟩ := updateSubscription_ok hw
  obtain ⟨hothers, hmany⟩ := Bool.or_eq_false_iff.1 hfree
  refine pairwise_written_over h (fun r hr hid hrival => ?_) (fun hcount hrival => ?_)
  · -- a row that stays has been compared with the new one
    have hclash := List.any_eq_false.1 hothers r hr
    exact hclash (by simp [hid, hrival.clashes])
  · -- more rows than one have the id, so the new one was compared with itself
    have hcount : 1 < s.subscriptions.count (Row.key (ofSubscription v)) := hcount
    exact absurd hmany (by simp [hcount, hrival.clashes])

theorem oneActive_write {w : Write} (h : OneActive s) (hw : s.write w = .ok t) : OneActive t := by
  cases w with
  | addSubscription v => exact oneActive_insert h (addSubscription_ok hw)
  | updateSubscription v => exact oneActive_update h hw
  | removeSubscription id =>
    cases removeSubscription_ok hw
    exact List.Pairwise.sublist List.filter_sublist h
  | createAccount a => obtain ⟨T, -, rfl⟩ := createAccount_ok hw; exact h.of_rows rfl
  | addMember m => obtain ⟨-, rfl⟩ := addMember_ok hw; exact h.of_rows rfl
  | createPlan p => obtain ⟨T, -, rfl⟩ := createPlan_ok hw; exact h.of_rows rfl
  | createCommand c => obtain ⟨T, -, rfl⟩ := createCommand_ok hw; exact h.of_rows rfl
  | updateCommand u => obtain ⟨id, c, -, -, rfl⟩ := updateCommand_ok hw; exact h.of_rows rfl
  | removeCommand id => cases removeCommand_ok hw; exact h.of_rows rfl
  | addWorkspaceMember m => cases addWorkspaceMember_ok hw; exact h.of_rows rfl

theorem oneActive_run (steps : List Step) : OneActive (empty.run steps) :=
  run_keeps oneActive_write oneActive_insert oneActive_empty steps

/-- **At most one active subscription for an account and a service, whatever happens.** A new
subscription may have been looked into on any other store, and an update may hold any subscription:
where either is written, there is still at most one. -/
theorem one_active :
    (∀ steps, OneActive (empty.run steps)) ∧
      ∀ s, OneActive s → ∀ v t,
        (s.insertSubscription v = .ok t → OneActive t) ∧
          (∀ seen, addSubscriptionSeeing seen s v = .ok t → OneActive t) ∧
            (s.updateSubscription v = .ok t → OneActive t) := by
  refine ⟨oneActive_run, fun s hs v t => ⟨?_, ?_, ?_⟩⟩
  · exact oneActive_insert hs
  · intro seen hseen
    exact oneActive_insert hs (addSubscriptionSeeing_ok hseen)
  · exact oneActive_update hs

/-- An account that has left mail and come back to it by another subscription. -/
def returned : Store := empty.run
  [.call (.createAccount ⟨"acme", "Acme"⟩),
    .call (.addSubscription (.bare "old" "acme" "mail" .inactive)),
    .lateAdd (empty.run [.call (.createAccount ⟨"acme", ""⟩)]) (.bare "new" "acme" "mail" .active)]

/-- The old subscription is made active again, for another service. -/
theorem one_active_moved : ∃ t,
    returned.updateSubscription (.bare "old" "acme" "wiki" .active) = .ok t ∧ OneActive t := by
  obtain ⟨t, ht⟩ : ∃ t, returned.updateSubscription (.bare "old" "acme" "wiki" .active) = .ok t :=
    ⟨_, rfl⟩
  exact ⟨t, ht, (one_active.2 returned (one_active.1 _) _ t).2.2 ht⟩

/-- For the same service it cannot be made active. -/
example : returned.updateSubscription (.bare "old" "acme" "mail" .active)
    = .error (.alreadySubscribed "acme" "mail") := rfl

end Store

end CloudIde
