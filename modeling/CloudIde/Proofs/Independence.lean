import CloudIde.Proofs.Slots

/-!
# Writes that do not meet

Two writes do not meet when they are about different slots, when neither makes an account that the
other refers to, and when no account and service are concerned by both: the subscriptions that the
one writes, before and after, give other services or are those of other accounts.

Such writes commute (`writes_commute`). What comes of a write depends on its slot, on whether the
account is there that it refers to, and on who has the service (`SameFor`), and a write that it does
not meet changes none of this, be it refused or not.
-/

namespace CloudIde

/-- The account that a write refers to. -/
def Write.refersTo? : Write → Option String
  | addMember m => some m.account
  | addSubscription v | updateSubscription v => some v.account
  | _ => none

namespace Store

variable {s t : Store} {w w' : Write} {account service : String}

/-- What a write reports. -/
def outcome (s : Store) (w : Write) : Except Failure Unit := (s.write w).map fun _ => ()

/-- Whether a write reads or writes a subscription of an account to a service: a new one when its
account is there, a changed one as it was and as it is to be, and one that is taken away. -/
def Concerns (s : Store) (account service : String) : Write → Prop
  | .addSubscription v =>
    s.hasAccount v.account = true ∧ v.account = account ∧ v.service = service
  | .updateSubscription v => ∃ row ∈ s.subscriptions.rows, row.id = .text v.id ∧
    (row.account = .text account ∧ row.service = .text service ∨
      v.account = account ∧ v.service = service)
  | .removeSubscription id => ∃ row ∈ s.subscriptions.rows, row.id = .text id ∧
    row.account = .text account ∧ row.service = .text service
  | _ => False

/-- Two writes do not meet. -/
structure Independent (s : Store) (w w' : Write) : Prop where
  slots : ∀ slot, w.slot? = some slot → w'.slot? ≠ some slot
  /-- The one does not make the account that the other refers to. -/
  made : ∀ a, w.account? = some a → w'.refersTo? ≠ some a.id
  /-- Nor does the other make the one's. -/
  made' : ∀ a, w'.account? = some a → w.refersTo? ≠ some a.id
  services : ∀ account service, s.Concerns account service w → ¬ s.Concerns account service w'

theorem Independent.symm (h : s.Independent w w') : s.Independent w' w where
  slots slot h' hslot := h.slots slot hslot h'
  made := h.made'
  made' := h.made
  services account service h' hw := h.services account service hw h'

/-! ## What a write finds -/

theorem hasAccount_eq {id : String} :
    s.hasAccount id = (s.row? ⟨.accounts, [.text id]⟩).isSome :=
  Table.hasKey_eq_isSome.trans Option.isSome_map.symm

theorem hasPlan_eq {id : String} : s.hasPlan id = (s.row? ⟨.plans, [.text id]⟩).isSome :=
  Table.hasKey_eq_isSome.trans Option.isSome_map.symm

theorem hasSubscription_eq {id : String} :
    s.hasSubscription id = (s.row? ⟨.subscriptions, [.text id]⟩).isSome :=
  Table.hasKey_eq_isSome.trans Option.isSome_map.symm

theorem hasCommand_eq {id : String} : s.hasCommand id = (s.row? ⟨.commands, [.text id]⟩).isSome :=
  Table.hasKey_eq_isSome.trans Option.isSome_map.symm

theorem AllMade.mem_subscriptions (hs : AllMade s) {row : SubscriptionRow} :
    row ∈ s.subscriptions.rows ↔
      s.row? ⟨.subscriptions, [row.id]⟩ = some (.subscription row) := by
  have hfind : s.subscriptions.find? [row.id] = some row ↔ row ∈ s.subscriptions.rows :=
    (Table.find?_eq_some_iff (r := row) hs.subscriptions).trans (and_iff_left rfl)
  rw [← hfind]
  exact (Option.map_injective fun _ _ => StoredRow.subscription.inj).eq_iff.symm

theorem AllMade.command_eq (hs : AllMade s) (ht : AllMade t) {id : String}
    (h : s.row? ⟨.commands, [.text id]⟩ = t.row? ⟨.commands, [.text id]⟩) :
    s.command id = t.command id := by
  have hfind : s.commands.find? [.text id] = t.commands.find? [.text id] :=
    Option.map_injective (fun _ _ => StoredRow.command.inj) h
  unfold command
  rw [Table.naming_made hs.commands, Table.naming_made ht.commands, hfind]

/-- Two stores in which a write finds the same. Who has the service is asked only after the account
of a new subscription has been found, or the subscription that is to be changed. -/
structure SameFor (w : Write) (s t : Store) : Prop where
  slot : ∀ slot, w.slot? = some slot → s.row? slot = t.row? slot
  account : ∀ id, w.refersTo? = some id → s.hasAccount id = t.hasAccount id
  added : ∀ v, w = .addSubscription v → s.hasAccount v.account = true →
    (s.Contested v ↔ t.Contested v)
  updated : ∀ v, w = .updateSubscription v → s.hasSubscription v.id = true →
    (s.Contested v ↔ t.Contested v)

/-- The same failures for the same reasons, as far as the reasons are asked for. -/
def Agree : List Refusal → List Refusal → Prop
  | [], [] => True
  | first :: rest, first' :: rest' =>
    first.failure = first'.failure ∧ (first.reason ↔ first'.reason) ∧
      (¬ first.reason → Agree rest rest')
  | _, _ => False

theorem SameFor.refusals (h : SameFor w s t) : Agree (s.refusals w) (t.refusals w) := by
  cases w with
  | createAccount a =>
    have hown := h.slot _ rfl
    simp [Store.refusals, Agree, hasAccount_eq, hown]
  | addMember m =>
    have haccount := h.account _ rfl
    simp [Store.refusals, Agree, haccount]
  | createPlan p =>
    have hown := h.slot _ rfl
    simp [Store.refusals, Agree, hasPlan_eq, hown]
  | addSubscription v =>
    have hown := h.slot _ rfl
    have haccount := h.account _ rfl
    refine ⟨rfl, by simp [haccount], fun hthere => ⟨rfl, or_congr ?_ ?_, fun _ => trivial⟩⟩
    · exact h.added v rfl (by simpa using hthere)
    · simp [hasSubscription_eq, hown]
  | updateSubscription v =>
    have hown := h.slot _ rfl
    have haccount := h.account _ rfl
    refine ⟨rfl, by simp [hasSubscription_eq, hown], fun hthere => ⟨rfl, ?_, fun _ => ?_⟩⟩
    · exact h.updated v rfl (by simpa using hthere)
    · exact ⟨rfl, by simp [haccount], fun _ => trivial⟩
  | removeSubscription id =>
    have hown := h.slot _ rfl
    simp [Store.refusals, Agree, hasSubscription_eq, hown]
  | createCommand c =>
    have hown := h.slot _ rfl
    simp [Store.refusals, Agree, hasCommand_eq, hown]
  | updateCommand u =>
    cases hu : u.id with
    | none => simp [Store.refusals, Agree, hu]
    | some id =>
      have hown := h.slot ⟨.commands, [.text id]⟩ (by simp [Write.slot?, hu])
      simp [Store.refusals, Agree, hu, hasCommand_eq, hown]
  | removeCommand id =>
    have hown := h.slot _ rfl
    simp [Store.refusals, Agree, hasCommand_eq, hown]
  | addWorkspaceMember m => trivial

theorem SameFor.leaves (hs : Written s) (ht : Written t) (h : SameFor w s t) :
    s.leaves w = t.leaves w := by
  cases w with
  | updateCommand u =>
    cases hu : u.id with
    | none => simp [Store.leaves, hu]
    | some id =>
      have hown := h.slot ⟨.commands, [.text id]⟩ (by simp [Write.slot?, hu])
      simp [Store.leaves, hu, hs.made.command_eq ht.made hown]
  | _ => rfl

/-! ## What comes of a write -/

theorem Ends.outcome_eq {done done' : Store → Prop} {refusals refusals' : List Refusal}
    (h : s.Ends w done refusals) (h' : t.Ends w done' refusals')
    (hagree : Agree refusals refusals') : s.outcome w = t.outcome w := by
  induction refusals generalizing refusals' with
  | nil =>
    cases refusals' with
    | nil =>
      unfold outcome
      rw [h.1, h'.1]
      rfl
    | cons first' rest' => exact absurd hagree id
  | cons first rest ih =>
    cases refusals' with
    | nil => exact absurd hagree id
    | cons first' rest' =>
      obtain ⟨hfailure, hreason, hrest⟩ := hagree
      by_cases hyes : first.reason
      · unfold outcome
        rw [h.1.2 hyes, h'.1.2 (hreason.1 hyes), hfailure]
      · exact ih (h.2.2 hyes) (h'.2.2 (mt hreason.2 hyes)) (hrest hyes)

theorem Ends.done {done : Store → Prop} {refusals : List Refusal} (h : s.Ends w done refusals)
    (hw : s.write w = .ok t) : done t := by
  induction refusals with
  | nil => exact next_of_ok hw ▸ h.2
  | cons first rest ih =>
    refine ih (h.2.2 fun hyes => ?_)
    have hrefused := h.1.2 hyes
    rw [hw] at hrefused
    exact absurd hrefused (by simp)

theorem outcome_eq_ok : s.outcome w = .ok () ↔ ∃ t, s.write w = .ok t := by
  unfold outcome
  cases s.write w <;> simp

section

variable (hs : Written s)
include hs

theorem Written.settles (hw : s.write w = .ok t) : s.Settles w t := (hs.write_ends w).done hw

theorem Written.next (w : Write) : Written (s.next (.call w)) := by
  cases hw : s.write w with
  | error f => rwa [next_of_error hw]
  | ok t => exact next_of_ok hw ▸ written_write hs hw

theorem Written.others_next (w : Write) : (s.next (.call w)).others = s.others := by
  cases hw : s.write w with
  | error f => rw [next_of_error hw]
  | ok t => rw [next_of_ok hw, (hs.settles hw).others]

/-- A write leaves every slot alone but its own. -/
theorem Written.row?_next {slot : RowSlot} (hslot : w.slot? ≠ some slot) :
    (s.next (.call w)).row? slot = s.row? slot := by
  cases hw : s.write w with
  | error f => rw [next_of_error hw]
  | ok t => rw [next_of_ok hw, (hs.settles hw).row?, if_neg hslot]

/-- Where a write finds the same, the same comes of it. -/
theorem SameFor.next (ht : Written t) (h : SameFor w s t) : s.outcome w = t.outcome w ∧
    ∀ slot, w.slot? = some slot → (s.next (.call w)).row? slot = (t.next (.call w)).row? slot := by
  have houtcome := (hs.write_ends w).outcome_eq (ht.write_ends w) h.refusals
  refine ⟨houtcome, fun slot hslot => ?_⟩
  cases hw : s.write w with
  | error f =>
    cases hw' : t.write w with
    | error f' => rw [next_of_error hw, next_of_error hw', h.slot slot hslot]
    | ok t' =>
      rw [outcome_eq_ok.2 ⟨t', hw'⟩] at houtcome
      obtain ⟨s', hs'⟩ := outcome_eq_ok.1 houtcome
      exact absurd (hw.symm.trans hs') (by simp)
  | ok s' =>
    rw [outcome_eq_ok.2 ⟨s', hw⟩] at houtcome
    obtain ⟨t', hw'⟩ := outcome_eq_ok.1 houtcome.symm
    rw [next_of_ok hw, next_of_ok hw', (hs.settles hw).row?, (ht.settles hw').row?, if_pos hslot,
      if_pos hslot, h.leaves hs ht]

/-- What a write changes in its own slot are subscriptions that it concerns. -/
theorem Written.concerns_of_own {row : SubscriptionRow} (haccount : row.account = .text account)
    (hservice : row.service = .text service) (hslot : w.slot? = some ⟨.subscriptions, [row.id]⟩)
    (hw : s.write w = .ok t) (hrow : row ∈ t.subscriptions.rows ∨ row ∈ s.subscriptions.rows) :
    s.Concerns account service w := by
  have hsettles := (hs.settles hw).row? ⟨.subscriptions, [row.id]⟩
  rw [if_pos hslot] at hsettles
  rw [(written_write hs hw).made.mem_subscriptions, hsettles] at hrow
  cases w with
  | addSubscription v =>
    have hid : row.id = .text v.id := by simpa [Write.slot?, eq_comm] using hslot
    obtain ⟨hthere, -, T, hT, -⟩ := insertSubscription_ok (addSubscription_ok hw)
    rcases hrow with hrow | hrow
    · obtain rfl : SubscriptionRow.ofSubscription v = row := by simpa [leaves] using hrow
      exact ⟨hthere hs.made.subscriptions, Cell.text.inj haccount, Cell.text.inj hservice⟩
    · -- a new subscription is not written over another one
      have hfree := hT.not_hasKey hs.made.subscriptions
      have htaken := hasSubscription_iff.2 ⟨row, hrow, hid⟩
      exact absurd (hfree.symm.trans htaken) (by simp)
  | updateSubscription v =>
    have hid : row.id = .text v.id := by simpa [Write.slot?, eq_comm] using hslot
    rcases hrow with hrow | hrow
    · obtain ⟨old, hold, holdid⟩ := hasSubscription_iff.1 (updateSubscription_ok hw).there
      obtain rfl : SubscriptionRow.ofSubscription v = row := by simpa [leaves] using hrow
      exact ⟨old, hold, holdid, Or.inr ⟨Cell.text.inj haccount, Cell.text.inj hservice⟩⟩
    · exact ⟨row, hrow, hid, Or.inl ⟨haccount, hservice⟩⟩
  | removeSubscription id =>
    have hid : row.id = .text id := by simpa [Write.slot?, eq_comm] using hslot
    rcases hrow with hrow | hrow
    · exact absurd hrow (by simp [leaves])
    · exact ⟨row, hrow, hid, haccount, hservice⟩
  | updateCommand u => simp [Write.slot?] at hslot
  | _ => exact absurd hslot (by simp [Write.slot?])

/-- A write has nothing to do with subscriptions to what it does not concern. -/
theorem Written.subscriptions_next {row : SubscriptionRow} (haccount : row.account = .text account)
    (hservice : row.service = .text service) (hno : ¬ s.Concerns account service w) :
    row ∈ (s.next (.call w)).subscriptions.rows ↔ row ∈ s.subscriptions.rows := by
  by_cases hslot : w.slot? = some ⟨.subscriptions, [row.id]⟩
  · cases hw : s.write w with
    | error f => rw [next_of_error hw]
    | ok t =>
      have hown := hs.concerns_of_own haccount hservice hslot hw
      rw [next_of_ok hw]
      exact iff_of_false (fun hrow => hno (hown (Or.inl hrow))) fun hrow => hno (hown (Or.inr hrow))
  · rw [(hs.next w).made.mem_subscriptions, hs.made.mem_subscriptions, hs.row?_next hslot]

/-- A write contests nothing that it does not concern, and settles no contest about it. -/
theorem Written.contested_next {v : Subscription} (hno : ¬ s.Concerns v.account v.service w) :
    s.Contested v ↔ (s.next (.call w)).Contested v := by
  refine and_congr_right fun _ => exists_congr fun row => ?_
  have hpair (hgives : row.gives v.account v.service = true) :
      row.account = .text v.account ∧ row.service = .text v.service := by
    simp only [SubscriptionRow.gives, Bool.and_eq_true, decide_eq_true_eq] at hgives
    exact hgives.1
  constructor
  · rintro ⟨hrow, hid, hgives⟩
    obtain ⟨haccount, hservice⟩ := hpair hgives
    exact ⟨(hs.subscriptions_next haccount hservice hno).2 hrow, hid, hgives⟩
  · rintro ⟨hrow, hid, hgives⟩
    obtain ⟨haccount, hservice⟩ := hpair hgives
    exact ⟨(hs.subscriptions_next haccount hservice hno).1 hrow, hid, hgives⟩

/-- **A write finds the same before and after one that it does not meet.** -/
theorem Independent.sameFor (h : s.Independent w w') : SameFor w s (s.next (.call w')) where
  slot slot hslot := (hs.row?_next (h.slots slot hslot)).symm
  account id hid := by
    have hother : w'.slot? ≠ some ⟨.accounts, [.text id]⟩ := by
      intro hslot
      cases w' with
      | createAccount a =>
        obtain rfl : a.id = id := by simpa [Write.slot?] using hslot
        exact h.made' a rfl hid
      | updateCommand u => simp [Write.slot?] at hslot
      | _ => exact absurd hslot (by simp [Write.slot?])
    rw [hasAccount_eq, hasAccount_eq, hs.row?_next hother]
  added := by
    rintro v rfl hthere
    exact hs.contested_next (h.services _ _ ⟨hthere, rfl, rfl⟩)
  updated := by
    rintro v rfl hthere
    obtain ⟨row, hrow, hid⟩ := hasSubscription_iff.1 hthere
    exact hs.contested_next (h.services _ _ ⟨row, hrow, hid, Or.inr ⟨rfl, rfl⟩⟩)

/-- The slot of the one of two writes is the same whichever comes first. -/
theorem Independent.row?_comm (h : s.Independent w w') {slot : RowSlot}
    (hslot : w.slot? = some slot) : ((s.next (.call w)).next (.call w')).row? slot
      = ((s.next (.call w')).next (.call w)).row? slot :=
  calc ((s.next (.call w)).next (.call w')).row? slot
    _ = (s.next (.call w)).row? slot := (hs.next w).row?_next (h.slots slot hslot)
    _ = ((s.next (.call w')).next (.call w)).row? slot :=
      ((h.sameFor hs).next hs (hs.next w')).2 slot hslot

/-- **Writes that do not meet commute**: in a store that calls have written, each reports what it
reports alone, failures included, and both leave the same store, whichever comes first. -/
theorem writes_commute (h : s.Independent w w') :
    (s.next (.call w)).outcome w' = s.outcome w' ∧
      (s.next (.call w')).outcome w = s.outcome w ∧
        s.run [.call w, .call w'] = s.run [.call w', .call w] := by
  refine ⟨?_, ?_, ?_⟩
  · exact (((h.symm.sameFor hs).next hs (hs.next w)).1).symm
  · exact (((h.sameFor hs).next hs (hs.next w')).1).symm
  · have hfirst := (hs.next w).next w'
    have hsecond := (hs.next w').next w
    refine hfirst.made.eq_of_row? hsecond.made ?_ fun slot => ?_
    · exact calc ((s.next (.call w)).next (.call w')).others
        _ = s.others := ((hs.next w).others_next w').trans (hs.others_next w)
        _ = ((s.next (.call w')).next (.call w)).others :=
          (((hs.next w').others_next w).trans (hs.others_next w')).symm
    · by_cases hslot : w.slot? = some slot
      · exact h.row?_comm hs hslot
      · by_cases hslot' : w'.slot? = some slot
        · exact (h.symm.row?_comm hs hslot').symm
        · show ((s.next (.call w)).next (.call w')).row? slot
            = ((s.next (.call w')).next (.call w)).row? slot
          rw [(hs.next w).row?_next hslot', hs.row?_next hslot, (hs.next w').row?_next hslot,
            hs.row?_next hslot']

end

/-- An account moves the old of its two subscriptions to another service and takes up a third one,
to a service that is neither of the two. -/
theorem writes_commute_moved :
    (returned.next (.call (.updateSubscription (.bare "old" "acme" "wiki" .active)))).outcome
        (.addSubscription (.bare "third" "acme" "chat" .active)) = .ok () ∧
      returned.run [.call (.updateSubscription (.bare "old" "acme" "wiki" .active)),
          .call (.addSubscription (.bare "third" "acme" "chat" .active))]
        = returned.run [.call (.addSubscription (.bare "third" "acme" "chat" .active)),
          .call (.updateSubscription (.bare "old" "acme" "wiki" .active))] := by
  have hindependent : returned.Independent (.updateSubscription (.bare "old" "acme" "wiki" .active))
      (.addSubscription (.bare "third" "acme" "chat" .active)) :=
    { slots := by decide
      made := by simp [Write.account?]
      made' := by simp [Write.account?]
      services := by
        have hmail : ∀ row ∈ returned.subscriptions.rows, row.service = .text "mail" := by decide
        rintro account service ⟨row, hrow, -, ⟨-, hwas⟩ | ⟨-, hwill⟩⟩ ⟨-, -, rfl⟩
        · exact absurd (hwas.symm.trans (hmail row hrow)) (by decide)
        · exact absurd hwill (by decide) }
  obtain ⟨hsame, -, hrun⟩ := writes_commute (written_run written_empty _) hindependent
  exact ⟨hsame.trans rfl, hrun⟩

end Store

end CloudIde
