import CloudIde.Proofs.OneActive
import CloudIde.Proofs.WrittenReads

/-!
# How writes of subscriptions end

Three calls write subscriptions, and each can be refused for several reasons. Some are looked for
before the statement, some are demands of the table that the statement runs into, and that there was
nothing to write is known afterwards, from the number of rows that were written. So the reasons have
an order, and a call fails for the first one that there is: a subscription that is not there is not
asked for its account, and who takes a service that is in use is not asked either.

A subscription is **contested** when it is active and another active one gives the same account the
same service. One of the same id is no other: a subscription does not stand in its own way.
-/

namespace CloudIde.Store

variable {s t : Store} {v : Subscription} {w : Write} {done : Store → Prop}

/-! ## Reasons in their order -/

/-- A reason to refuse a call, and the failure that reports it. -/
structure Refusal where
  reason : Prop
  failure : Failure
  kind : FailureKind
  kind_eq : failure.kind = kind

/-- A call fails for the first of some reasons that there is, and keeps the store then. Without any
of them it succeeds, and what it leaves is as described. -/
def Ends (s : Store) (w : Write) (done : Store → Prop) : List Refusal → Prop
  | [] => s.write w = .ok (s.next (.call w)) ∧ done (s.next (.call w))
  | first :: rest =>
    (s.write w = .error first.failure ↔ first.reason) ∧
      (first.reason → s.next (.call w) = s) ∧ (¬ first.reason → s.Ends w done rest)

theorem next_of_ok (hw : s.write w = .ok t) : s.next (.call w) = t := by
  simp [next, orKept, hw]

theorem next_of_error {f : Failure} (hw : s.write w = .error f) : s.next (.call w) = s := by
  simp [next, orKept, hw]

theorem Ends.nil (hw : s.write w = .ok t) (hdone : done t) : s.Ends w done [] := by
  show s.write w = .ok (s.next (.call w)) ∧ done (s.next (.call w))
  rw [next_of_ok hw]
  exact ⟨hw, hdone⟩

/-- A call does not fail but for its reasons. -/
theorem Ends.write_ne {refusals : List Refusal} (h : s.Ends w done refusals) {f : Failure}
    (hf : ∀ r ∈ refusals, r.failure ≠ f) : s.write w ≠ .error f := by
  induction refusals with
  | nil =>
    intro hw
    have hok : s.write w = .ok (s.next (.call w)) := h.1
    exact absurd (hw.symm.trans hok) (by simp)
  | cons first rest ih =>
    obtain ⟨hfirst, -, hrest⟩ := h
    intro hw
    by_cases hreason : first.reason
    · have hsame : first.failure = f := Except.error.inj ((hfirst.2 hreason).symm.trans hw)
      exact hf first List.mem_cons_self hsame
    · exact ih (hrest hreason) (fun r hr => hf r (List.mem_cons_of_mem first hr)) hw

/-- One reason more, which comes before the others. -/
theorem Ends.cons {first : Refusal} {rest : List Refusal}
    (hrefused : first.reason → s.write w = .error first.failure)
    (hrest : ¬ first.reason → s.Ends w done rest)
    (hdiffer : ∀ r ∈ rest, r.failure ≠ first.failure) : s.Ends w done (first :: rest) := by
  refine ⟨⟨fun hw => ?_, hrefused⟩, fun hreason => next_of_error (hrefused hreason), hrest⟩
  exact Classical.byContradiction fun hno => (hrest hno).write_ne hdiffer hw

/-! ## What stands in the way of a subscription -/

/-- Whether there is a subscription with an id. -/
def hasSubscription (s : Store) (id : String) : Bool := s.subscriptions.hasKey [.text id]

/-- Another active subscription gives the account the service. -/
def Contested (s : Store) (v : Subscription) : Prop :=
  v.isActive = true ∧ ∃ row ∈ s.subscriptions.rows,
    row.id ≠ .text v.id ∧ row.gives v.account v.service = true

instance (s : Store) (v : Subscription) : Decidable (s.Contested v) :=
  inferInstanceAs (Decidable (_ ∧ ∃ row ∈ s.subscriptions.rows, _ ∧ _))

theorem hasSubscription_iff {id : String} :
    s.hasSubscription id = true ↔ ∃ row ∈ s.subscriptions.rows, row.id = .text id := by
  unfold hasSubscription
  rw [Table.hasKey_iff]
  simp [Row.key]

/-- What clashes with a new subscription contests it, or has its id. -/
theorem clashes_iff : s.subscriptions.rows.any (SubscriptionRow.ofSubscription v).clashesWith = true
      ∨ s.hasSubscription v.id = true ↔ s.Contested v ∨ s.hasSubscription v.id = true := by
  simp only [List.any_eq_true, SubscriptionRow.clashesWith_ofSubscription, Bool.and_eq_true]
  constructor
  · rintro (⟨row, hrow, hactive, hgives⟩ | hid)
    · by_cases hrid : row.id = .text v.id
      · exact Or.inr (hasSubscription_iff.2 ⟨row, hrow, hrid⟩)
      · exact Or.inl ⟨hactive, row, hrow, hrid, hgives⟩
    · exact Or.inr hid
  · rintro (⟨hactive, row, hrow, -, hgives⟩ | hid)
    · exact Or.inl ⟨row, hrow, hactive, hgives⟩
    · exact Or.inr hid

/-- What clashes with a changed subscription contests it, as its own row is the only one of its
id. -/
theorem clashesElsewhere_iff (hm : s.subscriptions.layout = .made) :
    s.clashesElsewhere (.ofSubscription v) = true ↔ s.Contested v := by
  have hone : ¬ 1 < s.subscriptions.count (Row.key (SubscriptionRow.ofSubscription v)) :=
    Nat.not_lt.2 (Table.count_le_one hm _)
  have hid : (SubscriptionRow.ofSubscription v).id = .text v.id := rfl
  unfold clashesElsewhere Contested
  simp only [hone, decide_false, Bool.false_and, Bool.or_false, List.any_eq_true, hid,
    SubscriptionRow.clashesWith_ofSubscription, Bool.and_eq_true, decide_eq_true_eq]
  constructor
  · rintro ⟨row, hrow, hrid, hactive, hgives⟩
    exact ⟨hactive, row, hrow, hrid, hgives⟩
  · rintro ⟨hactive, row, hrow, hrid, hgives⟩
    exact ⟨row, hrow, hrid, hactive, hgives⟩

/-! ## The calls -/

/-- A store is kept but for the subscription with an id, of which there is the one that is given, or
none. -/
structure Rewritten (s : Store) (id : String) (v : Option Subscription) (t : Store) : Prop where
  tables : t = { s with subscriptions := t.subscriptions }
  others : ∀ row, row.id ≠ .text id → (row ∈ t.subscriptions.rows ↔ row ∈ s.subscriptions.rows)
  own : ∀ row, row.id = .text id →
    (row ∈ t.subscriptions.rows ↔ ∃ w ∈ v, row = .ofSubscription w)

theorem rewritten_inserted {T : Table SubscriptionRow} (hT : s.subscriptions.Inserted
    (.ofSubscription v) T) (hfree : ¬ s.hasSubscription v.id = true) :
    s.Rewritten v.id (some v) { s with subscriptions := T } where
  tables := rfl
  others row hid := by
    have hother : row ≠ .ofSubscription v := by
      rintro rfl
      exact hid rfl
    rw [hT.mem_iff]
    exact or_iff_right hother
  own row hid := by
    have hnew : row ∉ s.subscriptions.rows := fun hrow =>
      hfree (hasSubscription_iff.2 ⟨row, hrow, hid⟩)
    rw [hT.mem_iff]
    simp [hnew]

theorem rewritten_replaced (hthere : s.hasSubscription v.id = true) : s.Rewritten v.id (some v)
    { s with subscriptions := s.subscriptions.replace (.ofSubscription v) } where
  tables := rfl
  others row hid := by
    have hother : row ≠ .ofSubscription v := by
      rintro rfl
      exact hid rfl
    have hkey : Row.key row ≠ Row.key (SubscriptionRow.ofSubscription v) :=
      mt SubscriptionRow.key_eq_iff.1 hid
    rw [Table.mem_replace]
    simp [hother, hkey]
  own row hid := by
    have hkey : Row.key row = Row.key (SubscriptionRow.ofSubscription v) :=
      SubscriptionRow.key_eq_iff.2 hid
    have hwritten : s.subscriptions.hasKey (Row.key (SubscriptionRow.ofSubscription v)) = true :=
      hthere
    rw [Table.mem_replace]
    simp [hkey, hwritten]

theorem rewritten_erased (s : Store) (id : String) : s.Rewritten id none
    { s with subscriptions := s.subscriptions.erase [.text id] } where
  tables := rfl
  others row hid := by
    have hkey : Row.key row ≠ [Cell.text id] := mt SubscriptionRow.key_eq_iff.1 hid
    rw [Table.mem_erase]
    exact and_iff_left hkey
  own row hid := by
    have hkey : Row.key row = [Cell.text id] := SubscriptionRow.key_eq_iff.2 hid
    rw [Table.mem_erase]
    simp [hkey]

/-- Nothing is asked of the rows here, which others may have written. -/
theorem AllMade.updateSubscription_ends (hs : AllMade s) (v : Subscription) :
    s.Ends (.updateSubscription v) (s.Rewritten v.id (some v))
      [⟨s.hasSubscription v.id = false, .subscriptionNotFound v.id, .notFound, rfl⟩,
        ⟨s.Contested v, .alreadySubscribed v.account v.service, .conflict, rfl⟩,
        ⟨s.hasAccount v.account = false, .database .foreignKey, .database, rfl⟩] := by
  have hstart : s.updateSubscription v =
      if s.hasSubscription v.id then
        if s.clashesElsewhere (.ofSubscription v) then
          .error (.alreadySubscribed v.account v.service)
        else do
          s.referring s.subscriptions (.text v.account)
          .ok { s with subscriptions := s.subscriptions.replace (.ofSubscription v) }
      else .error (.subscriptionNotFound v.id) := by
    unfold updateSubscription
    rw [Table.naming_made hs.subscriptions, relating_made hs]
    rfl
  refine .cons (fun hmissing => ?_) (fun hthere => ?_) (by simp)
  · show s.updateSubscription v = _
    rw [hstart, if_neg (by simpa using hmissing)]
  · have hid : s.hasSubscription v.id = true := by simpa using hthere
    rw [if_pos hid] at hstart
    refine .cons (fun hcontested => ?_) (fun hfree => ?_) (by simp)
    · show s.updateSubscription v = _
      rw [hstart, if_pos ((clashesElsewhere_iff hs.subscriptions).2 hcontested)]
    · rw [if_neg (mt (clashesElsewhere_iff hs.subscriptions).1 hfree)] at hstart
      refine .cons (fun hmissing => ?_) (fun hthere => ?_) (by simp)
      · have hmissing : s.accounts.hasKey [.text v.account] = false := hmissing
        show s.updateSubscription v = _
        rw [hstart]
        simp [referring, hs.subscriptions, hmissing]
      · have haccount : s.accounts.hasKey [.text v.account] = true := by
          simpa [hasAccount] using hthere
        have hok : s.write (.updateSubscription v)
            = .ok { s with subscriptions := s.subscriptions.replace (.ofSubscription v) } := by
          show s.updateSubscription v = _
          rw [hstart]
          simp [referring, haccount]
        exact .nil hok (rewritten_replaced hid)

section

variable (hs : Written s)
include hs

theorem Written.insertSubscription_eq (haccount : s.hasAccount v.account = true) :
    (s.Contested v ∨ s.hasSubscription v.id = true →
        s.insertSubscription v = .error (.alreadySubscribed v.account v.service)) ∧
      (¬ (s.Contested v ∨ s.hasSubscription v.id = true) →
        ∃ T, s.subscriptions.Inserted (.ofSubscription v) T ∧
          s.insertSubscription v = .ok { s with subscriptions := T }) := by
  have hreferring : s.referring s.subscriptions (SubscriptionRow.ofSubscription v).account
      = .ok () := by
    have hfound : s.accounts.hasKey [.text v.account] = true := haccount
    show s.referring s.subscriptions (.text v.account) = .ok ()
    simp [referring, hfound]
  have htaken := hs.insert?_isSome v
  unfold insertSubscription
  rw [Table.filling_made hs.made.subscriptions, relating_made hs.made, ← clashes_iff]
  simp only [ok_bind]
  cases hT : s.subscriptions.insert? (.ofSubscription v) with
  | none =>
    rw [hT] at htaken
    have hid : s.hasSubscription v.id = true := by simpa [hasSubscription] using htaken.symm
    exact ⟨fun _ => rfl, fun hno => absurd (Or.inr hid) hno⟩
  | some T =>
    rw [hT] at htaken
    have hid : s.hasSubscription v.id = false := by simpa [hasSubscription] using htaken.symm
    simp only [hid, Bool.false_eq_true, or_false]
    by_cases hclash : s.subscriptions.rows.any (SubscriptionRow.ofSubscription v).clashesWith = true
    · exact ⟨fun _ => if_pos hclash, fun hno => absurd hclash hno⟩
    · refine ⟨fun hyes => absurd hyes hclash, fun _ => ⟨T, Table.insert?_some hT, ?_⟩⟩
      rw [if_neg hclash, hreferring]
      rfl

/-- When nothing contests the subscription, looking for an active one beforehand finds none. -/
theorem Written.addSubscription_eq (haccount : s.hasAccount v.account = true) :
    s.addSubscription v = s.insertSubscription v := by
  have hthere : s.accounts.hasKey [.text v.account] = true := haccount
  unfold addSubscription
  rw [Table.naming_made hs.made.accounts, ok_bind, if_pos hthere]
  split
  · next hactive =>
    unfold activeSubscription
    rw [Table.naming_made hs.made.subscriptions, ok_bind]
    split
    · next row hrow =>
      -- the insertion would run into the same row
      have hmem := List.mem_of_find?_eq_some hrow
      have hgives : row.gives v.account v.service = true := by simpa using List.find?_some hrow
      obtain ⟨w, rfl, -⟩ := hs.subscription row hmem
      rw [SubscriptionRow.readOne_ofSubscription]
      refine (((hs.insertSubscription_eq haccount).1 (clashes_iff.1 (Or.inl ?_)))).symm
      refine List.any_eq_true.2 ⟨_, hmem, ?_⟩
      rw [SubscriptionRow.clashesWith_ofSubscription, hactive, hgives]
      rfl
    · rfl
  · rfl

theorem Written.addSubscription_ends :
    s.Ends (.addSubscription v) (s.Rewritten v.id (some v))
      [⟨s.hasAccount v.account = false, .accountNotFound v.account, .notFound, rfl⟩,
        ⟨s.Contested v ∨ s.hasSubscription v.id = true,
          .alreadySubscribed v.account v.service, .conflict, rfl⟩] := by
  refine .cons (fun hmissing => ?_) (fun hthere => ?_) (by simp)
  · have hmissing : s.accounts.hasKey [.text v.account] = false := hmissing
    show s.addSubscription v = _
    unfold addSubscription
    rw [Table.naming_made hs.made.accounts, ok_bind, hmissing]
    rfl
  · have haccount : s.hasAccount v.account = true := by simpa using hthere
    have hinsert := hs.insertSubscription_eq haccount
    rw [← hs.addSubscription_eq haccount] at hinsert
    refine .cons hinsert.1 (fun hfree => ?_) (by simp)
    obtain ⟨T, hT, hok⟩ := hinsert.2 hfree
    exact .nil hok (rewritten_inserted hT fun hid => hfree (Or.inr hid))

theorem Written.removeSubscription_ends (id : String) :
    s.Ends (.removeSubscription id) (s.Rewritten id none)
      [⟨s.hasSubscription id = false, .subscriptionNotFound id, .notFound, rfl⟩] := by
  have hstart : s.removeSubscription id =
      if s.hasSubscription id then
        .ok { s with subscriptions := s.subscriptions.erase [.text id] }
      else .error (.subscriptionNotFound id) := by
    unfold removeSubscription
    rw [Table.naming_made hs.made.subscriptions, relating_made hs.made]
    rfl
  refine .cons (fun hmissing => ?_) (fun hthere => ?_) (by simp)
  · show s.removeSubscription id = _
    rw [hstart, if_neg (by simpa using hmissing)]
  · have hid : s.hasSubscription id = true := by simpa using hthere
    rw [if_pos hid] at hstart
    exact .nil hstart (rewritten_erased s id)

/-- **How writes of subscriptions end**, with all reasons to refuse them. In a store that calls have
written:

* a new subscription needs an account that is there, no contest, and an id that is free;
* a changed one has to be there, needs no contest, and then an account that is there;
* one that is removed has to be there.

Whoever is refused leaves the store as it was, and all others write the row of the id alone. -/
theorem subscription_writes (v : Subscription) (id : String) :
    s.Ends (.addSubscription v) (s.Rewritten v.id (some v))
        [⟨s.hasAccount v.account = false, .accountNotFound v.account, .notFound, rfl⟩,
          ⟨s.Contested v ∨ s.hasSubscription v.id = true,
            .alreadySubscribed v.account v.service, .conflict, rfl⟩] ∧
      s.Ends (.updateSubscription v) (s.Rewritten v.id (some v))
        [⟨s.hasSubscription v.id = false, .subscriptionNotFound v.id, .notFound, rfl⟩,
          ⟨s.Contested v, .alreadySubscribed v.account v.service, .conflict, rfl⟩,
          ⟨s.hasAccount v.account = false, .database .foreignKey, .database, rfl⟩] ∧
      s.Ends (.removeSubscription id) (s.Rewritten id none)
        [⟨s.hasSubscription id = false, .subscriptionNotFound id, .notFound, rfl⟩] :=
  ⟨hs.addSubscription_ends, hs.made.updateSubscription_ends v, hs.removeSubscription_ends id⟩

end

/-- An account that came back to mail moves its old subscription on: to mail it cannot, as the new
one stands in the way; to an account that is not there it cannot, for any service; it can be taken
away, and the new one stays. -/
theorem subscription_writes_returned :
    returned.write (.updateSubscription (.bare "old" "acme" "mail" .active))
        = .error (.alreadySubscribed "acme" "mail") ∧
      returned.write (.updateSubscription (.bare "old" "nobody" "mail" .active))
        = .error (.database .foreignKey) ∧
      ∃ t, returned.write (.removeSubscription "old") = .ok t ∧ returned.Rewritten "old" none t := by
  have hwritten : Written returned := written_run written_empty _
  obtain ⟨-, ⟨-, -, hcontest⟩, ⟨-, -, hremoved⟩⟩ :=
    subscription_writes hwritten (.bare "old" "acme" "mail" .active) "old"
  obtain ⟨-, ⟨-, -, hmoved⟩, -⟩ :=
    subscription_writes hwritten (.bare "old" "nobody" "mail" .active) "old"
  obtain ⟨hcontested, -, -⟩ := hcontest (by decide +kernel)
  obtain ⟨-, -, hnobody⟩ := hmoved (by decide +kernel)
  obtain ⟨hforeign, -, -⟩ := hnobody (by decide +kernel)
  exact ⟨hcontested.2 (by decide +kernel), hforeign.2 (by decide +kernel),
    _, hremoved (by decide +kernel)⟩

end CloudIde.Store
