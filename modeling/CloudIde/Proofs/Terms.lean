import CloudIde.Proofs.ReadBack
import CloudIde.Proofs.Subscribing

/-!
# The terms of a plan

A subscription is drafted from a plan, and `Follows` says what of the plan is found in it again.
Three things may be chosen: the values of properties, a trial, and whether to pay. None of them goes
beyond the plan: the properties have the same names, a trial has at least a day and whole days, and
only what is charged is paid for. This holds of the drafts for privileged callers as well, for whom
the other checks are left out.
-/

namespace CloudIde

namespace Dict

theorem contains_iff {d : Dict} {key : String} : d.contains key = true ↔ key ∈ d.keys := by
  unfold contains keys
  rw [List.any_eq_true, List.mem_map]
  simp

/-- An entry that replaces another leaves the keys as they are. -/
theorem keys_insertEntry {key value : String} {entries : List (String × String)}
    (hascending : entries.Pairwise fun a b => a.1 < b.1) (h : key ∈ entries.map (·.1)) :
    (insertEntry key value entries).map (·.1) = entries.map (·.1) := by
  induction entries with
  | nil => exact absurd h List.not_mem_nil
  | cons e rest ih =>
    obtain ⟨hfirst, hrest⟩ := List.pairwise_cons.1 hascending
    have hcases : key = e.1 ∨ key ∈ rest.map (·.1) := List.mem_cons.1 h
    unfold insertEntry
    split
    · next hbelow =>
      -- no key stands before the first one
      rcases hcases with rfl | hlater
      · exact absurd hbelow (String.lt_irrefl _)
      · obtain ⟨other, hother, rfl⟩ := List.mem_map.1 hlater
        exact absurd (String.lt_trans hbelow (hfirst other hother)) (String.lt_irrefl _)
    · next hnotBelow =>
      split
      · next habove =>
        rcases hcases with rfl | hlater
        · exact absurd habove (String.lt_irrefl _)
        · rw [List.map_cons, List.map_cons, ih hrest hlater]
      · next hnotAbove =>
        have hsame : key = e.1 :=
          String.le_antisymm (String.not_lt.1 hnotAbove) (String.not_lt.1 hnotBelow)
        rw [List.map_cons, List.map_cons, hsame]

theorem keys_insert {d : Dict} {key : String} (value : String) (h : key ∈ d.keys) :
    (d.insert key value).keys = d.keys := keys_insertEntry d.ascending h

theorem isEmpty_iff {d : Dict} : d.isEmpty = true ↔ d = empty := by
  obtain ⟨entries, hascending⟩ := d
  rw [isEmpty, List.isEmpty_iff]
  refine ⟨fun h => ?_, fun h => congrArg Dict.entries h⟩
  cases h
  rfl

/-- An entry that is put into its place is found by its key, and the others are found as before. -/
theorem find?_insertEntry (key value name : String) (entries : List (String × String)) :
    (insertEntry key value entries).find? (fun e => e.1 = name) =
      if key = name then some (key, value) else entries.find? (fun e => e.1 = name) := by
  induction entries with
  | nil => by_cases h : key = name <;> simp [insertEntry, h]
  | cons e rest ih =>
    unfold insertEntry
    split
    · by_cases h : key = name <;> simp [h]
    · next hnotBelow =>
      split
      · next habove =>
        have hne : e.1 ≠ key := fun he => String.lt_irrefl key (he ▸ habove)
        by_cases hname : e.1 = name
        · have hother : key ≠ name := fun h => hne (hname.trans h.symm)
          simp [hname, hother]
        · rw [List.find?_cons_of_neg (by simpa using hname), ih,
            List.find?_cons_of_neg (by simpa using hname)]
      · next hnotAbove =>
        have hsame : e.1 = key :=
          String.le_antisymm (String.not_lt.1 hnotBelow) (String.not_lt.1 hnotAbove)
        by_cases h : key = name <;> simp [h, hsame]

theorem get?_insert (d : Dict) (key value name : String) :
    (d.insert key value).get? name = if key = name then some value else d.get? name := by
  unfold get? insert
  rw [find?_insertEntry]
  split <;> rfl

/-- Of a dictionary and changes to it, the changes count first. -/
theorem get?_foldl_insert (d : Dict) {changes : List (String × String)}
    (hascending : changes.Pairwise fun a b => a.1 < b.1) (name : String) :
    (changes.foldl (fun d e => d.insert e.1 e.2) d).get? name =
      ((changes.find? fun e => e.1 = name).map (·.2)).or (d.get? name) := by
  induction changes generalizing d with
  | nil => rfl
  | cons e rest ih =>
    obtain ⟨hfirst, hrest⟩ := List.pairwise_cons.1 hascending
    rw [List.foldl_cons, ih (d.insert e.1 e.2) hrest, get?_insert]
    by_cases h : e.1 = name
    · -- no change of the same name comes later
      have hnone : (rest.find? fun e => e.1 = name) = none := by
        refine List.find?_eq_none.2 fun other hother hname => ?_
        have hlt := hfirst other hother
        rw [h, show other.1 = name by simpa using hname] at hlt
        exact String.lt_irrefl _ hlt
      simp [h, hnone]
    · rw [List.find?_cons_of_neg (by simpa using h), if_neg h]

end Dict

namespace Instant

theorem ofParts?_eq_some {seconds : Int} {nanos : Nat} {t : Instant} :
    ofParts? seconds nanos = some t ↔ t.seconds = seconds ∧ t.nanos = nanos := by
  unfold ofParts?
  constructor
  · intro h
    split at h
    · cases h
      exact ⟨rfl, rfl⟩
    · exact absurd h (by simp)
  · rintro ⟨rfl, rfl⟩
    exact dif_pos ⟨t.nanos_after, t.first_le, t.le_last⟩

/-- Days that go by are whole days, also from a leap second on. -/
theorem addDays?_seconds {t stop : Instant} {days : Int} (h : t.addDays? days = some stop)
    (hdays : 0 < days) : stop.seconds = t.seconds + days * daySeconds := by
  unfold addDays? at h
  simp only [gt_iff_lt, hdays, if_true] at h
  split at h
  · exact (ofParts?_eq_some.1 h).1
  · exact (ofParts?_eq_some.1 h).1

/-- Some days later there is an instant, unless that is too late. -/
theorem addDays?_isSome {t : Instant} {days : Int} (hdays : 0 < days) :
    (t.addDays? days).isSome = true ↔ t.seconds + days * daySeconds ≤ lastSecond := by
  have hfirst : firstSecond ≤ t.seconds + days * daySeconds := by
    have hstart := t.first_le
    unfold daySeconds
    omega
  have hparts (nanos : Nat) (hnanos : nanos < secondNanos) :
      (ofParts? (t.seconds + days * daySeconds) nanos).isSome = true ↔
        t.seconds + days * daySeconds ≤ lastSecond := by
    unfold ofParts?
    split
    · next h => simp [h.2.2]
    · next h =>
      refine ⟨fun h => absurd h (by simp), fun hlast => absurd ⟨?_, hfirst, hlast⟩ h⟩
      simp [areAfter, hnanos]
  unfold addDays?
  have hne : days ≠ 0 := by omega
  simp only [hne, decide_false, Bool.or_false, gt_iff_lt, hdays, if_true]
  split
  · next hleap => exact hparts _ (by simpa [isLeap] using hleap)
  · -- from a leap second on, the second before it counts
    refine hparts _ ?_
    have hafter := t.nanos_after
    simp only [areAfter, Bool.or_eq_true, decide_eq_true_eq, Bool.and_eq_true] at hafter
    unfold secondNanos at hafter ⊢
    omega

end Instant

/-- A subscription is one to a plan. -/
structure Follows (v : Subscription) (p : Plan) : Prop where
  plan : v.plan = p.id
  service : v.service = p.service
  description : v.description = p.description
  billingCycle : v.billingCycle = p.billingCycle
  billingCycleType : v.billingCycleType = p.billingCycleType
  billingContractTerm : v.billingContractTerm = p.billingContractTerm
  /-- The properties have other values at most. -/
  properties : v.properties.keys = p.properties.keys
  payment : v.usePaymentSystem = true → p.paid = true
  /-- There is no trial, or one of some days. -/
  trial : v.dates.trialStart = none ∧ v.dates.trialEnd = none ∨
    ∃ start stop : Instant, ∃ days : Nat, v.dates.trialStart = some start ∧
      v.dates.trialEnd = some stop ∧ 0 < days ∧ stop.seconds = start.seconds + days * daySeconds
  /-- There are no other dates. -/
  dates : v.dates.start = none ∧ v.dates.stop = none ∧ v.dates.billingStart = none ∧
    v.dates.billingEnd = none ∧ v.dates.nextBilling = none

/-- Trials that were read lie as far apart as those that were written. -/
theorem Follows.floorDates {v : Subscription} {p : Plan} (h : Follows v p) :
    Follows v.floorDates p where
  plan := h.plan
  service := h.service
  description := h.description
  billingCycle := h.billingCycle
  billingCycleType := h.billingCycleType
  billingContractTerm := h.billingContractTerm
  properties := h.properties
  payment := h.payment
  trial := by
    rcases h.trial with ⟨hstart, hstop⟩ | ⟨start, stop, days, hstart, hstop, hdays, hseconds⟩
    · exact Or.inl ⟨congrArg (Option.map Instant.floorSecond) hstart,
        congrArg (Option.map Instant.floorSecond) hstop⟩
    · exact Or.inr ⟨start.floorSecond, stop.floorSecond, days,
        congrArg (Option.map Instant.floorSecond) hstart,
        congrArg (Option.map Instant.floorSecond) hstop, hdays, hseconds⟩
  dates := by
    obtain ⟨hstart, hstop, hfirst, hlast, hnext⟩ := h.dates
    simp [Subscription.floorDates, SubscriptionDates.map, hstart, hstop, hfirst, hlast, hnext]

namespace Platform

theorem overridden_keys {plan changes properties : Properties}
    (h : overridden plan changes = .ok properties) : properties.keys = plan.keys := by
  unfold overridden at h
  split at h
  · next hall =>
    cases h
    have hknown : ∀ e ∈ changes.entries, e.1 ∈ plan.keys := by
      intro e he
      exact Dict.contains_iff.1 (List.all_eq_true.1 hall e.1 (List.mem_map_of_mem he))
    clear hall
    generalize changes.entries = entries at hknown ⊢
    induction entries generalizing plan with
    | nil => rfl
    | cons e rest ih =>
      have hkeys := Dict.keys_insert e.2 (hknown e List.mem_cons_self)
      rw [List.foldl_cons, ih fun e' he' => ?_, hkeys]
      rw [hkeys]
      exact hknown e' (List.mem_cons_of_mem e he')
  · exact absurd h (by simp)

theorem overridden_iff {base changes : Properties} :
    (∃ properties, overridden base changes = .ok properties) ↔
      ∀ key ∈ changes.keys, key ∈ base.keys := by
  unfold overridden
  split
  · next hall =>
    refine ⟨fun _ key hkey => ?_, fun _ => ⟨_, rfl⟩⟩
    exact Dict.contains_iff.1 (List.all_eq_true.1 hall key hkey)
  · next hnot =>
    refine ⟨fun ⟨_, h⟩ => absurd h (by simp), fun hall => absurd ?_ hnot⟩
    exact List.all_eq_true.2 fun key hkey => Dict.contains_iff.2 (hall key hkey)

theorem overridden_get? {base changes properties : Properties}
    (h : overridden base changes = .ok properties) (key : String) :
    properties.get? key = (changes.get? key).or (base.get? key) := by
  unfold overridden at h
  split at h
  · cases h
    exact Dict.get?_foldl_insert base changes.ascending key
  · exact absurd h (by simp)

theorem startTrial_ok {v w : Subscription} {now : Instant} {days : Int32}
    (h : v.startTrial now days = .ok w) : ∃ stop, Subscription.trialEnd? now days = some stop ∧
      w = { v with dates := { v.dates with trialStart := some now, trialEnd := some stop } } := by
  unfold Subscription.startTrial at h
  split at h
  · exact absurd h (by simp)
  · next stop hstop =>
    cases h
    exact ⟨stop, hstop, rfl⟩

/-- An order is never one for a trial of no days. -/
theorem ofBody_trial {body : Bytes} {order : Order} (h : Order.ofBody body = .ok order) :
    order.trial ≠ some 0 := by
  obtain ⟨_, _, h⟩ := bind_eq_ok.1 h
  obtain ⟨_, _, h⟩ := bind_eq_ok.1 h
  obtain ⟨_, _, h⟩ := bind_eq_ok.1 h
  obtain ⟨_, _, h⟩ := bind_eq_ok.1 h
  obtain ⟨_, _, h⟩ := bind_eq_ok.1 h
  cases h
  simp [Option.filter_eq_some_iff]

/-- **Drafts follow their plans**, whoever asks for them. -/
theorem draft_follows {ctx : Context} {order : Order} {plan : Plan} {v : Subscription}
    (h : draft ctx order plan = .ok v) (hzero : order.trial ≠ some 0)
    (hforwards : order.trial.any (· < 0) = false) : Follows v plan := by
  obtain ⟨properties, hproperties, h⟩ := bind_eq_ok.1 h
  have hkeys := overridden_keys hproperties
  have hpaid : (order.usePaymentSystem && plan.paid) = true → plan.paid = true := by simp
  cases htrial : order.trial with
  | none =>
    rw [htrial] at h
    cases h
    exact ⟨rfl, rfl, rfl, rfl, rfl, rfl, hkeys, hpaid, Or.inl ⟨rfl, rfl⟩, rfl, rfl, rfl, rfl, rfl⟩
  | some days =>
    rw [htrial] at h hzero hforwards
    obtain ⟨stop, hstop, rfl⟩ := startTrial_ok h
    have hpositive : 0 < days.toInt := by
      have hne : days.toInt ≠ 0 := fun h0 => hzero (congrArg some (Int32.toInt_inj.1 h0))
      have hnot : ¬ days.toInt < 0 := by
        simpa [Int32.lt_iff_toInt_lt] using hforwards
      omega
    have hseconds := Instant.addDays?_seconds hstop hpositive
    refine ⟨rfl, rfl, rfl, rfl, rfl, rfl, hkeys, hpaid, Or.inr ?_, rfl, rfl, rfl, rfl, rfl⟩
    refine ⟨ctx.now, stop, days.toInt.toNat, rfl, rfl, by omega, ?_⟩
    rw [hseconds, Int.toNat_of_nonneg (by omega)]

end Platform

end CloudIde
