import CloudIde.Proofs.StoredValues
import CloudIde.Proofs.Terms

/-!
# Trials to the second

A trial of some days ends a whole number of days after it starts, at the same nanosecond, or before
it when the number is negative. There is no such trial when that instant would be too early or too
late; then nothing of the subscription changes, not even the start of a trial. What is reckoned on
the way fits into 64 bits, whatever the start and the days are, so nothing wraps around. The ends
have the order of the starts and of the days, and a trial is as long when it is read as when it was
stored, although both its dates lose their nanoseconds.

Leap seconds are left out here: they are no starts from which days are counted evenly.
-/

namespace CloudIde

namespace Instant

/-- One instant comes some days after another, at the same time of the day. -/
structure DaysLater (start : Instant) (days : Int) (stop : Instant) : Prop where
  seconds : stop.seconds = start.seconds + days * daySeconds
  nanos : stop.nanos = start.nanos

variable {t t' stop stop' : Instant} {days days' : Int}

theorem isLeap_eq_false (h : t.nanos < secondNanos) : t.isLeap = false := by
  simpa [isLeap] using h

theorem addDays?_eq_some (h : t.nanos < secondNanos) :
    t.addDays? days = some stop ↔ t.DaysLater days stop := by
  unfold addDays?
  rw [isLeap_eq_false h]
  exact ofParts?_eq_some.trans ⟨fun ⟨hs, hn⟩ => ⟨hs, hn⟩, fun ⟨hs, hn⟩ => ⟨hs, hn⟩⟩

/-- There is an instant some days later as long as its second is one that an instant has. -/
theorem exists_daysLater (h : t.nanos < secondNanos) :
    (∃ stop, t.DaysLater days stop) ↔
      firstSecond ≤ t.seconds + days * daySeconds ∧ t.seconds + days * daySeconds ≤ lastSecond := by
  constructor
  · rintro ⟨stop, hstop⟩
    rw [← hstop.seconds]
    exact ⟨stop.first_le, stop.le_last⟩
  · rintro ⟨hfirst, hlast⟩
    exact ⟨⟨t.seconds + days * daySeconds, t.nanos, by simp [areAfter, h], hfirst, hlast⟩, rfl, rfl⟩

/-- A later start and more days lead to a later end. -/
theorem DaysLater.mono (h : t.DaysLater days stop) (h' : t'.DaysLater days' stop') (ht : t ≤ t')
    (hdays : days ≤ days') : stop ≤ stop' := by
  have hseconds := h.seconds
  have hseconds' := h'.seconds
  have hnanos := h.nanos
  have hnanos' := h'.nanos
  have hle : t.seconds < t'.seconds ∨ t.seconds = t'.seconds ∧ t.nanos ≤ t'.nanos := ht
  show stop.seconds < stop'.seconds ∨ stop.seconds = stop'.seconds ∧ stop.nanos ≤ stop'.nanos
  unfold daySeconds at hseconds hseconds'
  omega

/-- The days between two instants are also those between the beginnings of their seconds. -/
theorem DaysLater.floorSecond (h : t.DaysLater days stop) :
    t.floorSecond.DaysLater days stop.floorSecond := ⟨h.seconds, rfl⟩

end Instant

/-! ## In words of 64 bits -/

/-- What is reckoned for the end of a trial in words of 64 bits, which wrap around, is exact: the
length of the trial, which is counted in seconds and must also be one in milliseconds, and the
second of its end. -/
structure FitsWords (now : Instant) (days : Int32) : Prop where
  length : (days.toInt64 * 86400).toInt = days.toInt * daySeconds
  millis : (days.toInt64 * 86400 * 1000).toInt = days.toInt * daySeconds * 1000
  stop : (Int64.ofInt now.seconds + days.toInt64 * 86400).toInt =
    now.seconds + days.toInt * daySeconds

theorem fitsWords (now : Instant) (days : Int32) : FitsWords now days := by
  have hlow := days.le_toInt
  have hhigh := days.toInt_lt
  have hfirst := now.first_le
  have hlast := now.le_last
  unfold firstSecond at hfirst
  unfold lastSecond at hlast
  have hday : (86400 : Int64).toInt = 86400 := rfl
  have hmilli : (1000 : Int64).toInt = 1000 := rfl
  have hlength : (days.toInt64 * 86400).toInt = days.toInt * 86400 := by
    rw [Int64.toInt_mul, Int32.toInt_toInt64, hday]
    exact Int.bmod_eq_of_le (by omega) (by omega)
  refine ⟨hlength, ?_, ?_⟩
  · rw [Int64.toInt_mul, hlength, hmilli]
    exact Int.bmod_eq_of_le (by omega) (by omega)
  · rw [Int64.toInt_add, hlength, Int64.toInt_ofInt_of_le (by omega) (by omega)]
    exact Int.bmod_eq_of_le (by omega) (by omega)

/-! ## Subscriptions -/

namespace Subscription

variable {v w : Subscription} {now now' stop stop' : Instant} {days days' : Int32}

/-- The subscription with a trial between two instants. -/
def withTrial (v : Subscription) (start stop : Instant) : Subscription :=
  { v with dates := { v.dates with trialStart := some start, trialEnd := some stop } }

/-- The start of a trial as a change of the subscription at hand. -/
def beginTrial (now : Instant) (days : Int32) : ExceptT Failure (StateM Subscription) Unit := do
  let some stop := trialEnd? now days | throw .trialOutOfRange
  modify fun v => { v with dates := { v.dates with trialStart := some now } }
  modify fun v => { v with dates := { v.dates with trialEnd := some stop } }

theorem startTrial_ok_iff : v.startTrial now days = .ok w ↔
    ∃ stop, trialEnd? now days = some stop ∧ w = v.withTrial now stop := by
  refine ⟨Platform.startTrial_ok, ?_⟩
  rintro ⟨stop, hstop, rfl⟩
  unfold startTrial
  rw [hstop]
  rfl

theorem startTrial_error_iff {f : Failure} : v.startTrial now days = .error f ↔
    trialEnd? now days = none ∧ f = .trialOutOfRange := by
  unfold startTrial
  cases trialEnd? now days with
  | none => simp [eq_comm]
  | some stop => simp

/-- A trial that cannot be started leaves the subscription at hand as it is. -/
theorem beginTrial_run : (beginTrial now days).run.run v =
    match v.startTrial now days with
    | .ok w => (.ok (), w)
    | .error f => (.error f, v) := by
  unfold beginTrial startTrial
  cases trialEnd? now days <;> rfl

theorem trialEnd?_eq_some (hnow : now.nanos < secondNanos) :
    trialEnd? now days = some stop ↔ now.DaysLater days.toInt stop :=
  Instant.addDays?_eq_some hnow

theorem trialEnd?_isSome_iff (hnow : now.nanos < secondNanos) :
    (trialEnd? now days).isSome = true ↔ firstSecond ≤ now.seconds + days.toInt * daySeconds ∧
      now.seconds + days.toInt * daySeconds ≤ lastSecond := by
  rw [Option.isSome_iff_exists, ← Instant.exists_daysLater hnow]
  exact exists_congr fun stop => trialEnd?_eq_some hnow

/-- An earlier start and fewer days are possible as well, as long as these lead forwards. -/
theorem trialEnd?_isSome_mono (hnow : now.nanos < secondNanos) (hnow' : now'.nanos < secondNanos)
    (hle : now ≤ now') (hzero : 0 ≤ days) (hdays : days ≤ days')
    (h : (trialEnd? now' days').isSome = true) : (trialEnd? now days).isSome = true := by
  obtain ⟨-, hlast⟩ := (trialEnd?_isSome_iff hnow').1 h
  refine (trialEnd?_isSome_iff hnow).2 ?_
  have hfirst := now.first_le
  have hseconds : now.seconds < now'.seconds ∨
      now.seconds = now'.seconds ∧ now.nanos ≤ now'.nanos := hle
  have hzero : (0 : Int32).toInt ≤ days.toInt := Int32.le_iff_toInt_le.1 hzero
  have hdays : days.toInt ≤ days'.toInt := Int32.le_iff_toInt_le.1 hdays
  rw [Int32.toInt_zero] at hzero
  unfold daySeconds at hlast ⊢
  omega

end Subscription

namespace Store

variable {s t : Store} {v w : Subscription} {now : Instant} {days : Int32}

/-- A trial that was stored and is read again has kept its length. -/
theorem AllMade.trial_read (hs : AllMade s) (hnow : now.nanos < secondNanos)
    (htrial : v.startTrial now days = .ok w)
    (hw : s.addSubscription w = .ok t ∨ s.updateSubscription w = .ok t) :
    ∃ u start stop, t.subscription w.id = .ok u ∧ u.dates.trialStart = some start ∧
      u.dates.trialEnd = some stop ∧ start = now.floorSecond ∧
        start.DaysLater days.toInt stop := by
  obtain ⟨stop, hstop, rfl⟩ := Subscription.startTrial_ok_iff.1 htrial
  have hlater := (Subscription.trialEnd?_eq_some hnow).1 hstop
  exact ⟨_, now.floorSecond, stop.floorSecond, hs.subscription_written hw, rfl, rfl, rfl,
    hlater.floorSecond⟩

end Store

open Subscription Store

/-- **Trials are exact, or there is none.** For instants outside of leap seconds:

* the end of a trial is the instant that many days later, and there is one just when its second is
  in the range of instants; on the way nothing exceeds 64 bits;
* a trial is started just when it has an end, and sets these two dates and nothing else; otherwise
  it fails, and leaves the subscription at hand as it was;
* ends have the order of the starts and of the days, and a trial that leads forwards is possible
  when a longer one from a later start is;
* a trial that was stored, with a new subscription or with an old one, is as long when it is
  read. -/
theorem trials_exact (now : Instant) (days : Int32) (hnow : now.nanos < secondNanos) :
    (∀ stop, trialEnd? now days = some stop ↔ now.DaysLater days.toInt stop) ∧
      ((trialEnd? now days).isSome = true ↔
        firstSecond ≤ now.seconds + days.toInt * daySeconds ∧
          now.seconds + days.toInt * daySeconds ≤ lastSecond) ∧
      FitsWords now days ∧
      (∀ v w : Subscription, v.startTrial now days = .ok w ↔
        ∃ stop, trialEnd? now days = some stop ∧ w = v.withTrial now stop) ∧
      (∀ (v : Subscription) f, v.startTrial now days = .error f ↔
        trialEnd? now days = none ∧ f = .trialOutOfRange) ∧
      (∀ v : Subscription, (beginTrial now days).run.run v =
        match trialEnd? now days with
        | some stop => (.ok (), v.withTrial now stop)
        | none => (.error .trialOutOfRange, v)) ∧
      (∀ (now' : Instant) (days' : Int32), now'.nanos < secondNanos → now ≤ now' → days ≤ days' →
        (∀ stop stop', trialEnd? now days = some stop → trialEnd? now' days' = some stop' →
          stop ≤ stop') ∧
        (0 ≤ days → (trialEnd? now' days').isSome = true → (trialEnd? now days).isSome = true)) ∧
      ∀ (s t : Store) (v w : Subscription), AllMade s → v.startTrial now days = .ok w →
        s.addSubscription w = .ok t ∨ s.updateSubscription w = .ok t →
        ∃ u start stop, t.subscription w.id = .ok u ∧ u.dates.trialStart = some start ∧
          u.dates.trialEnd = some stop ∧ start = now.floorSecond ∧
            start.DaysLater days.toInt stop := by
  refine ⟨fun stop => trialEnd?_eq_some hnow, trialEnd?_isSome_iff hnow, fitsWords now days,
    fun v w => startTrial_ok_iff, fun v f => startTrial_error_iff, fun v => ?_,
    fun now' days' hnow' hle hdays => ⟨fun stop stop' hstop hstop' => ?_, fun hzero h =>
      trialEnd?_isSome_mono hnow hnow' hle hzero hdays h⟩,
    fun s t v w hs htrial hw => hs.trial_read hnow htrial hw⟩
  · rw [beginTrial_run]
    unfold startTrial
    cases trialEnd? now days <;> rfl
  · have hlater := (trialEnd?_eq_some hnow).1 hstop
    have hlater' := (trialEnd?_eq_some hnow').1 hstop'
    exact hlater.mono hlater' hle (Int32.le_iff_toInt_le.1 hdays)

/-- The last nanosecond of 1969. -/
def eve : Instant := ⟨-1, 999999999, rfl, by decide, by decide⟩

/-- A trial that leads two days back from there is stored and read with these two days. As many days
as a plan can state lead too far, back or forwards, so nothing changes. -/
theorem trials_exact_backwards :
    (∃ w t u start stop, (bare "old" "acme" "mail" .inactive).startTrial eve (-2) = .ok w ∧
      returned.updateSubscription w = .ok t ∧ t.subscription "old" = .ok u ∧
        u.dates.trialStart = some start ∧ u.dates.trialEnd = some stop ∧
          start.seconds = -1 ∧ stop.seconds = -172801 ∧ start.nanos = 0 ∧ stop.nanos = 0) ∧
      (∀ v : Subscription,
        (beginTrial eve (-2147483648)).run.run v = (.error .trialOutOfRange, v)) ∧
      ¬ (trialEnd? eve 2147483647).isSome = true := by
  have hmade : AllMade returned := (Touched.empty.run _).constrained.made
  obtain ⟨-, -, -, htrial, -, -, -, hread⟩ := trials_exact eve (-2) (by decide)
  obtain ⟨-, hback, -, -, -, hrun, -⟩ := trials_exact eve (-2147483648) (by decide)
  obtain ⟨-, hfar, -⟩ := trials_exact eve 2147483647 (by decide)
  have hnone : trialEnd? eve (-2147483648) = none := by
    rw [← Option.not_isSome_iff_eq_none, hback]
    decide
  refine ⟨?_, fun v => ?_, fun h => ?_⟩
  · obtain ⟨stop, hstop⟩ : ∃ stop, trialEnd? eve (-2) = some stop := ⟨_, rfl⟩
    have hw := (htrial (bare "old" "acme" "mail" .inactive) _).2 ⟨stop, hstop, rfl⟩
    obtain ⟨t, ht⟩ : ∃ t, returned.updateSubscription
        ((bare "old" "acme" "mail" .inactive).withTrial eve stop) = .ok t := ⟨_, rfl⟩
    obtain ⟨u, start, stop', hu, hstart, hstop', rfl, hlater⟩ := hread _ t _ _ hmade hw (Or.inr ht)
    exact ⟨_, t, u, _, stop', hw, ht, hu, hstart, hstop', rfl, hlater.seconds, rfl, hlater.nanos⟩
  · rw [hrun, hnone]
  · exact absurd (hfar.1 h).2 (by decide)

end CloudIde
