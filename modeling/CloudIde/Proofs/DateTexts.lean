import CloudIde.Proofs.Calendar
import CloudIde.Proofs.Entitlement
import CloudIde.Proofs.Numerals
import CloudIde.Proofs.StoredValues
import CloudIde.Proofs.Trials

/-!
# Dates as they are shown

A subscription is shown with the dates of the days in which its instants lie, each as the numerals
of month, day and year with slashes between them (`CivilDate.SpelledBy`). There is one such text for
an instant (`Instant.shownAs_iff`), and the date is read from it again, so the text tells the day.
Neither the time of the day nor its loss in the store changes anything about it.
-/

namespace CloudIde

open Digits

namespace CivilDate

/-! ## Spelling dates -/

/-- The sign of a year: a year has none when it is told by four digits. -/
def yearSign (year : Int) : List Char :=
  if year < 0 then ['-'] else if 9999 < year then ['+'] else []

/-- A text says the month and the day of a date in two digits each, and the year in four or more
behind its sign. -/
def SpelledBy (date : CivilDate) (text : String) : Prop :=
  ∃ month day year, text.toList = month ++ '/' :: (day ++ '/' :: (yearSign date.year ++ year)) ∧
    (IsNumeral 2 date.month month ∧ month.length = 2) ∧
    (IsNumeral 2 date.day day ∧ day.length = 2) ∧ IsNumeral 4 date.year.natAbs year

variable {date : CivilDate} {text : String}

theorem toList_yearText (year : Int) :
    (yearText year).toList = yearSign year ++ (padded 4 year.natAbs).toList := by
  unfold yearText yearSign
  rw [String.toList_append]
  split
  · rfl
  · split <;> rfl

theorem toList_text (date : CivilDate) : date.text.toList = (padded 2 date.month).toList ++
    '/' :: ((padded 2 date.day).toList ++
      '/' :: (yearSign date.year ++ (padded 4 date.year.natAbs).toList)) := by
  have hslash : "/".toList = ['/'] := rfl
  unfold text
  simp only [String.toList_append, toList_yearText, hslash, List.append_assoc, List.cons_append,
    List.nil_append]

/-- **A date is spelled by its text**, and by no other. -/
theorem Valid.spelledBy_iff (h : date.Valid) : date.SpelledBy text ↔ text = date.text := by
  have hmonth := h.month_le
  have hday : date.day ≤ 31 := Nat.le_trans h.day_le (monthDays_mem ..).2
  rw [← String.toList_inj, toList_text]
  constructor
  · rintro ⟨month, day, year, htext, ⟨hmonth, -⟩, ⟨hday, -⟩, hyear⟩
    rw [htext, (isNumeral_iff (by decide)).1 hmonth, (isNumeral_iff (by decide)).1 hday,
      (isNumeral_iff (by decide)).1 hyear]
  · intro htext
    exact ⟨_, _, _, htext,
      ⟨(isNumeral_iff (by decide)).2 rfl, length_padded_two (by omega)⟩,
      ⟨(isNumeral_iff (by decide)).2 rfl, length_padded_two (by omega)⟩,
      (isNumeral_iff (by decide)).2 rfl⟩

/-! ## Reading dates -/

/-- The year that digits make, with a sign or without. -/
def readYear : List Char → Option Int
  | '-' :: digits => (value? digits).map fun n : Nat => -(n : Int)
  | '+' :: digits => (value? digits).map Int.ofNat
  | digits => (value? digits).map Int.ofNat

/-- The date that is read from a text. -/
def ofText? (text : String) : Option CivilDate :=
  match pieces '/' text.toList with
  | [month, day, year] => do
    let month ← value? month
    let day ← value? day
    let year ← readYear year
    return ⟨year, month, day⟩
  | _ => none

/-- Where there is a slash there is no digit. -/
theorem slash_not_mem {n : Nat} {digits : List Char} (h : value? digits = some n) :
    '/' ∉ digits := fun hslash =>
  absurd (mem_digits (value?_eq_some.1 h).2 '/' hslash) (by decide)

theorem readYear_signed {year : Int} {digits : List Char}
    (h : value? digits = some year.natAbs) : readYear (yearSign year ++ digits) = some year := by
  unfold yearSign
  split
  · next hnegative =>
    have hyear : -(year.natAbs : Int) = year := by omega
    show (value? digits).map _ = some year
    rw [h]
    exact congrArg some hyear
  · next hnonneg =>
    have hyear : (year.natAbs : Int) = year := by omega
    split
    · show (value? digits).map _ = some year
      rw [h]
      exact congrArg some hyear
    · -- a digit is no sign
      obtain ⟨hne, hdigits⟩ := value?_eq_some.1 h
      cases digits with
      | nil => exact absurd rfl hne
      | cons c rest =>
        have hdigit := mem_digits hdigits c List.mem_cons_self
        have hread : readYear (c :: rest) = (value? (c :: rest)).map Int.ofNat := by
          unfold readYear
          split
          · next heq =>
            rw [(List.cons.inj heq).1] at hdigit
            exact absurd hdigit (by decide)
          · next heq =>
            rw [(List.cons.inj heq).1] at hdigit
            exact absurd hdigit (by decide)
          · rfl
        rw [List.nil_append, hread, h]
        exact congrArg some hyear

/-- What spells a date is read as it. -/
theorem SpelledBy.ofText? (h : date.SpelledBy text) : ofText? text = some date := by
  obtain ⟨month, day, year, htext, ⟨hmonth, -⟩, ⟨hday, -⟩, hyear⟩ := h
  have hsign : '/' ∉ yearSign date.year ++ year := by
    intro hslash
    rcases List.mem_append.1 hslash with hslash | hslash
    · unfold yearSign at hslash
      split at hslash
      · exact absurd hslash (by decide)
      · split at hslash <;> exact absurd hslash (by decide)
    · exact slash_not_mem hyear.value hslash
  have hpieces : pieces '/' text.toList = [month, day, yearSign date.year ++ year] := by
    rw [htext, pieces_append (slash_not_mem hmonth.value),
      pieces_append (slash_not_mem hday.value), pieces_last hsign]
  unfold CivilDate.ofText?
  rw [hpieces]
  simp only [hmonth.value, hday.value, readYear_signed hyear.value]
  rfl

end CivilDate

/-! ## Instants -/

namespace Instant

open CivilDate

/-- A text spells the date of the day in which an instant lies. -/
def ShownAs (t : Instant) (text : String) : Prop :=
  ∃ date, IsDateOf (t.seconds / daySeconds) date ∧ date.SpelledBy text

variable {t t' : Instant} {text text' : String}

theorem shownAs_iff : t.ShownAs text ↔ text = t.dateText := by
  have hvalid : (ofDay t.day).Valid := ofDay_valid t.day
  rw [Instant.dateText, ← hvalid.spelledBy_iff]
  constructor
  · rintro ⟨date, hdate, hspelled⟩
    rw [← isDateOf_iff.1 hdate] at hspelled
    exact hspelled
  · exact fun hspelled => ⟨_, isDateOf_iff.2 rfl, hspelled⟩

/-- What an instant is shown as tells the number of its day. -/
theorem ShownAs.read (h : t.ShownAs text) : ∃ date, ofText? text = some date ∧
    IsDateOf (t.seconds / daySeconds) date ∧ date.dayNumber = t.seconds / daySeconds := by
  obtain ⟨date, hdate, hspelled⟩ := h
  exact ⟨date, hspelled.ofText?, hdate, (isDateOf_iff_dayNumber.1 hdate).2⟩

/-- Instants of one day are shown alike, and others differently. -/
theorem ShownAs.eq_iff (h : t.ShownAs text) (h' : t'.ShownAs text') :
    text = text' ↔ t.seconds / daySeconds = t'.seconds / daySeconds := by
  constructor
  · rintro rfl
    obtain ⟨date, hread, -, hday⟩ := h.read
    obtain ⟨date', hread', -, hday'⟩ := h'.read
    obtain rfl := Option.some.inj (hread.symm.trans hread')
    rw [← hday, ← hday']
  · intro hday
    obtain ⟨date, hdate, hspelled⟩ := h'
    rw [← hday] at hdate
    rw [shownAs_iff.1 h, shownAs_iff.1 ⟨date, hdate, hspelled⟩]

end Instant

/-! ## Subscriptions -/

/-- For each of the seven dates, what there is in two places is related. -/
structure SubscriptionDates.Each {α β : Type} (R : α → β → Prop) (d : SubscriptionDates α)
    (e : SubscriptionDates β) : Prop where
  start : R d.start e.start
  stop : R d.stop e.stop
  trialStart : R d.trialStart e.trialStart
  trialEnd : R d.trialEnd e.trialEnd
  billingStart : R d.billingStart e.billingStart
  billingEnd : R d.billingEnd e.billingEnd
  nextBilling : R d.nextBilling e.nextBilling

theorem SubscriptionDates.each_iff {α β : Type} {R : α → β → Prop} {f : α → β}
    (h : ∀ a b, R a b ↔ b = f a) {d : SubscriptionDates α} {e : SubscriptionDates β} :
    d.Each R e ↔ e = d.map f := by
  constructor
  · rintro ⟨hstart, hstop, htrialStart, htrialEnd, hbillingStart, hbillingEnd, hnextBilling⟩
    obtain ⟨start, stop, trialStart, trialEnd, billingStart, billingEnd, nextBilling⟩ := e
    rw [h] at hstart hstop htrialStart htrialEnd hbillingStart hbillingEnd hnextBilling
    rw [SubscriptionDates.map, ← hstart, ← hstop, ← htrialStart, ← htrialEnd, ← hbillingStart,
      ← hbillingEnd, ← hnextBilling]
  · rintro rfl
    exact ⟨(h _ _).2 rfl, (h _ _).2 rfl, (h _ _).2 rfl, (h _ _).2 rfl, (h _ _).2 rfl,
      (h _ _).2 rfl, (h _ _).2 rfl⟩

theorem Instant.rel_shownAs_iff (date : Option Instant) (text : Option String) :
    Option.Rel Instant.ShownAs date text ↔ text = date.map Instant.dateText := by
  constructor
  · rintro (h | _)
    · exact congrArg some (shownAs_iff.1 h)
    · rfl
  · rintro rfl
    cases date with
    | none => exact Option.Rel.none
    | some t => exact Option.Rel.some (shownAs_iff.2 rfl)

open CivilDate Store

/-- **Dates are shown as the days of the calendar, exactly.** Every day has one date, and the
instants are those of the days from the year -262143 to the year 262142.

* Whoever is shown a subscription is shown, for each of its dates, the text that spells the date of
  the day in which it lies, and nothing for a date that it has not.
* Two instants are shown alike just when they lie on the same day.
* From the text of an instant the date of its day is read, and so the number of the day.
* A subscription that was stored, as a new one or as a change, is read with its dates at the
  beginning of their seconds, and shown as it was before. -/
theorem dates_shown :
    (∀ day, ∃! date, IsDateOf day date) ∧
    (∀ seconds, firstSecond ≤ seconds ∧ seconds ≤ lastSecond ↔
      ∃ date, IsDateOf (seconds / daySeconds) date ∧ -262143 ≤ date.year ∧ date.year ≤ 262142) ∧
    (∀ (v : Subscription) base caller there texts,
      (v.descriptor base caller there).dates = texts ↔
        v.dates.Each (Option.Rel Instant.ShownAs) texts) ∧
    (∀ (t t' : Instant) text text', t.ShownAs text → t'.ShownAs text' →
      (text = text' ↔ t.seconds / daySeconds = t'.seconds / daySeconds)) ∧
    (∀ (t : Instant) text, t.ShownAs text → ∃ date, ofText? text = some date ∧
      IsDateOf (t.seconds / daySeconds) date ∧ date.dayNumber = t.seconds / daySeconds) ∧
    ∀ (s t : Store) (v : Subscription), AllMade s →
      s.addSubscription v = .ok t ∨ s.updateSubscription v = .ok t →
        ∃ u, t.subscription v.id = .ok u ∧
          u.dates = v.dates.map (fun date => date.map Instant.floorSecond) ∧
          ∀ base caller there,
            (u.descriptor base caller there).dates = (v.descriptor base caller there).dates := by
  refine ⟨fun day => ⟨ofDay day, isDateOf_iff.2 rfl, fun date hdate => (isDateOf_iff.1 hdate).symm⟩,
    fun seconds => ?_, fun v base caller there texts => ?_, fun t t' text text' h h' => h.eq_iff h',
    fun t text h => h.read, fun s t v hs hw => ⟨_, hs.subscription_written hw, rfl, ?_⟩⟩
  · rw [second_mem_iff]
    constructor
    · exact fun hyear => ⟨_, isDateOf_iff.2 rfl, hyear⟩
    · rintro ⟨date, hdate, hyear⟩
      rwa [isDateOf_iff.1 hdate]
  · exact eq_comm.trans (SubscriptionDates.each_iff Instant.rel_shownAs_iff).symm
  · intro base caller there
    rw [v.descriptor_floorDates]

/-- The old subscription with dates at both ends of what is possible, before and after the change of
a year, on a leap day and in a leap second. -/
def dated : Subscription :=
  { Subscription.bare "old" "acme" "mail" .inactive with
    dates := ⟨some ⟨firstSecond, 5, by decide, by decide, by decide⟩,
      some ⟨lastSecond, 999999999, by decide, by decide, by decide⟩,
      some eve, some Instant.epoch,
      some ⟨951868799, 1500000000, by decide, by decide, by decide⟩,
      some ⟨-62167219201, 0, by decide, by decide, by decide⟩, none⟩ }

/-- These dates are shown with the sign that the year needs, and so again when they have been stored
and have lost their nanoseconds. -/
theorem dates_shown_dated : ∃ t u, returned.updateSubscription dated = .ok t ∧
    t.subscription "old" = .ok u ∧ ∀ base caller there,
      (u.descriptor base caller there).dates =
        ⟨some "01/01/-262143", some "12/31/+262142", some "12/31/1969", some "01/01/1970",
          some "02/29/2000", some "12/31/-0001", none⟩ := by
  obtain ⟨-, -, hshown, -, -, hstored⟩ := dates_shown
  have hmade : AllMade returned := (Touched.empty.run _).constrained.made
  obtain ⟨t, ht⟩ : ∃ t, returned.updateSubscription dated = .ok t := ⟨_, rfl⟩
  obtain ⟨u, hu, -, hdates⟩ := hstored returned t dated hmade (Or.inr ht)
  refine ⟨t, u, ht, hu, fun base caller there => ?_⟩
  rw [hdates, hshown]
  have hspelled {t : Instant} {text : String} (h : text = t.dateText) :
      Option.Rel Instant.ShownAs (some t) (some text) := .some (Instant.shownAs_iff.2 h)
  exact ⟨hspelled (by decide +kernel), hspelled (by decide +kernel), hspelled (by decide +kernel),
    hspelled (by decide +kernel), hspelled (by decide +kernel), hspelled (by decide +kernel), .none⟩

end CloudIde
