import CloudIde.Date.Civil
import Mathlib.Tactic.IntervalCases

/-!
# The days of the Gregorian calendar

The calendar is what the rule of the leap years and the lengths of the months make of it: they say
which date comes after a date, and the dates of all days follow from that of one of them, forwards
and backwards (`IsDateOf`). The number of a day and its date are reckoned without counting, and they
agree with the calendar (`isDateOf_iff`, `isDateOf_iff_dayNumber`).

In between stand the days of years that begin in March (`MarchDay`): the days of an era are found
among its centuries, cycles of four years and years (`EraDay`), and the months have, counted from
March, the same lengths in every year but for the last one.
-/

namespace CloudIde

/-- Every fourth year is a leap year, of the full centuries only every fourth. -/
def IsLeapYear (year : Int) : Prop := 4 ∣ year ∧ (100 ∣ year → 400 ∣ year)

instance (year : Int) : Decidable (IsLeapYear year) := inferInstanceAs (Decidable (_ ∧ _))

namespace CivilDate

@[ext] theorem ext {d d' : CivilDate} (hyear : d.year = d'.year) (hmonth : d.month = d'.month)
    (hday : d.day = d'.day) : d = d' := by
  cases d
  cases d'
  exact mk.injEq .. ▸ ⟨hyear, hmonth, hday⟩

/-- The number of days of a month. -/
def monthDays (year : Int) (month : Nat) : Nat :=
  if month = 2 then (if IsLeapYear year then 29 else 28)
  else if month = 4 ∨ month = 6 ∨ month = 9 ∨ month = 11 then 30
  else 31

theorem monthDays_mem (year : Int) (month : Nat) :
    1 ≤ monthDays year month ∧ monthDays year month ≤ 31 := by
  unfold monthDays
  split
  · split <;> omega
  · split <;> omega

/-- The year has the month, and the month the day. -/
structure Valid (date : CivilDate) : Prop where
  month_pos : 1 ≤ date.month
  month_le : date.month ≤ 12
  day_pos : 1 ≤ date.day
  day_le : date.day ≤ monthDays date.year date.month

/-- The date after a date. -/
def next (date : CivilDate) : CivilDate :=
  if date.day < monthDays date.year date.month then { date with day := date.day + 1 }
  else if date.month < 12 then ⟨date.year, date.month + 1, 1⟩
  else ⟨date.year + 1, 1, 1⟩

/-- The dates of the days, from 1970-01-01 in both directions. -/
inductive IsDateOf : Int → CivilDate → Prop
  | epoch : IsDateOf 0 ⟨1970, 1, 1⟩
  | after {day : Int} {date : CivilDate} : IsDateOf day date → IsDateOf (day + 1) date.next
  | before {day : Int} {date : CivilDate} :
      date.Valid → IsDateOf (day + 1) date.next → IsDateOf day date

/-! ## Centuries, cycles and years of an era -/

/-- A day of an era. Its years begin in March, the last one of a cycle of four may have a leap day,
and the last cycle of a century has one in the last century only. -/
structure EraDay where
  century : Int
  cycle : Int
  year : Int
  day : Int
  century_mem : 0 ≤ century ∧ century ≤ 3
  cycle_mem : 0 ≤ cycle ∧ cycle ≤ 24
  year_mem : 0 ≤ year ∧ year ≤ 3
  day_mem : 0 ≤ day ∧ day ≤ 365
  leap : day = 365 → year = 3 ∧ (cycle = 24 → century = 3)

namespace EraDay

/-- The days of the century before the day. -/
def centuryDay (e : EraDay) : Int := 1461 * e.cycle + 365 * e.year + e.day

/-- The days of the era before the day. -/
def number (e : EraDay) : Int := 36524 * e.century + e.centuryDay

/-- The years of the era before that of the day. -/
def eraYear (e : EraDay) : Int := 100 * e.century + 4 * e.cycle + e.year

variable (e : EraDay)

/-- A century has a day less than its cycles would have, but for the last one. -/
theorem centuryDay_mem :
    0 ≤ e.centuryDay ∧ (e.centuryDay < 36524 ∨ e.centuryDay = 36524 ∧ e.century = 3) := by
  have hcentury := e.century_mem
  have hcycle := e.cycle_mem
  have hyear := e.year_mem
  have hday := e.day_mem
  have hleap := e.leap
  unfold centuryDay
  omega

theorem number_mem : 0 ≤ e.number ∧ e.number < eraDays := by
  have hcentury := e.century_mem
  have hcenturyDay := e.centuryDay_mem
  unfold number eraDays
  omega

theorem eraYear_mem : 0 ≤ e.eraYear ∧ e.eraYear < 400 := by
  have hcentury := e.century_mem
  have hcycle := e.cycle_mem
  have hyear := e.year_mem
  unfold eraYear
  omega

/-- Division finds the century, but for the last day of an era. -/
theorem century_eq : e.number / 36524 - e.number / 146096 = e.century := by
  obtain ⟨hnonneg, hlt | ⟨hlast, hcentury⟩⟩ := e.centuryDay_mem
  · have hcentury := e.century_mem
    unfold number
    have hera : (36524 * e.century + e.centuryDay) / 146096 = 0 :=
      Int.ediv_eq_zero_of_lt (by omega) (by omega)
    omega
  · unfold number
    rw [hlast, hcentury]
    rfl

/-- **The year of an era is found**, the days before it being reckoned without their leap days. -/
theorem yearOfEra_number : yearOfEra e.number = e.eraYear := by
  have hcentury := e.century_mem
  have hcycle := e.cycle_mem
  have hyear := e.year_mem
  have hday := e.day_mem
  have hleap := e.leap
  have hcenturies := e.century_eq
  have hnumber : e.number = 36524 * e.century + (1461 * e.cycle + 365 * e.year + e.day) := rfl
  -- the leap day of a cycle is always counted, and later days of its last year may be
  have hcycles : (e.day ≠ 365 ∧ e.number / 1460 = 25 * e.century + e.cycle) ∨
      (e.day ≠ 0 ∧ e.number / 1460 = 25 * e.century + e.cycle + 1) := by omega
  unfold yearOfEra eraYear
  omega

theorem daysBeforeYear_eraYear : daysBeforeYear e.eraYear + e.day = e.number := by
  have hcentury := e.century_mem
  have hcycle := e.cycle_mem
  have hyear := e.year_mem
  unfold daysBeforeYear eraYear number centuryDay
  omega

/-- Every day of an era is one of a century, a cycle and a year. -/
theorem exists_number {d : Int} (h : 0 ≤ d) (h' : d < eraDays) : ∃ e : EraDay, e.number = d := by
  unfold eraDays at h'
  obtain ⟨century, rest, hd, hcentury, hrest⟩ : ∃ century rest : Int,
      d = 36524 * century + rest ∧ (0 ≤ century ∧ century ≤ 3) ∧
        0 ≤ rest ∧ (rest < 36524 ∨ rest = 36524 ∧ century = 3) := by
    by_cases hlast : d = 146096
    · exact ⟨3, 36524, by omega⟩
    · exact ⟨d / 36524, d % 36524, by omega⟩
  obtain ⟨year, day, hcycle, hyear, hday⟩ : ∃ year day : Int,
      rest % 1461 = 365 * year + day ∧ (0 ≤ year ∧ year ≤ 3) ∧
        0 ≤ day ∧ (day < 365 ∨ day = 365 ∧ year = 3) := by
    by_cases hlast : rest % 1461 = 1460
    · exact ⟨3, 365, by omega⟩
    · exact ⟨rest % 1461 / 365, rest % 1461 % 365, by omega⟩
  refine ⟨⟨century, rest / 1461, year, day, hcentury, by omega, hyear, by omega, by omega⟩, ?_⟩
  show 36524 * century + (1461 * (rest / 1461) + 365 * year + day) = d
  omega

end EraDay

/-! ## Years that begin in March -/

/-- The number of a month when March is the month 0. -/
def fromMarch (month : Nat) : Int := if month > 2 then month - 3 else month + 9

/-- The month of a number that is counted from March. -/
def toMonth (number : Int) : Nat := (if number < 10 then number + 3 else number - 9).toNat

/-- The days of a year that begins in March before one of its months. -/
def before (number : Int) : Int := (153 * number + 2) / 5

/-- The days of all years before one that begins in March, counted from that of the year 0. -/
def daysBefore (year : Int) : Int := year / 400 * eraDays + daysBeforeYear (year % 400)

/-- A year that begins in March ends with the February of the next one. -/
theorem daysBefore_succ (year : Int) :
    daysBefore (year + 1) = daysBefore year + (if IsLeapYear (year + 1) then 366 else 365) := by
  unfold daysBefore eraDays daysBeforeYear
  by_cases hleap : IsLeapYear (year + 1)
  · rw [if_pos hleap]
    unfold IsLeapYear at hleap
    omega
  · rw [if_neg hleap]
    unfold IsLeapYear at hleap
    omega

section

variable {number : Int} {month : Nat}

theorem fromMarch_mem (h : 1 ≤ month) (h' : month ≤ 12) :
    0 ≤ fromMarch month ∧ fromMarch month ≤ 11 := by
  unfold fromMarch
  split <;> omega

theorem toMonth_fromMarch (h : 1 ≤ month) (h' : month ≤ 12) :
    toMonth (fromMarch month) = month := by
  unfold toMonth fromMarch
  split <;> split <;> omega

theorem toMonth_mem (h : 0 ≤ number) (h' : number ≤ 11) :
    1 ≤ toMonth number ∧ toMonth number ≤ 12 := by
  unfold toMonth
  split <;> omega

theorem fromMarch_toMonth (h : 0 ≤ number) (h' : number ≤ 11) :
    fromMarch (toMonth number) = number := by
  unfold toMonth fromMarch
  split <;> split <;> omega

theorem toMonth_le_two (h : 0 ≤ number) :
    (if number < 10 then number + 3 else number - 9) ≤ 2 ↔ toMonth number ≤ 2 := by
  unfold toMonth
  split <;> omega

/-- Each month ends where the next one begins, but for February, which ends the year. -/
theorem before_add_monthDays (year : Int) (h : 1 ≤ month) (h' : month ≤ 12) :
    before (fromMarch month) + monthDays year month =
      if month = 2 then (if IsLeapYear year then 366 else 365)
      else before (fromMarch month + 1) := by
  by_cases hleap : IsLeapYear year
  · interval_cases month <;> simp [monthDays, fromMarch, before, hleap]
  · interval_cases month <;> simp [monthDays, fromMarch, before, hleap]

end

theorem dayNumber_eq (d : CivilDate) :
    d.dayNumber = daysBefore (d.year - (if d.month ≤ 2 then 1 else 0))
      + (before (fromMarch d.month) + d.day - 1) - marchOffset := rfl

/-- A day of a year that begins in March; a year that ends with the February of a leap year has a
day more. -/
structure MarchDay where
  year : Int
  day : Int
  day_mem : 0 ≤ day ∧ day ≤ 365
  leap : day = 365 → IsLeapYear (year + 1)

namespace MarchDay

/-- The number of the day; 1970-01-01 is day 0. -/
def number (m : MarchDay) : Int := daysBefore m.year + m.day - marchOffset

/-- The month of the day, counted from March. -/
def month (m : MarchDay) : Int := (5 * m.day + 2) / 153

/-- The date of the day. -/
def date (m : MarchDay) : CivilDate :=
  ⟨m.year + (if toMonth m.month ≤ 2 then 1 else 0), toMonth m.month,
    (m.day - before m.month + 1).toNat⟩

variable (m : MarchDay)

/-- A day of a year is one of an era. -/
theorem exists_eraDay :
    ∃ e : EraDay, e.day = m.day ∧ m.year / 400 * 400 + e.eraYear = m.year := by
  refine ⟨⟨m.year % 400 / 100, m.year % 100 / 4, m.year % 4, m.day, by omega, by omega, by omega,
    m.day_mem, fun hlast => ?_⟩, rfl, ?_⟩
  · obtain ⟨hfour, hcentury⟩ := m.leap hlast
    omega
  · show m.year / 400 * 400
      + (100 * (m.year % 400 / 100) + 4 * (m.year % 100 / 4) + m.year % 4) = m.year
    omega

/-- Every day is one of a year that begins in March. -/
theorem exists_number (n : Int) : ∃ m : MarchDay, m.number = n := by
  have hera : 0 ≤ (n + marchOffset) % eraDays ∧ (n + marchOffset) % eraDays < eraDays :=
    ⟨Int.emod_nonneg _ (by decide), Int.emod_lt_of_pos _ (by decide)⟩
  obtain ⟨e, he⟩ := EraDay.exists_number hera.1 hera.2
  have hmem := e.eraYear_mem
  have hbefore := e.daysBeforeYear_eraYear
  refine ⟨⟨(n + marchOffset) / eraDays * 400 + e.eraYear, e.day, e.day_mem, fun hlast => ?_⟩, ?_⟩
  · obtain ⟨hyear, hcycle⟩ := e.leap hlast
    have hcentury := e.century_mem
    have hcycleMem := e.cycle_mem
    unfold IsLeapYear EraDay.eraYear
    omega
  · have hyear : ((n + marchOffset) / eraDays * 400 + e.eraYear) / 400
        = (n + marchOffset) / eraDays := by omega
    have hrest : ((n + marchOffset) / eraDays * 400 + e.eraYear) % 400 = e.eraYear := by omega
    have hdiv := Int.mul_ediv_add_emod (n + marchOffset) eraDays
    rw [Int.mul_comm] at hdiv
    show daysBefore ((n + marchOffset) / eraDays * 400 + e.eraYear) + e.day - marchOffset = n
    rw [daysBefore, hyear, hrest]
    omega

theorem month_mem : 0 ≤ m.month ∧ m.month ≤ 11 := by
  have hday := m.day_mem
  unfold month
  omega

/-- **The date of a day is found by its number.** -/
theorem ofDay_number : ofDay m.number = m.date := by
  obtain ⟨e, hday, hyear⟩ := m.exists_eraDay
  have hmem := e.eraYear_mem
  have hnumber := e.number_mem
  have hbefore := e.daysBeforeYear_eraYear
  have heraYear : m.year % 400 = e.eraYear := by omega
  have hshifted : m.number + marchOffset = m.year / 400 * eraDays + e.number := by
    unfold number daysBefore
    rw [heraYear]
    omega
  unfold eraDays at hshifted hnumber
  have hera : (m.number + marchOffset) / eraDays = m.year / 400 := by
    unfold eraDays
    omega
  have hdayOfEra : (m.number + marchOffset) % eraDays = e.number := by
    unfold eraDays
    omega
  have hdayOfYear : e.number - daysBeforeYear e.eraYear = m.day := by omega
  have hsum : e.eraYear + m.year / 400 * 400 = m.year := by omega
  have hmonth : (5 * m.day + 2) / 153 = m.month := rfl
  unfold ofDay
  simp only [hera, hdayOfEra, e.yearOfEra_number, hdayOfYear, hsum, hmonth,
    toMonth_le_two m.month_mem.1]
  rfl

/-- The month of a day is the one that begins no later and ends no earlier. -/
theorem month_eq_iff {number : Int} :
    m.month = number ↔ before number ≤ m.day ∧ m.day < before (number + 1) := by
  unfold month before
  omega

theorem date_month : m.date.month = toMonth m.month := rfl

theorem date_year : m.date.year = m.year + (if m.date.month ≤ 2 then 1 else 0) := rfl

theorem date_day : (m.date.day : Int) = m.day - before m.month + 1 := by
  have hbefore := (m.month_eq_iff.1 rfl).1
  exact Int.toNat_of_nonneg (by omega)

theorem fromMarch_date : fromMarch m.date.month = m.month :=
  fromMarch_toMonth m.month_mem.1 m.month_mem.2

theorem date_valid : m.date.Valid := by
  obtain ⟨hpos, hle⟩ := toMonth_mem m.month_mem.1 m.month_mem.2
  obtain ⟨hbefore, hafter⟩ := m.month_eq_iff.1 rfl
  have hyear := m.date_year
  have hday := m.date_day
  have hdays := before_add_monthDays m.date.year hpos hle
  rw [← date_month, fromMarch_date] at hdays
  refine ⟨hpos, hle, by omega, ?_⟩
  by_cases hfebruary : m.date.month = 2
  · have hmem := m.day_mem
    have hleap := m.leap
    rw [if_pos (by omega)] at hyear
    rw [if_pos hfebruary, hyear] at hdays
    rw [hyear]
    split at hdays
    · omega
    · next hcommon =>
      have hshort : m.day ≠ 365 := fun hlast => hcommon (hleap hlast)
      omega
  · rw [if_neg hfebruary] at hdays
    omega

theorem dayNumber_date : m.date.dayNumber = m.number := by
  have hyear := m.date_year
  have hday := m.date_day
  have hyear' : m.date.year - (if m.date.month ≤ 2 then 1 else 0) = m.year := by omega
  rw [dayNumber_eq, hyear', fromMarch_date, number]
  omega

end MarchDay

section

variable {d : CivilDate}

/-- A date lies in its month, and on the last day of the longest year only if that is a leap day. -/
theorem Valid.before_add_day (h : d.Valid) :
    before (fromMarch d.month) + d.day ≤ before (fromMarch d.month + 1) ∧
      before (fromMarch d.month) + d.day ≤ 366 ∧
      (before (fromMarch d.month) + d.day = 366 → d.month = 2 ∧ IsLeapYear d.year) := by
  have hmonth := fromMarch_mem h.month_pos h.month_le
  have hdays := before_add_monthDays d.year h.month_pos h.month_le
  have hday := h.day_le
  by_cases hfebruary : d.month = 2
  · have heleven : fromMarch d.month = 11 := by rw [hfebruary]; rfl
    have hend : before (fromMarch d.month + 1) = 367 := by rw [heleven]; rfl
    rw [if_pos hfebruary] at hdays
    split at hdays
    · next hleap => exact ⟨by omega, by omega, fun _ => ⟨hfebruary, hleap⟩⟩
    · exact ⟨by omega, by omega, by omega⟩
  · -- before February the end of the month is at most that of January
    have hle := h.month_le
    have hearly : fromMarch d.month ≠ 11 := by
      unfold fromMarch
      split <;> omega
    have hend : before (fromMarch d.month + 1) < 366 := by
      unfold before
      omega
    rw [if_neg hfebruary] at hdays
    exact ⟨by omega, by omega, by omega⟩

/-- Every date that the calendar has is one of a day. -/
theorem Valid.exists_marchDay (h : d.Valid) : ∃ m : MarchDay, m.date = d := by
  have hmonth := fromMarch_mem h.month_pos h.month_le
  obtain ⟨hafter, hlast, hleap⟩ := h.before_add_day
  have hday := h.day_pos
  have hbefore : 0 ≤ before (fromMarch d.month) := by
    unfold before
    omega
  let m : MarchDay := ⟨d.year - (if d.month ≤ 2 then 1 else 0),
    before (fromMarch d.month) + d.day - 1, by omega, fun hlong => by
      obtain ⟨hfebruary, hleap⟩ := hleap (by omega)
      rw [hfebruary, if_pos (by decide)]
      simpa using hleap⟩
  have hm : m.day = before (fromMarch d.month) + d.day - 1 := rfl
  have hnumber : m.month = fromMarch d.month := m.month_eq_iff.2 ⟨by omega, by omega⟩
  have hmonth' : m.date.month = d.month := by
    rw [m.date_month, hnumber, toMonth_fromMarch h.month_pos h.month_le]
  have hyear : m.date.year = d.year := by
    rw [m.date_year, hmonth']
    exact Int.sub_add_cancel _ _
  have hday' : (m.date.day : Int) = d.day := by
    rw [m.date_day, hnumber]
    omega
  exact ⟨m, CivilDate.ext hyear hmonth' (Int.ofNat_inj.1 hday')⟩

end

theorem ofDay_valid (n : Int) : (ofDay n).Valid := by
  obtain ⟨m, rfl⟩ := MarchDay.exists_number n
  rw [m.ofDay_number]
  exact m.date_valid

theorem dayNumber_ofDay (n : Int) : (ofDay n).dayNumber = n := by
  obtain ⟨m, rfl⟩ := MarchDay.exists_number n
  rw [m.ofDay_number, m.dayNumber_date]

theorem ofDay_dayNumber {d : CivilDate} (h : d.Valid) : ofDay d.dayNumber = d := by
  obtain ⟨m, rfl⟩ := h.exists_marchDay
  rw [m.dayNumber_date, m.ofDay_number]

/-! ## From day to day -/

section

variable {d : CivilDate}

/-- The day after one is a day of the same month, or the first of the next. -/
theorem Valid.next_cases (h : d.Valid) :
    (d.day < monthDays d.year d.month ∧ d.next = ⟨d.year, d.month, d.day + 1⟩) ∨
      (d.day = monthDays d.year d.month ∧ d.month < 12 ∧ d.next = ⟨d.year, d.month + 1, 1⟩) ∨
      (d.day = monthDays d.year d.month ∧ d.month = 12 ∧ d.next = ⟨d.year + 1, 1, 1⟩) := by
  have hday := h.day_le
  have hmonth := h.month_le
  unfold next
  split
  · next hlt => exact Or.inl ⟨hlt, rfl⟩
  · split
    · next hlt => exact Or.inr (Or.inl ⟨by omega, hlt, rfl⟩)
    · exact Or.inr (Or.inr ⟨by omega, by omega, rfl⟩)

theorem Valid.next (h : d.Valid) : d.next.Valid := by
  have hmonth := h.month_pos
  have hmonth' := h.month_le
  rcases h.next_cases with ⟨hlt, heq⟩ | ⟨-, hlt, heq⟩ | ⟨-, -, heq⟩
  · rw [heq]
    exact ⟨hmonth, hmonth', Nat.succ_le_succ (Nat.zero_le _), hlt⟩
  · rw [heq]
    exact ⟨Nat.succ_le_succ (Nat.zero_le _), hlt, Nat.le_refl 1, (monthDays_mem ..).1⟩
  · rw [heq]
    exact ⟨Nat.le_refl 1, Nat.le_add_left 1 11, Nat.le_refl 1, (monthDays_mem ..).1⟩

/-- The day after a date has the next number. -/
theorem Valid.dayNumber_next (h : d.Valid) : d.next.dayNumber = d.dayNumber + 1 := by
  rcases h.next_cases with ⟨-, heq⟩ | ⟨hlast, hlt, heq⟩ | ⟨hlast, htwelve, heq⟩
  · rw [heq, dayNumber_eq, dayNumber_eq]
    simp only
    omega
  · have hdays := before_add_monthDays d.year h.month_pos h.month_le
    rw [← hlast] at hdays
    rw [heq, dayNumber_eq, dayNumber_eq]
    by_cases hfebruary : d.month = 2
    · -- the first of March begins the next of the years that are counted
      have hyear := daysBefore_succ (d.year - 1)
      rw [Int.sub_add_cancel] at hyear
      have hmarch : before (fromMarch (2 + 1)) = 0 := rfl
      rw [if_pos hfebruary, hfebruary] at hdays
      simp only [hfebruary]
      rw [hmarch, if_neg (show ¬ 2 + 1 ≤ 2 by decide), if_pos (Nat.le_refl 2), Int.sub_zero]
      omega
    · have hearly : d.month + 1 ≤ 2 ↔ d.month ≤ 2 := by omega
      have hnext : fromMarch (d.month + 1) = fromMarch d.month + 1 := by
        unfold fromMarch
        split <;> split <;> omega
      rw [if_neg hfebruary] at hdays
      simp only [hearly, hnext]
      omega
  · have hdays := before_add_monthDays d.year h.month_pos h.month_le
    rw [← hlast, if_neg (by omega), htwelve] at hdays
    have hnext : before (fromMarch 1) = before (fromMarch 12 + 1) := rfl
    rw [heq, dayNumber_eq, dayNumber_eq, htwelve]
    simp only [hnext]
    rw [if_pos (show 1 ≤ 2 by decide), if_neg (show ¬ 12 ≤ 2 by decide), Int.add_sub_cancel,
      Int.sub_zero]
    omega

end

/-- The day after one has the date after its date. -/
theorem ofDay_add_one (n : Int) : ofDay (n + 1) = (ofDay n).next := by
  have hvalid := ofDay_valid n
  rw [← ofDay_dayNumber hvalid.next, hvalid.dayNumber_next, dayNumber_ofDay]

/-- **The date of a day that is reckoned is the one that the calendar gives it.** -/
theorem isDateOf_iff {n : Int} {d : CivilDate} : IsDateOf n d ↔ ofDay n = d := by
  constructor
  · intro h
    induction h with
    | epoch => rfl
    | after _ ih => rw [ofDay_add_one, ih]
    | before hvalid _ ih =>
      have hnumber := congrArg dayNumber ih
      rw [dayNumber_ofDay, hvalid.dayNumber_next] at hnumber
      rw [Int.add_left_inj 1 |>.1 hnumber, ofDay_dayNumber hvalid]
  · rintro rfl
    induction n using Int.induction_on with
    | zero => exact IsDateOf.epoch
    | succ n ih =>
      rw [ofDay_add_one]
      exact ih.after
    | pred n ih =>
      refine IsDateOf.before (ofDay_valid _) ?_
      rw [← ofDay_add_one, Int.sub_add_cancel]
      exact ih

/-- The calendar has the date, and reckoning finds its day. -/
theorem isDateOf_iff_dayNumber {n : Int} {d : CivilDate} :
    IsDateOf n d ↔ d.Valid ∧ d.dayNumber = n := by
  rw [isDateOf_iff]
  constructor
  · rintro rfl
    exact ⟨ofDay_valid n, dayNumber_ofDay n⟩
  · rintro ⟨hvalid, rfl⟩
    exact ofDay_dayNumber hvalid

/-! ## Years -/

section

variable {d : CivilDate}

theorem Valid.year_le_next (h : d.Valid) : d.year ≤ d.next.year := by
  rcases h.next_cases with ⟨-, heq⟩ | ⟨-, -, heq⟩ | ⟨-, -, heq⟩
  · rw [heq]
  · rw [heq]
  · rw [heq]
    exact Int.le_add_one (Int.le_refl _)

/-- The day before the first of January is one of the year before. -/
theorem Valid.year_of_next (h : d.Valid) {year : Int} (hnext : d.next = ⟨year, 1, 1⟩) :
    d.year + 1 = year := by
  rcases h.next_cases with ⟨-, heq⟩ | ⟨-, -, heq⟩ | ⟨-, -, heq⟩
  · have hday := (mk.inj (heq.symm.trans hnext)).2.2
    exact absurd h.day_pos (by omega)
  · have hmonth := (mk.inj (heq.symm.trans hnext)).2.1
    exact absurd h.month_pos (by omega)
  · exact (mk.inj (heq.symm.trans hnext)).1

end

/-- Years do not go back. -/
theorem year_le_year {m n : Int} (h : m ≤ n) : (ofDay m).year ≤ (ofDay n).year := by
  induction n, h using Int.leInduction with
  | base => exact Int.le_refl _
  | succ n _ ih =>
    rw [ofDay_add_one]
    exact Int.le_trans ih (ofDay_valid n).year_le_next

/-- A year has come on its first of January, and not before. -/
theorem le_year_iff {n year : Int} :
    year ≤ (ofDay n).year ↔ (⟨year, 1, 1⟩ : CivilDate).dayNumber ≤ n := by
  have hvalid : (⟨year, 1, 1⟩ : CivilDate).Valid :=
    ⟨Nat.le_refl 1, Nat.le_add_left 1 11, Nat.le_refl 1, (monthDays_mem ..).1⟩
  have hfirst := ofDay_dayNumber hvalid
  generalize (⟨year, 1, 1⟩ : CivilDate).dayNumber = first at hfirst ⊢
  have hyear : (ofDay first).year = year := by rw [hfirst]
  have hnext := ofDay_add_one (first - 1)
  rw [Int.sub_add_cancel, hfirst] at hnext
  have hbefore := (ofDay_valid (first - 1)).year_of_next hnext.symm
  constructor
  · intro h
    refine Int.not_lt.1 fun hlt => ?_
    have hle : (ofDay n).year ≤ (ofDay (first - 1)).year := year_le_year (by omega)
    omega
  · intro h
    have hle : (ofDay first).year ≤ (ofDay n).year := year_le_year h
    omega

end CivilDate

/-- The instants are those of the years from -262143 to 262142. -/
theorem second_mem_iff (seconds : Int) :
    firstSecond ≤ seconds ∧ seconds ≤ lastSecond ↔
      -262143 ≤ (CivilDate.ofDay (seconds / daySeconds)).year ∧
        (CivilDate.ofDay (seconds / daySeconds)).year ≤ 262142 := by
  have hfirst : (⟨-262143, 1, 1⟩ : CivilDate).dayNumber = -96465292 := by decide
  have hend : (⟨262143, 1, 1⟩ : CivilDate).dayNumber = 95026237 := by decide
  have hlast : (CivilDate.ofDay (seconds / daySeconds)).year ≤ 262142 ↔
      ¬ 262143 ≤ (CivilDate.ofDay (seconds / daySeconds)).year := by omega
  rw [hlast, CivilDate.le_year_iff, CivilDate.le_year_iff, hfirst, hend]
  unfold firstSecond lastSecond daySeconds
  omega

end CloudIde
