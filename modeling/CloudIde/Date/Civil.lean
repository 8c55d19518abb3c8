import CloudIde.Date.Instant

/-!
# Civil dates

The days of the Gregorian calendar, carried on before its introduction. The calendar repeats every
400 years, which have 146097 days; inside such an **era** the years are counted from March, so that
a leap day is the last day of its year.
-/

namespace CloudIde

/-- A day of the calendar. -/
structure CivilDate where
  year : Int
  month : Nat
  day : Nat
  deriving DecidableEq, Repr

namespace CivilDate

/-- The days of 400 years. -/
def eraDays : Int := 146097

/-- The number of days from the first of March of the year 0 to 1970-01-01. -/
def marchOffset : Int := 719468

/-- The year, counted from March, of a day of an era. -/
def yearOfEra (dayOfEra : Int) : Int :=
  (dayOfEra - dayOfEra / 1460 + dayOfEra / 36524 - dayOfEra / 146096) / 365

/-- The days of an era before one of its years. -/
def daysBeforeYear (year : Int) : Int := 365 * year + year / 4 - year / 100

/-- The date of a day; day 0 is 1970-01-01. -/
def ofDay (day : Int) : CivilDate :=
  let shifted := day + marchOffset
  let era := shifted / eraDays
  let dayOfEra := shifted % eraDays
  let year := yearOfEra dayOfEra
  let dayOfYear := dayOfEra - daysBeforeYear year
  let monthFromMarch := (5 * dayOfYear + 2) / 153
  let day := dayOfYear - (153 * monthFromMarch + 2) / 5 + 1
  let month := if monthFromMarch < 10 then monthFromMarch + 3 else monthFromMarch - 9
  ⟨year + era * 400 + (if month ≤ 2 then 1 else 0), month.toNat, day.toNat⟩

/-- The number of a date's day; 1970-01-01 is day 0. -/
def dayNumber (date : CivilDate) : Int :=
  let year := date.year - (if date.month ≤ 2 then 1 else 0)
  let era := year / 400
  let monthFromMarch : Int := if date.month > 2 then date.month - 3 else date.month + 9
  let dayOfYear := (153 * monthFromMarch + 2) / 5 + date.day - 1
  era * eraDays + daysBeforeYear (year % 400) + dayOfYear - marchOffset

/-- The decimal digits of a number, with zeros in front up to `width`. -/
def padded (width n : Nat) : String :=
  let digits := Nat.toDigits 10 n
  String.ofList (List.replicate (width - digits.length) '0' ++ digits)

/-- The year in at least four digits, with a sign when it has more or lies before the year 0. -/
def yearText (year : Int) : String :=
  (if year < 0 then "-" else if year > 9999 then "+" else "") ++ padded 4 year.natAbs

/-- Month, day and year, as in `02/29/2024`. -/
def text (date : CivilDate) : String :=
  padded 2 date.month ++ "/" ++ padded 2 date.day ++ "/" ++ yearText date.year

end CivilDate

/-- The date of an instant's day, written out. -/
def Instant.dateText (t : Instant) : String := (CivilDate.ofDay t.day).text

end CloudIde
