/-!
# Instants

An instant is a count of seconds and nanoseconds since 1970-01-01T00:00:00Z. Instants reach from the
first second of the year -262143 to the last one of the year 262142. The last second of a minute may
be followed by a **leap second**, whose instants are counted as a second and more after it.
-/

namespace CloudIde

/-- The first second that is an instant. -/
def firstSecond : Int := -8334601228800

/-- The last second that is an instant. -/
def lastSecond : Int := 8210266876799

/-- The seconds of a day. -/
def daySeconds : Int := 86400

/-- The nanoseconds of a second. -/
def secondNanos : Nat := 1000000000

/-- Whether some nanoseconds can be counted after a second: fewer than a second has, or than two
seconds have when it is the last one of a minute. -/
def areAfter (nanos : Nat) (seconds : Int) : Bool :=
  nanos < secondNanos || (nanos < 2 * secondNanos && seconds % 60 = 59)

/-- A point in time. -/
@[ext] structure Instant where
  /-- Whole seconds, rounded down. -/
  seconds : Int
  /-- Nanoseconds after that second. -/
  nanos : Nat
  nanos_after : areAfter nanos seconds
  first_le : firstSecond ≤ seconds
  le_last : seconds ≤ lastSecond
  deriving DecidableEq

namespace Instant

/-- The instant of a second and nanoseconds after it, when there is one. -/
def ofParts? (seconds : Int) (nanos : Nat) : Option Instant :=
  if h : areAfter nanos seconds ∧ firstSecond ≤ seconds ∧ seconds ≤ lastSecond then
    some ⟨seconds, nanos, h.1, h.2.1, h.2.2⟩
  else none

/-- The instant of a second, when there is one. -/
def ofSeconds? (seconds : Int) : Option Instant := ofParts? seconds 0

/-- The beginning of the instant's second. -/
def floorSecond (t : Instant) : Instant := { t with nanos := 0, nanos_after := rfl }

/-- Whether the instant lies in a leap second. -/
def isLeap (t : Instant) : Bool := secondNanos ≤ t.nanos

/-- The instant some days later, when there is one. From a leap second one leads on to the second
before it, and back to the second behind it. -/
def addDays? (t : Instant) (days : Int) : Option Instant :=
  let seconds := t.seconds + days * daySeconds
  if !t.isLeap || days = 0 then ofParts? seconds t.nanos
  else if days > 0 then ofParts? seconds (t.nanos - secondNanos)
  else ofParts? (seconds + 1) (t.nanos - secondNanos)

/-- The number of the instant's day; day 0 is 1970-01-01. -/
def day (t : Instant) : Int := t.seconds / daySeconds

instance : LE Instant where
  le a b := a.seconds < b.seconds ∨ (a.seconds = b.seconds ∧ a.nanos ≤ b.nanos)

instance (a b : Instant) : Decidable (a ≤ b) :=
  inferInstanceAs (Decidable (_ ∨ _))

/-- 1970-01-01T00:00:00Z. -/
def epoch : Instant := ⟨0, 0, rfl, by decide, by decide⟩

instance : Inhabited Instant := ⟨epoch⟩

end Instant

end CloudIde
