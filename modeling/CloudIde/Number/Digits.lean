/-!
# Decimal digits

A natural number is written with at least one ASCII digit; zeros in front say nothing.
-/

namespace CloudIde.Digits

/-- The number that digits make behind a number. -/
def extend (value : Nat) : List Char → Option Nat
  | [] => some value
  | c :: rest =>
    if '0' ≤ c ∧ c ≤ '9' then extend (10 * value + (c.toNat - '0'.toNat)) rest else none

/-- The number that digits make, of which there is at least one. -/
def value? (digits : List Char) : Option Nat :=
  if digits.isEmpty then none else extend 0 digits

end CloudIde.Digits
