/-!
# The shortest decimal of a floating-point number

Every finite number of 64 bits stands for all the reals that round to it. Among the decimals in that
interval the shortest ones are tried first, by number of digits, and of two of the same length the
nearer one is taken, so the decimal reads back as the number it was made from.
-/

namespace CloudIde

/-- A number without its sign: `mantissa * 2 ^ exponent`. -/
structure Binary where
  /-- The integer of at most 53 bits. -/
  mantissa : Nat
  /-- The power of two. -/
  exponent : Int
  deriving DecidableEq, Repr

/-- The decimal `digits * 10 ^ exponent`. -/
structure Decimal where
  /-- All the digits, as one number. -/
  digits : Nat
  /-- The power of ten. -/
  exponent : Int
  deriving DecidableEq, Repr

/-- Whether a number has its sign bit set. -/
def signBit (x : Float) : Bool := x.toBits >>> 63 = 1

/-- The size of a finite number. -/
def Binary.ofFloat (x : Float) : Binary :=
  let bits := x.toBits
  let field := ((bits >>> 52) &&& 0x7FF).toNat
  let fraction := (bits &&& 0xFFFFFFFFFFFFF).toNat
  if field = 0 then ⟨fraction, -1074⟩ else ⟨fraction + Nat.pow 2 52, field - 1075⟩

namespace Binary

/-- `b ^ e` as the numerator of a fraction: 1 when `e` is negative. -/
def powerAbove (b : Nat) (e : Int) : Nat := Nat.pow b e.toNat

/-- `b ^ e` as the denominator of a fraction: 1 when `e` is not negative. -/
def powerBelow (b : Nat) (e : Int) : Nat := Nat.pow b (-e).toNat

/-- `quarters`, counted in quarters of a unit in the last place, on the scale on which
`onDecimalScale` puts decimals with the exponent `t`. -/
def onScale (x : Binary) (t : Int) (quarters : Nat) : Nat :=
  quarters * powerAbove 2 (x.exponent - 2) * powerBelow 10 t

/-- The decimal `d * 10 ^ t` on the common scale. -/
def onDecimalScale (x : Binary) (t : Int) (d : Nat) : Nat :=
  d * powerAbove 10 t * powerBelow 2 (x.exponent - 2)

/-- The lower end of the reals that round to `x`, in quarters: half a unit down, or a quarter where
the numbers below are twice as dense. -/
def low (x : Binary) : Nat :=
  if x.mantissa = Nat.pow 2 52 && x.exponent > -1074 then 4 * x.mantissa - 1 else 4 * x.mantissa - 2

/-- The upper end, in quarters. -/
def high (x : Binary) : Nat := 4 * x.mantissa + 2

/-- Whether the decimal `d * 10 ^ t` rounds to `x`: the ends belong to the even numbers. -/
def holds (x : Binary) (t : Int) (d : Nat) : Bool :=
  let at_ := x.onDecimalScale t d
  let low := x.onScale t x.low
  let high := x.onScale t x.high
  if x.mantissa % 2 = 0 then low ≤ at_ && at_ ≤ high else low < at_ && at_ < high

/-- The number of decimal digits before the point; for a number below 1, less the zeros after it. -/
def magnitude (x : Binary) : Int :=
  let n := x.mantissa * powerAbove 2 x.exponent * Nat.pow 10 400 / powerBelow 2 x.exponent
  ((Nat.toDigits 10 n).length : Int) - 400

/-- The decimal of so many digits that is nearest to `x`, when it rounds to `x`. -/
def nearest? (x : Binary) (digits : Nat) : Option Decimal :=
  let t := x.magnitude - digits
  let value := x.onScale t (4 * x.mantissa)
  let below := value / x.onDecimalScale t 1
  let above := below + 1
  let isBelow := x.holds t below
  let isAbove := x.holds t above
  if isBelow && isAbove then
    let down := value - x.onDecimalScale t below
    let up := x.onDecimalScale t above - value
    if down < up || (down = up && below % 2 = 0) then some ⟨below, t⟩ else some ⟨above, t⟩
  else if isBelow then some ⟨below, t⟩
  else if isAbove then some ⟨above, t⟩
  else none

end Binary

/-- A decimal without zeros at its end; `fuel` bounds their number. -/
def Decimal.stripped (d : Decimal) : Nat → Decimal
  | 0 => d
  | fuel + 1 =>
    if d.digits % 10 = 0 && d.digits ≠ 0 then
      Decimal.stripped ⟨d.digits / 10, d.exponent + 1⟩ fuel
    else d

/-- The shortest decimal that reads back as the number `x`, which is not zero: seventeen digits are
always enough. -/
def Binary.shortest (x : Binary) : Decimal :=
  (((List.range 17).findSome? fun n => x.nearest? (n + 1)).getD ⟨0, 0⟩).stripped 20

end CloudIde
