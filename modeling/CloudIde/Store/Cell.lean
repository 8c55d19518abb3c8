import CloudIde.Number.Shortest
import CloudIde.Store.Fault

/-!
# Cells

A cell of a row holds null, an integer of 64 bits, another number, or a text. What a column is made
for decides what becomes of a value that is put into it (`Affinity.cell`): a column of texts keeps
integers as their digits, a column of integers keeps a text as a number when it spells one. A column
that is made for nothing keeps every value as it is.

`Cell.readText`, `Cell.readFlag` and their like read a cell. Null is read as the value that stands
for an absent one; a value of another kind is a fault, and so is an integer that does not fit.
-/

namespace CloudIde

/-- The value of a cell. -/
inductive Cell where
  | null
  | integer (value : Int)
  /-- A number that is no integer of 64 bits. Nothing reads its value. -/
  | real
  | text (value : String)
  deriving DecidableEq, Repr

/-! ## Numbers that texts spell -/

/-- A decimal number as it is written. -/
structure Numeral where
  negative : Bool
  /-- All digits, as one number. -/
  digits : Nat
  /-- The power of ten that they are counted in. -/
  exponent : Int
  /-- Whether it is written with digits alone. -/
  plain : Bool
  deriving DecidableEq, Repr

namespace Numeral

/-- Whether a character may stand around a number. -/
def isSpace (c : Char) : Bool := c = ' ' || ('\t' ≤ c && c ≤ '\r')

/-- A sign, if there is one: whether it is a minus, and what follows it. -/
def sign : List Char → Bool × List Char
  | '-' :: rest => (true, rest)
  | '+' :: rest => (false, rest)
  | rest => (false, rest)

/-- The number that some digits write. -/
def ofDigits (digits : List Char) : Nat :=
  digits.foldl (fun n c => 10 * n + (c.toNat - '0'.toNat)) 0

/-- The digits in front, and what follows them. -/
def digitsInFront (text : List Char) : List Char × List Char := text.span Char.isDigit

/-- The digits behind a point, if there is one, and what follows them. -/
def fraction : List Char → Option (List Char) × List Char
  | '.' :: rest =>
    let (digits, rest) := digitsInFront rest
    (some digits, rest)
  | rest => (none, rest)

/-- The largest exponent that counts. -/
def exponentLimit : Nat := 100000

/-- The exponent, if there is one, and what follows it; nothing when it has no digits. -/
def power : List Char → Option (Option Int × List Char)
  | c :: rest =>
    if c = 'e' || c = 'E' then
      let (negative, rest) := sign rest
      let (digits, rest) := digitsInFront rest
      if digits.isEmpty then none
      else
        let size : Int := min (ofDigits digits) exponentLimit
        some (some (if negative then -size else size), rest)
    else some (none, c :: rest)
  | [] => some (none, [])

/-- The number that a text spells, between blanks. -/
def ofChars? (text : List Char) : Option Numeral := do
  let (negative, rest) := sign (text.dropWhile isSpace)
  let (whole, rest) := digitsInFront rest
  let (fraction, rest) := fraction rest
  let behind := fraction.getD []
  if whole.isEmpty && behind.isEmpty then none
  else
    let (power, rest) ← power rest
    if rest.all isSpace then
      some ⟨negative, ofDigits (whole ++ behind), power.getD 0 - behind.length,
        fraction.isNone && power.isNone⟩
    else none

end Numeral

/-- The least and the greatest integer of a cell. -/
def Cell.minInteger : Int := -9223372036854775808

@[inherit_doc Cell.minInteger] def Cell.maxInteger : Int := 9223372036854775807

/-- The integer that a floating-point number is, when it is one and lies between the least and the
greatest integer of a cell. -/
def Binary.integer? (negative : Bool) (x : Binary) : Option Int :=
  let divisor := Nat.pow 2 (-x.exponent).toNat
  if x.mantissa % divisor = 0 then
    let size : Int := x.mantissa / divisor * Nat.pow 2 x.exponent.toNat
    let value := if negative then -size else size
    if Cell.minInteger < value ∧ value < Cell.maxInteger then some value else none
  else none

/-- The cell of a number. Digits alone are an integer when it fits; any other number is the nearest
floating-point number, which may be an integer again. -/
def Numeral.cell (n : Numeral) : Cell :=
  let whole : Int := if n.negative then -n.digits else n.digits
  if n.plain ∧ Cell.minInteger ≤ whole ∧ whole ≤ Cell.maxInteger then .integer whole
  else
    let x := Float.ofScientific n.digits (n.exponent < 0) n.exponent.natAbs
    if x.isInf then .real
    else ((Binary.ofFloat x).integer? n.negative).elim .real .integer

/-! ## What columns are made for -/

/-- What a column is made for. -/
inductive Affinity where
  | text
  | integer
  deriving DecidableEq, Repr

/-- The cell that a column keeps for a value. -/
def Affinity.cell : Affinity → Cell → Cell
  | text, .integer n => .text (toString n)
  | integer, .text s => ((Numeral.ofChars? s.toList).map Numeral.cell).getD (.text s)
  | _, cell => cell

/-! ## Reading and comparing -/

namespace Cell

/-- The fault of a value of another kind than is read. -/
def wrong {α : Type} (column : ColumnPlace) (wanted : CellType) (found : CellKind) :
    Except DatabaseFault α :=
  .error (.wrongKind column wanted found)

/-- The text of a cell, which may be absent. -/
def optionalText (column : ColumnPlace) : Cell → Except DatabaseFault (Option String)
  | null => .ok none
  | text s => .ok (some s)
  | integer _ => wrong column .optionalText .integer
  | real => wrong column .optionalText .real

/-- The text of a cell. -/
def readText (column : ColumnPlace) : Cell → Except DatabaseFault String
  | null => .ok ""
  | text s => .ok s
  | integer _ => wrong column .text .integer
  | real => wrong column .text .real

/-- The truth value of a cell: an integer that is not zero. -/
def readFlag (column : ColumnPlace) : Cell → Except DatabaseFault Bool
  | null => .ok false
  | integer n => .ok (n ≠ 0)
  | text _ => wrong column .flag .text
  | real => wrong column .flag .real

/-- The integer of a cell, which has to fit into 32 bits. -/
def readInt32 (column : ColumnPlace) : Cell → Except DatabaseFault Int32
  | null => .ok 0
  | integer n =>
    if n > Int32.maxValue.toInt then .error (.tooLarge column)
    else if n < Int32.minValue.toInt then .error (.tooSmall column)
    else .ok (Int32.ofInt n)
  | text _ => wrong column .int32 .text
  | real => wrong column .int32 .real

/-- The integer of a cell, which may be absent. -/
def optionalInteger (column : ColumnPlace) : Cell → Except DatabaseFault (Option Int)
  | null => .ok none
  | integer n => .ok (some n)
  | text _ => wrong column .optionalInteger .text
  | real => wrong column .optionalInteger .real

/-- The cell of a text that may be absent. -/
def ofOptionalText (value : Option String) : Cell := value.elim null text

/-- The cell of a truth value. -/
def ofFlag (value : Bool) : Cell := integer (if value then 1 else 0)

/-- The cell of an integer of 32 bits. -/
def ofInt32 (value : Int32) : Cell := integer value.toInt

/-- The cell of an integer that may be absent. -/
def ofOptionalInteger (value : Option Int) : Cell := value.elim null integer

/-- Whether a cell stands before another one or beside it in a sorted list: null, integers, other
numbers, texts. -/
def le : Cell → Cell → Bool
  | null, _ => true
  | _, null => false
  | integer m, integer n => m ≤ n
  | integer _, _ => true
  | real, integer _ => false
  | real, _ => true
  | text s, text t => s ≤ t
  | text _, _ => false

/-- Whether a row with some cells stands before another one or beside it in a list that is sorted by
them, the first cell first. -/
def listLe : List Cell → List Cell → Bool
  | [], _ => true
  | _ :: _, [] => false
  | a :: as, b :: bs => if a = b then listLe as bs else le a b

/-- The text of a cell that holds one. -/
def spelling : Cell → String
  | text s => s
  | _ => ""

/-- A cell that holds a text can be read. -/
theorem readText_text (column : ColumnPlace) (s : String) : readText column (text s) = .ok s := rfl

theorem optionalText_ofOptionalText (column : ColumnPlace) (value : Option String) :
    optionalText column (ofOptionalText value) = .ok value := by
  cases value <;> rfl

theorem readFlag_ofFlag (column : ColumnPlace) (value : Bool) :
    readFlag column (ofFlag value) = .ok value := by
  cases value <;> rfl

theorem readInt32_ofInt32 (column : ColumnPlace) (value : Int32) :
    readInt32 column (ofInt32 value) = .ok value := by
  have above := value.toInt_le
  have below := value.le_toInt
  simp only [readInt32, ofInt32]
  rw [if_neg (by simp at above ⊢; omega), if_neg (by simp at below ⊢; omega)]
  simp

theorem optionalInteger_ofOptionalInteger (column : ColumnPlace) (value : Option Int) :
    optionalInteger column (ofOptionalInteger value) = .ok value := by
  cases value <;> rfl

end Cell

end CloudIde
