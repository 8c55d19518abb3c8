import CloudIde.Json.Problem
import CloudIde.Text.Hex

/-!
# The pieces of a JSON text

Words, strings and numbers are read from the front of a byte sequence; each reader gives what it
read and the bytes after it. One that stops says which bytes are left there: those behind the byte
that is wrong, as a rule, be it taken or only looked at. Strings and numbers that nobody wants are
**skipped** by rules of their own: they must have the right form, but a skipped string need not
spell a text and a skipped number may have any size.
-/

namespace CloudIde.Json.Lexeme

/-- White space between the pieces. -/
def isSpace (b : UInt8) : Bool := b = 0x20 || b = 0x0A || b = 0x09 || b = 0x0D

/-- The bytes from the next piece on. -/
def skipSpace : Bytes → Bytes := List.dropWhile isSpace

/-- The bytes after a word whose first letter was read; `tail` holds the others. -/
def word : (tail : Bytes) → Bytes → Except Stop Bytes
  | [], input => .ok input
  | _ :: _, [] => fail .endInValue []
  | letter :: tail, b :: input => if b = letter then word tail input else fail .wordExpected input

/-- The letters of `null`, `true` and `false` after the first. -/
def nullTail : Bytes := Bytes.ofText "ull"

@[inherit_doc nullTail] def trueTail : Bytes := Bytes.ofText "rue"

@[inherit_doc nullTail] def falseTail : Bytes := Bytes.ofText "alse"

/-! ## Strings -/

/-- The byte that a backslash and a letter stand for. -/
def escaped? (b : UInt8) : Option UInt8 :=
  if b = '"'.toUInt8 || b = '\\'.toUInt8 || b = '/'.toUInt8 then some b
  else if b = 'b'.toUInt8 then some 0x08
  else if b = 'f'.toUInt8 then some 0x0C
  else if b = 'n'.toUInt8 then some 0x0A
  else if b = 'r'.toUInt8 then some 0x0D
  else if b = 't'.toUInt8 then some 0x09
  else none

/-- Where the reader stands inside a string. -/
inductive TextState where
  /-- Between characters. -/
  | plain
  /-- After a backslash. -/
  | escape
  /-- After `\u` and `seen` digits with this value; `lead` is the surrogate that came before. -/
  | number (lead : Option Nat) (seen value : Nat)
  /-- After a leading surrogate, which needs a second number. -/
  | lead (unit : Nat)
  /-- After a leading surrogate and a backslash. -/
  | leadEscape (unit : Nat)
  deriving DecidableEq, Repr

/-- What stops at a digit that is none, when `missing` bytes of its number are still to come: the
bytes of a number are counted and taken before they are looked at. -/
def badDigit (missing : Nat) (rest : Bytes) : Stop :=
  if (rest.take missing).length = missing then Cause.badEscape.before (rest.drop missing)
  else Cause.endInText.before []

/-- The bytes that spell a code point, last byte first. -/
def spelledBack (codePoint : Nat) : Bytes := (String.utf8EncodeChar (Char.ofNat codePoint)).reverse

/-- Reads a string to its closing quote. `done` holds the bytes of its text so far, last byte
first. -/
def textFrom (state : TextState) (done : Bytes) : Bytes → Except Stop (String × Bytes)
  | [] => fail .endInText []
  | b :: rest =>
    match state with
    | .plain =>
      if b = '"'.toUInt8 then
        match Bytes.text? done.reverse with
        | some spelled => .ok (spelled, rest)
        | none => fail .badCodePoint rest
      else if b = '\\'.toUInt8 then textFrom .escape done rest
      else if b < 0x20 then fail .controlCharacter rest
      else textFrom .plain (b :: done) rest
    | .escape =>
      match escaped? b with
      | some c => textFrom .plain (c :: done) rest
      | none =>
        if b = 'u'.toUInt8 then textFrom (.number none 0 0) done rest else fail .badEscape rest
    | .number lead seen value =>
      match hexValue? b with
      | none => .error (badDigit (3 - seen) rest)
      | some digit =>
        let value := 16 * value + digit
        if seen < 3 then textFrom (.number lead (seen + 1) value) done rest
        else
          match lead with
          | none =>
            if 0xDC00 ≤ value && value ≤ 0xDFFF then fail .loneSurrogate rest
            else if 0xD800 ≤ value && value ≤ 0xDBFF then textFrom (.lead value) done rest
            else textFrom .plain (spelledBack value ++ done) rest
          | some unit =>
            if 0xDC00 ≤ value && value ≤ 0xDFFF then
              let codePoint := (unit - 0xD800) * 0x400 + (value - 0xDC00) + 0x10000
              textFrom .plain (spelledBack codePoint ++ done) rest
            else fail .loneSurrogate rest
    | .lead unit =>
      if b = '\\'.toUInt8 then textFrom (.leadEscape unit) done rest else fail .endOfHexEscape rest
    | .leadEscape unit =>
      if b = 'u'.toUInt8 then textFrom (.number (some unit) 0 0) done rest
      else fail .endOfHexEscape rest

/-- Reads a string whose opening quote was read. -/
def text (input : Bytes) : Except Stop (String × Bytes) := textFrom .plain [] input

/-- Skips a string to its closing quote. A control character is not taken. -/
def skipTextFrom (state : TextState) : Bytes → Except Stop Bytes
  | [] => fail .endInText []
  | b :: rest =>
    match state with
    | .escape =>
      if (escaped? b).isSome then skipTextFrom .plain rest
      else if b = 'u'.toUInt8 then skipTextFrom (.number none 0 0) rest
      else fail .badEscape rest
    | .number lead seen value =>
      match hexValue? b with
      | none => .error (badDigit (3 - seen) rest)
      | some _ =>
        if seen < 3 then skipTextFrom (.number lead (seen + 1) value) rest
        else skipTextFrom .plain rest
    | _ =>
      if b = '"'.toUInt8 then .ok rest
      else if b = '\\'.toUInt8 then skipTextFrom .escape rest
      else if b < 0x20 then fail .controlCharacter (b :: rest)
      else skipTextFrom .plain rest

/-- Skips a string whose opening quote was read. -/
def skipText (input : Bytes) : Except Stop Bytes := skipTextFrom .plain input

/-! ## Numbers -/

/-- A number as it was written: an integer that fits into 64 bits is kept, any other number is the
floating-point number near it. -/
inductive Number where
  | natural (value : Nat)
  | negative (size : Nat)
  | double (value : Float)

/-- The number as something that was found. -/
def Number.found : Number → Found
  | .natural n => .integer n
  | .negative n => .integer (-n)
  | .double x => .double x

/-- The number as a JSON value. -/
def Number.toJson : Number → Json
  | .natural n => .integer n
  | .negative n => .integer (-n)
  | .double x => .double x

/-- The value of a decimal digit. -/
def digit? (b : UInt8) : Option Nat :=
  if 0x30 ≤ b && b ≤ 0x39 then some (b.toNat - 0x30) else none

/-- Whether a digit comes next. -/
def startsWithDigit : Bytes → Bool
  | [] => false
  | b :: _ => (digit? b).isSome

/-- Whether an `e` comes next, of either case. -/
def startsWithExponent : Bytes → Bool
  | [] => false
  | b :: _ => b = 'e'.toUInt8 || b = 'E'.toUInt8

/-- Reads digits as long as the number they make fits into 64 bits: the number, how many digits were
read, and the bytes after them. -/
def digits (value count : Nat) : Bytes → Nat × Nat × Bytes
  | [] => (value, count, [])
  | b :: rest =>
    match digit? b with
    | none => (value, count, b :: rest)
    | some d =>
      if value * 10 + d < Nat.pow 2 64 then digits (value * 10 + d) (count + 1) rest
      else (value, count, b :: rest)

/-- Skips digits and counts them. -/
def skipDigits (count : Nat) : Bytes → Nat × Bytes
  | [] => (count, [])
  | b :: rest =>
    match digit? b with
    | none => (count, b :: rest)
    | some _ => skipDigits (count + 1) rest

/-- The number nearest to a power of ten. -/
def tenTo (n : Nat) : Float := Float.ofScientific 1 false n

/-- `x / 10 ^ n`, in steps that stay in range. -/
def scaleDown (x : Float) (n : Nat) : Float :=
  if n ≤ 308 then x / tenTo n
  else if x == 0 then x
  else scaleDown (x / tenTo 308) (n - 308)
termination_by n

/-- The number `significand * 10 ^ exponent`: the significand is rounded first, then the product, so
the result may be one place off the nearest number. -/
def assemble (negative : Bool) (significand : Nat) (exponent : Int) : Except Cause Float :=
  let x := Float.ofNat significand
  let signed (y : Float) : Float := if negative then -y else y
  if exponent < 0 then .ok (signed (scaleDown x exponent.natAbs))
  else if exponent ≤ 308 then
    let y := x * tenTo exponent.natAbs
    if y.isInf then .error .numberTooLarge else .ok (signed y)
  else if x == 0 then .ok (signed x)
  else .error .numberTooLarge

/-- The sign in front of an exponent: whether it is a minus, and the bytes after it. -/
def exponentSign : Bytes → Bool × Bytes
  | [] => (false, [])
  | b :: rest =>
    if b = '+'.toUInt8 then (false, rest)
    else if b = '-'.toUInt8 then (true, rest)
    else (false, b :: rest)

/-- Reads the digits of an exponent into a number that may not exceed 31 bits: nothing when it does,
and the bytes after the digit that is too much. -/
def exponentDigits (value : Nat) : Bytes → Option Nat × Bytes
  | [] => (some value, [])
  | b :: rest =>
    match digit? b with
    | none => (some value, b :: rest)
    | some d =>
      if value * 10 + d < Nat.pow 2 31 then exponentDigits (value * 10 + d) rest
      else (none, rest)

/-- Reads an exponent, from the byte after its `e` on. -/
def exponentPart (negative : Bool) (significand : Nat) (exponent : Int) (input : Bytes) :
    Except Stop (Number × Bytes) :=
  let (down, rest) := exponentSign input
  match rest with
  | [] => fail .endInValue []
  | b :: rest =>
    match digit? b with
    | none => fail .badNumber rest
    | some d =>
      match exponentDigits d rest with
      | (some value, rest) => do
        let e : Int := if down then exponent - value else exponent + value
        let x ← here rest (assemble negative significand e)
        return (.double x, rest)
      | (none, rest) =>
        if significand ≠ 0 && !down then fail .numberTooLarge rest
        else .ok (.double (if negative then -0.0 else 0.0), (skipDigits 0 rest).2)

/-- Reads the digits after a point. Those that no longer fit are left out. -/
def fractionPart (negative : Bool) (significand : Nat) (exponent : Int) (input : Bytes) :
    Except Stop (Number × Bytes) :=
  let (significand, count, rest) := digits significand 0 input
  if count = 0 && !startsWithDigit rest then
    fail (if rest.isEmpty then .endInValue else .badNumber) (rest.drop 1)
  else
    let rest := (skipDigits 0 rest).2
    if startsWithExponent rest then
      exponentPart negative significand (exponent - count) (rest.drop 1)
    else do
      let x ← here rest (assemble negative significand (exponent - count))
      return (.double x, rest)

/-- Reads what comes after the integer part; `left` of its digits did not fit. -/
def afterInteger (negative : Bool) (significand left : Nat) (input : Bytes) :
    Except Stop (Number × Bytes) :=
  match input with
  | b :: rest =>
    if b = '.'.toUInt8 then fractionPart negative significand left rest
    else if startsWithExponent (b :: rest) then exponentPart negative significand left rest
    else whole (b :: rest)
  | [] => whole []
where
  /-- A number without fraction and exponent. Zero has a sign only as a floating-point number. -/
  whole (input : Bytes) : Except Stop (Number × Bytes) :=
    if left ≠ 0 then do
      let x ← here input (assemble negative significand left)
      return (.double x, input)
    else if !negative then .ok (.natural significand, input)
    else if 0 < significand && significand ≤ Nat.pow 2 63 then .ok (.negative significand, input)
    else .ok (.double (-(Float.ofNat significand)), input)

/-- Reads a number after its minus sign, if it has one. -/
def number (negative : Bool) : Bytes → Except Stop (Number × Bytes)
  | [] => fail .endInValue []
  | b :: rest =>
    match digit? b with
    | none => fail .badNumber rest
    | some 0 =>
      if startsWithDigit rest then fail .badNumber (rest.drop 1)
      else afterInteger negative 0 0 rest
    | some d =>
      let (significand, _, rest) := digits d 0 rest
      let (left, rest) := skipDigits 0 rest
      afterInteger negative significand left rest

/-- Skips an exponent, from the byte after its `e` on. -/
def skipExponent (input : Bytes) : Except Stop Bytes :=
  let rest := (exponentSign input).2
  if startsWithDigit rest then .ok (skipDigits 0 rest).2 else fail .badNumber (rest.drop 1)

/-- Skips a number after its minus sign, if it has one. -/
def skipNumber : Bytes → Except Stop Bytes
  | [] => fail .badNumber []
  | b :: rest =>
    match digit? b with
    | none => fail .badNumber rest
    | some d =>
      if d = 0 && startsWithDigit rest then fail .badNumber (rest.drop 1)
      else
        let rest := (skipDigits 0 rest).2
        match rest with
        | [] => .ok []
        | c :: tail =>
          if c = '.'.toUInt8 then
            if !startsWithDigit tail then fail .badNumber (tail.drop 1)
            else
              let rest := (skipDigits 0 tail).2
              if startsWithExponent rest then skipExponent (rest.drop 1) else .ok rest
          else if startsWithExponent (c :: tail) then skipExponent tail
          else .ok (c :: tail)

/-! ## Values of another kind -/

/-- What the value is that starts here, which is not the end of the text, and the bytes after it. Of
a list or an object not even the bracket is taken. -/
def found (input : Bytes) : Except Stop (Found × Bytes) :=
  match input with
  | [] => fail .valueExpected []
  | b :: rest =>
    if b = 'n'.toUInt8 then (word nullTail rest).map fun rest => (.null, rest)
    else if b = 't'.toUInt8 then (word trueTail rest).map fun rest => (.flag true, rest)
    else if b = 'f'.toUInt8 then (word falseTail rest).map fun rest => (.flag false, rest)
    else if b = '-'.toUInt8 then (number true rest).map fun (n, rest) => (n.found, rest)
    else if (digit? b).isSome then (number false (b :: rest)).map fun (n, rest) => (n.found, rest)
    else if b = '"'.toUInt8 then (text rest).map fun (s, rest) => (.text s, rest)
    else if b = '['.toUInt8 then .ok (.list, b :: rest)
    else if b = '\x7b'.toUInt8 then .ok (.object, b :: rest)
    else fail .valueExpected rest

/-- What stops at a value that starts here and is not what was wanted. -/
def mismatch (wanted : Wanted) (input : Bytes) : Stop :=
  match found input with
  | .ok (found, rest) => (Cause.wrongType found wanted).before rest
  | .error stop => stop

end CloudIde.Json.Lexeme
