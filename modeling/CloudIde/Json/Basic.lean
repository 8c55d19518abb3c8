import CloudIde.Number.Shortest
import CloudIde.Text.Bytes

/-!
# JSON values and their text

`Json` holds what an answer or a stored column can say. `Json.render` writes it without white space;
objects keep the order of their fields.
-/

namespace CloudIde

/-- A JSON value. -/
inductive Json where
  | null
  | flag (value : Bool)
  | integer (value : Int)
  | double (value : Float)
  | text (value : String)
  | list (items : List Json)
  | object (fields : List (String × Json))

namespace Json

/-- A decimal digit, or a letter for ten to fifteen. -/
def hexDigit (n : Nat) : Char := Nat.digitChar n

/-- A character as it stands in a JSON text: quote and backslash behind a backslash, controls by
their letter or their number, all else as it is. -/
def escapedChar (c : Char) : List Char :=
  if c = '"' then ['\\', '"']
  else if c = '\\' then ['\\', '\\']
  else if c.toNat ≥ 0x20 then [c]
  else if c.toNat = 0x08 then ['\\', 'b']
  else if c.toNat = 0x09 then ['\\', 't']
  else if c.toNat = 0x0A then ['\\', 'n']
  else if c.toNat = 0x0C then ['\\', 'f']
  else if c.toNat = 0x0D then ['\\', 'r']
  else ['\\', 'u', '0', '0', hexDigit (c.toNat / 16), hexDigit (c.toNat % 16)]

/-- A text as a JSON string. -/
def renderText (text : String) : String :=
  "\"" ++ String.ofList (text.toList.flatMap escapedChar) ++ "\""

/-- `n` zeros. -/
def zeros (n : Nat) : String := String.ofList (List.replicate n '0')

/-- A decimal as a JSON number: written out when it lies between 1e-5 and 1e16, with at least one
digit after the point, and with an exponent that has its sign otherwise. -/
def renderDecimal (d : Decimal) : String :=
  let digits := Nat.toDigits 10 d.digits
  let point := d.exponent + digits.length
  if 0 < point && point ≤ 16 then
    if d.exponent ≥ 0 then String.ofList digits ++ zeros d.exponent.toNat ++ ".0"
    else String.ofList (digits.take point.toNat) ++ "." ++ String.ofList (digits.drop point.toNat)
  else if -5 < point && point ≤ 0 then "0." ++ zeros (-point).toNat ++ String.ofList digits
  else
    let exponent := point - 1
    let tail := String.ofList (digits.drop 1)
    String.ofList (digits.take 1) ++ (if tail.isEmpty then "" else "." ++ tail)
      ++ (if exponent < 0 then "e-" else "e+") ++ toString exponent.natAbs

/-- A floating-point number as a JSON number. JSON has no words for what is not a number. -/
def renderDouble (x : Float) : String :=
  if x.isNaN || x.isInf then "null"
  else
    let size := Binary.ofFloat x
    (if signBit x then "-" else "")
      ++ (if size.mantissa = 0 then "0.0" else renderDecimal size.shortest)

mutual

/-- The text of a value. -/
def render : Json → String
  | null => "null"
  | flag b => if b then "true" else "false"
  | integer n => toString n
  | double x => renderDouble x
  | text s => renderText s
  | list items => "[" ++ renderItems items ++ "]"
  | object fields => "\x7b" ++ renderFields fields ++ "\x7d"

/-- The texts of values with commas between them. -/
def renderItems : List Json → String
  | [] => ""
  | [item] => render item
  | item :: next :: items => render item ++ "," ++ renderItems (next :: items)

/-- The texts of named values with commas between them. -/
def renderFields : List (String × Json) → String
  | [] => ""
  | [(name, value)] => renderText name ++ ":" ++ render value
  | (name, value) :: next :: fields =>
    renderText name ++ ":" ++ render value ++ "," ++ renderFields (next :: fields)

end

/-- The bytes of the text of a value. -/
def toBytes (json : Json) : Bytes := Bytes.ofText json.render

end Json

end CloudIde
