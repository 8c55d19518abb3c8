import CloudIde.Http.Percent
import CloudIde.Text.Pieces
import CloudIde.Text.Utf8

/-!
# Form-encoded fields

A query holds named fields with ampersands between them and an equals sign between a name and its
value. A plus sign stands for a blank, other bytes may be percent-encoded, and what spells no text
is read with replacements.
-/

namespace CloudIde.Form

/-- A name or a value as it is meant. -/
def decodePart (part : Bytes) : String :=
  Utf8.lossy (Percent.decode (part.map fun b => if b = '+'.toUInt8 then ' '.toUInt8 else b))

/-- The fields of a query, in their order. Between two ampersands without anything there is none. -/
def fields (query : Bytes) : List (String × String) :=
  ((pieces '&'.toUInt8 query).filter fun piece => !piece.isEmpty).map fun piece =>
    let (name, value) := cut '='.toUInt8 piece
    (decodePart name, decodePart (value.getD []))

/-- The bytes that a form keeps as they are: ASCII letters and digits and four signs. -/
def isKept (b : UInt8) : Bool :=
  (0x30 ≤ b && b ≤ 0x39) || (0x41 ≤ b && b ≤ 0x5A) || (0x61 ≤ b && b ≤ 0x7A)
    || b = '*'.toUInt8 || b = '-'.toUInt8 || b = '.'.toUInt8 || b = '_'.toUInt8

/-- A name or a value as it is written. -/
def encodePart (text : String) : Bytes :=
  (Bytes.ofText text).flatMap fun b =>
    if b = ' '.toUInt8 then ['+'.toUInt8] else if isKept b then [b] else Percent.group b

/-- The query of some fields. -/
def encode (fields : List (String × String)) : Bytes :=
  List.intercalate ['&'.toUInt8]
    (fields.map fun field => encodePart field.1 ++ '='.toUInt8 :: encodePart field.2)

end CloudIde.Form
