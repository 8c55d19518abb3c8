import CloudIde.Json.Reader

/-!
# Types with a JSON form

An instance of `Wire` gives a type its shape and takes its values apart and together again. What is
taken apart can be put together (`ofVal_toVal`), so reading undoes writing for the type as soon as
it does for its shape.
-/

namespace CloudIde

open Json

/-- A type whose values have a JSON form. -/
class Wire (α : Type) where
  /-- The description of the JSON form. -/
  shape : Shape
  /-- The parts of a value. -/
  toVal : α → shape.Val
  /-- The value with these parts. -/
  ofVal : shape.Val → α
  ofVal_toVal : ∀ a, ofVal (toVal a) = a := by intro a; rfl

namespace Wire

variable {α : Type} [Wire α]

/-- The JSON form of a value. -/
def toJson (a : α) : Json := (shape α).toJson (toVal a)

/-- Reads a whole text, given by its bytes. -/
def parse (α : Type) [Wire α] (bytes : Bytes) : Except Problem α :=
  ((shape α).parse bytes).map ofVal

/-- Reads the text in front, whatever follows it. -/
def parseFront (α : Type) [Wire α] (bytes : Bytes) : Except Problem α :=
  (((shape α).read bytes).map fun (value, _) => ofVal value).mapError fun stop => stop.inText bytes

/-- Reads a whole text. -/
def parseText (α : Type) [Wire α] (text : String) : Except Problem α :=
  parse α (Bytes.ofText text)

end Wire

instance {α : Type} [Wire α] : Wire (List α) where
  shape := .list (Wire.shape α)
  toVal items := items.map (Wire.toVal (α := α))
  ofVal := List.map (Wire.ofVal (α := α))
  ofVal_toVal items := by
    induction items with
    | nil => rfl
    | cons a rest ih => simpa [Wire.ofVal_toVal] using ih

instance : Wire String where
  shape := .leaf .text
  toVal s := s
  ofVal s := s

instance : Wire Dict where
  shape := .dict
  toVal d := d
  ofVal d := d

end CloudIde
