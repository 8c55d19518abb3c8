import CloudIde.Json.Basic
import CloudIde.Text.Dict

/-!
# Shapes of JSON values

A `Shape` describes the JSON values of one type: it gives the type of the values (`Shape.Val`), the
value that stands for an absent one (`Shape.zero`) and the JSON form (`Shape.toJson`). Reading by a
shape is in `CloudIde.Json.Reader`. A type of the domain has one shape and no code of its own for
reading or writing.

A `Leaf` is a shape without parts. A **flattened** record writes the fields of an inner record among
its own; the inner fields are leaves.
-/

namespace CloudIde.Json

/-- A shape without parts. -/
inductive Leaf where
  | text
  | flag
  | int32
  | double
  /-- One of the named variants. -/
  | choice (first : String) (others : List String)
  deriving DecidableEq

/-- The values of a leaf. A variant is known by its place in the list of names. -/
abbrev Leaf.Val : Leaf → Type
  | .text => String
  | .flag => Bool
  | .int32 => Int32
  | .double => Float
  | .choice _ others => Fin (others.length + 1)

/-- The first of some variants. -/
def Place.first {n : Nat} : Fin (n + 1) := 0

/-- The second of some variants. -/
def Place.second {n : Nat} : Fin (n + 2) := 1

/-- The third of some variants. -/
def Place.third {n : Nat} : Fin (n + 3) := 2

/-- The value that stands for an absent one. -/
def Leaf.zero : (leaf : Leaf) → leaf.Val
  | .text => ""
  | .flag => false
  | .int32 => (0 : Int32)
  | .double => (0.0 : Float)
  | .choice _ others => (0 : Fin (others.length + 1))

/-- The JSON form of a value. -/
def Leaf.toJson : (leaf : Leaf) → leaf.Val → Json
  | .text, value => Json.text value
  | .flag, value => Json.flag value
  | .int32, value => Json.integer (Int32.toInt value)
  | .double, value => Json.double value
  | .choice first others, value => Json.text ((first :: others).get value)

/-- Whether and how a field may be absent. -/
inductive Presence where
  /-- It must be there, unless it can be null. -/
  | required
  /-- When absent it has the value that stands for an absent one. -/
  | defaulted
  /-- Like a required one, and it is not written when it is null. -/
  | omittable
  deriving DecidableEq, Repr

/-- The fields of an inner record, which are leaves; an optional one can be null or absent. -/
inductive FlatFields where
  | nil
  | required (name : String) (leaf : Leaf) (rest : FlatFields)
  | optional (name : String) (leaf : Leaf) (rest : FlatFields)

/-- The values of inner fields. -/
abbrev FlatFields.Val : FlatFields → Type
  | .nil => Unit
  | .required _ leaf rest => leaf.Val × rest.Val
  | .optional _ leaf rest => Option leaf.Val × rest.Val

/-- The inner fields, named and in JSON form. -/
def FlatFields.toJson : (fields : FlatFields) → fields.Val → List (String × Json)
  | .nil, _ => []
  | .required name leaf rest, (value, values) => (name, leaf.toJson value) :: rest.toJson values
  | .optional name leaf rest, (value, values) =>
    (name, (value.map leaf.toJson).getD .null) :: rest.toJson values

mutual

/-- A description of JSON values. -/
inductive Shape where
  | leaf (leaf : Leaf)
  /-- A value or null. -/
  | nullable (shape : Shape)
  | list (item : Shape)
  /-- A dictionary of texts. -/
  | dict
  | record (name : String) (fields : Fields)
  /-- A record that holds the fields of an inner record in front of its own. -/
  | flattened (name : String) (inner : FlatFields) (fields : Fields)

/-- The fields of a record, in the order in which they are declared. -/
inductive Fields where
  | nil
  | cons (name : String) (presence : Presence) (shape : Shape) (rest : Fields)

end

mutual

/-- The values of a shape. -/
def Shape.Val : Shape → Type
  | .leaf leaf => leaf.Val
  | .nullable shape => Option shape.Val
  | .list item => List item.Val
  | .dict => Dict
  | .record _ fields => fields.Val
  | .flattened _ inner fields => inner.Val × fields.Val

/-- The values of the fields of a record. -/
def Fields.Val : Fields → Type
  | .nil => Unit
  | .cons _ _ shape rest => shape.Val × rest.Val

end

mutual

/-- The value that stands for an absent one. -/
def Shape.zero : (shape : Shape) → shape.Val
  | .leaf leaf => leaf.zero
  | .nullable shape => (none : Option shape.Val)
  | .list item => ([] : List item.Val)
  | .dict => Dict.empty
  | .record _ fields => fields.zero
  | .flattened _ inner fields => (zeroFlat inner, fields.zero)
where
  /-- The values that stand for absent inner fields. -/
  zeroFlat : (fields : FlatFields) → fields.Val
    | .nil => ()
    | .required _ leaf rest => (leaf.zero, zeroFlat rest)
    | .optional _ _ rest => (none, zeroFlat rest)

/-- The values that stand for absent fields. -/
def Fields.zero : (fields : Fields) → fields.Val
  | .nil => ()
  | .cons _ _ shape rest => (shape.zero, rest.zero)

end

/-- The JSON form of a dictionary. -/
def ofDict (d : Dict) : Json := .object (d.entries.map fun e => (e.1, Json.text e.2))

/-- Whether a value is null. -/
def isNull : Json → Bool
  | .null => true
  | _ => false

mutual

/-- The JSON form of a value. -/
def Shape.toJson : (shape : Shape) → shape.Val → Json
  | .leaf leaf, value => leaf.toJson value
  | .nullable shape, value => ((value : Option shape.Val).map fun v => shape.toJson v).getD .null
  | .list item, value => .list ((value : List item.Val).map fun v => item.toJson v)
  | .dict, value => ofDict value
  | .record _ fields, value => .object (fields.toJson value)
  | .flattened _ inner fields, value =>
    .object (inner.toJson value.1 ++ fields.toJson value.2)

/-- The fields of a record, named and in JSON form. -/
def Fields.toJson : (fields : Fields) → fields.Val → List (String × Json)
  | .nil, _ => []
  | .cons name presence shape rest, value =>
    let json := shape.toJson value.1
    if presence = .omittable && isNull json then rest.toJson value.2
    else (name, json) :: rest.toJson value.2

end

/-- The names of the fields. -/
def Fields.names : Fields → List String
  | .nil => []
  | .cons name _ _ rest => name :: rest.names

/-- The number of fields. -/
def Fields.size : Fields → Nat
  | .nil => 0
  | .cons _ _ _ rest => rest.size + 1

/-- The names of the inner fields. -/
def FlatFields.names : FlatFields → List String
  | .nil => []
  | .required name _ rest | .optional name _ rest => name :: rest.names

end CloudIde.Json
