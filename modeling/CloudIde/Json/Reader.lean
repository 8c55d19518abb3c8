import CloudIde.Json.Shape
import CloudIde.Json.Skip

/-!
# Reading by a shape

`Shape.read` reads the value of a shape from the front of a text, in one pass:

* a **record** is an object with its fields in any order, or a list of them in the order of their
  declaration; unknown fields are skipped;
* a **choice** is the name of the variant, or an object with that name for a null;
* a **flattened** record is an object only. Its inner fields are kept as they come, every one of
  which must be a JSON value of limited depth, and looked at when the object is complete.

`Shape.parse` reads a whole text.
-/

namespace CloudIde.Json

open Lexeme

/-! ## Brackets -/

/-- The colon after a key. -/
def colon (input : Bytes) : Except Stop Bytes :=
  match skipSpace input with
  | [] => fail .endInObject []
  | b :: rest => if b = ':'.toUInt8 then .ok rest else fail .colonExpected rest

/-- The place where the next item of a list begins; nothing when the list ends there. -/
def nextItem (index : Nat) (input : Bytes) : Except Stop (Option Bytes) :=
  match skipSpace input with
  | [] => fail .endInList []
  | b :: rest =>
    if b = ']'.toUInt8 then .ok none
    else if index = 0 then .ok (some (b :: rest))
    else if b = ','.toUInt8 then
      match skipSpace rest with
      | [] => fail .endInValue []
      | c :: rest => if c = ']'.toUInt8 then fail .trailingComma rest else .ok (some (c :: rest))
    else fail .listCommaExpected rest

/-- The key of the next entry of an object and the bytes after it; nothing when the object ends
there. -/
def nextKey (isFirst : Bool) (input : Bytes) : Except Stop (Option (String × Bytes)) :=
  match skipSpace input with
  | [] => fail .endInObject []
  | b :: rest =>
    if b = '\x7d'.toUInt8 then .ok none
    else if isFirst then
      if b = '"'.toUInt8 then (Lexeme.text rest).map some else fail .keyNotText rest
    else if b = ','.toUInt8 then
      match skipSpace rest with
      | [] => fail .endInValue []
      | c :: rest =>
        if c = '"'.toUInt8 then (Lexeme.text rest).map some
        else if c = '\x7d'.toUInt8 then fail .trailingComma rest
        else fail .keyNotText rest
    else fail .objectCommaExpected rest

/-- The bytes after the bracket or brace that comes next. -/
def afterClosing (input : Bytes) : Bytes := (skipSpace input).drop 1

/-- The bytes that are left of an object that is given up: its brace is taken when it comes next. -/
def leaveObject (input : Bytes) : Bytes :=
  match skipSpace input with
  | [] => []
  | b :: rest => if b = '\x7d'.toUInt8 then rest else b :: rest

/-- Reads the items of a list to its end. Every item takes a byte, so `fuel` is enough when it
exceeds the number of bytes. -/
def readItems {α : Type} (item : Bytes → Except Stop (α × Bytes)) (fuel index : Nat)
    (done : List α) (input : Bytes) : Except Stop (List α × Bytes) :=
  match fuel with
  | 0 => fail .endInList input
  | fuel + 1 => do
    match ← nextItem index input with
    | none => return (done.reverse, afterClosing input)
    | some start =>
      let (value, rest) ← within (.item index) (item start)
      readItems item fuel (index + 1) (value :: done) rest

/-- Reads the entries of an object to its end. `entry` takes a key and reads what follows it. A
problem of a key is one of a part without a name. -/
def readEntries {σ : Type} (entry : String → σ → Bytes → Except Stop (σ × Bytes)) (fuel : Nat)
    (isFirst : Bool) (state : σ) (input : Bytes) : Except Stop (σ × Bytes) :=
  match fuel with
  | 0 => fail .endInObject input
  | fuel + 1 => do
    match ← within .unnamed (nextKey isFirst input) with
    | none => return (state, afterClosing input)
    | some (key, rest) =>
      let (state, rest) ← entry key state rest
      readEntries entry fuel false state rest

/-- The end of a list of which everything that is wanted was read. -/
def closeList (input : Bytes) : Except Stop Bytes :=
  match skipSpace input with
  | [] => fail .endInList []
  | b :: rest =>
    if b = ']'.toUInt8 then .ok rest
    else if b = ','.toUInt8 then
      match skipSpace rest with
      | c :: rest => fail (if c = ']'.toUInt8 then .trailingComma else .trailingCharacters) rest
      | [] => fail .trailingCharacters []
    else fail .trailingCharacters rest

/-! ## Leaves -/

/-- The 32-bit integer that a number is. -/
def int32OfNumber : Number → Except Cause Int32
  | .natural n =>
    if n < Nat.pow 2 31 then .ok (Int32.ofInt n) else .error (.wrongValue (.integer n) .int32)
  | .negative n =>
    if n ≤ Nat.pow 2 31 then .ok (Int32.ofInt (-n)) else .error (.wrongValue (.integer (-n)) .int32)
  | .double x => .error (.wrongType (.double x) .int32)

/-- The floating-point number that a number is. -/
def doubleOfNumber : Number → Float
  | .natural n => Float.ofNat n
  | .negative n => -(Float.ofNat n)
  | .double x => x

/-- The variant of a name. -/
def variant (first : String) (others : List String) (name : String) :
    Except Cause (Fin (others.length + 1)) :=
  match (first :: others).finIdxOf? name with
  | some place => .ok place
  | none => .error (.unknownVariant name (first :: others))

/-- Reads a number that may have a minus sign. -/
def readNumber (wanted : Wanted) (b : UInt8) (rest : Bytes) : Except Stop (Number × Bytes) :=
  if b = '-'.toUInt8 then number true rest
  else if (digit? b).isSome then number false (b :: rest)
  else .error (mismatch wanted (b :: rest))

/-- Reads the null of a variant that is written as an object. -/
def readNothing (input : Bytes) : Except Stop Bytes :=
  match skipSpace input with
  | [] => fail .endInValue []
  | b :: rest =>
    if b = 'n'.toUInt8 then word nullTail rest else .error (mismatch .nothing (b :: rest))

/-- Reads a variant after the brace that opens its object. -/
def readVariantObject (first : String) (others : List String) (input : Bytes) :
    Except Stop (Fin (others.length + 1) × Bytes) :=
  match skipSpace input with
  | [] => fail .endInObject []
  | b :: rest => do
    if b = '\x7d'.toUInt8 then fail .valueExpected rest
    if b ≠ '"'.toUInt8 then fail .keyNotText rest
    let (name, rest) ← Lexeme.text rest
    let place ← here rest (variant first others name)
    let rest ← colon rest
    let rest ← within (.field name) (readNothing rest)
    match skipSpace rest with
    | [] => fail .endInObject []
    | c :: after =>
      -- a byte that does not close the object is not taken
      if c = '\x7d'.toUInt8 then return (place, after) else fail .valueExpected (c :: after)

/-- Reads the value of a leaf that begins with the byte `b`. -/
def Leaf.readFrom (leaf : Leaf) (b : UInt8) (rest : Bytes) : Except Stop (leaf.Val × Bytes) :=
  match leaf with
  | .text => if b = '"'.toUInt8 then Lexeme.text rest else .error (mismatch .text (b :: rest))
  | .flag =>
    if b = 't'.toUInt8 then (word trueTail rest).map fun rest => (true, rest)
    else if b = 'f'.toUInt8 then (word falseTail rest).map fun rest => (false, rest)
    else .error (mismatch .flag (b :: rest))
  | .int32 => do
    let (n, rest) ← readNumber .int32 b rest
    return (← here rest (int32OfNumber n), rest)
  | .double => do
    let (n, rest) ← readNumber .double b rest
    return (doubleOfNumber n, rest)
  | .choice first others =>
    if b = '"'.toUInt8 then do
      let (name, rest) ← Lexeme.text rest
      return (← here rest (variant first others name), rest)
    else if b = '\x7b'.toUInt8 then readVariantObject first others rest
    else fail .valueExpected rest

/-- Reads the value of a leaf. -/
def Leaf.read (leaf : Leaf) (input : Bytes) : Except Stop (leaf.Val × Bytes) :=
  match skipSpace input with
  | [] => fail .endInValue []
  | b :: rest => leaf.readFrom b rest

/-! ## Inner fields -/

/-- Reads any value. Brackets may stand in one another to less than `depth`. -/
def readAny (depth : Nat) (input : Bytes) : Except Stop (Json × Bytes) :=
  match skipSpace input with
  | [] => fail .endInValue []
  | b :: rest =>
    if b = 'n'.toUInt8 then (word nullTail rest).map fun rest => (.null, rest)
    else if b = 't'.toUInt8 then (word trueTail rest).map fun rest => (.flag true, rest)
    else if b = 'f'.toUInt8 then (word falseTail rest).map fun rest => (.flag false, rest)
    else if b = '-'.toUInt8 then (number true rest).map fun (n, rest) => (n.toJson, rest)
    else if (digit? b).isSome then
      (number false (b :: rest)).map fun (n, rest) => (n.toJson, rest)
    else if b = '"'.toUInt8 then (Lexeme.text rest).map fun (s, rest) => (.text s, rest)
    else if b = '['.toUInt8 then
      match depth with
      | depth + 2 => do
        let (items, rest) ← readItems (readAny (depth + 1)) (rest.length + 1) 0 [] rest
        return (.list items, rest)
      | _ => fail .tooDeep rest
    else if b = '\x7b'.toUInt8 then
      match depth with
      | depth + 2 => do
        let entry (key : String) (done : List (String × Json)) (input : Bytes) :
            Except Stop ((List (String × Json)) × Bytes) := do
          let (value, rest) ← readAny (depth + 1) (← colon input)
          return ((key, value) :: done, rest)
        let (fields, rest) ← readEntries entry (rest.length + 1) true [] rest
        return (.object fields.reverse, rest)
      | _ => fail .tooDeep rest
    else fail .valueExpected rest

/-- A value as something that was found. -/
def asFound : Json → Found
  | .null => .null
  | .flag b => .flag b
  | .integer n => .integer n
  | .double x => .double x
  | .text s => .text s
  | .list _ => .list
  | .object _ => .object

/-- The value of a leaf from its JSON form. -/
def Leaf.ofJson (leaf : Leaf) (json : Json) : Except Cause leaf.Val :=
  match leaf with
  | .text => match json with
    | .text s => .ok s
    | other => .error (.wrongType (asFound other) .text)
  | .flag => match json with
    | .flag b => .ok b
    | other => .error (.wrongType (asFound other) .flag)
  | .int32 => match json with
    | .integer n =>
      if Int32.minValue.toInt ≤ n ∧ n ≤ Int32.maxValue.toInt then .ok (Int32.ofInt n)
      else .error (.wrongValue (.integer n) .int32)
    | other => .error (.wrongType (asFound other) .int32)
  | .double => match json with
    | .integer n => .ok (Float.ofInt n)
    | .double x => .ok x
    | other => .error (.wrongType (asFound other) .double)
  | .choice first others => match json with
    | .text name => variant first others name
    | .object [(name, value)] => do
      let place ← variant first others name
      match value with
      | .null | .object [] => return place
      | other => .error (.wrongType (asFound other) .nothing)
    | .object _ => .error (.wrongValue .object .singleVariant)
    | other => .error (.wrongType (asFound other) .variant)

/-- The inner fields that were found so far. -/
abbrev FlatFields.Slots : FlatFields → Type
  | .nil => Unit
  | .required _ leaf rest => Option leaf.Val × rest.Slots
  | .optional _ leaf rest => Option (Option leaf.Val) × rest.Slots

/-- No inner field found yet. -/
def FlatFields.noSlots : (fields : FlatFields) → fields.Slots
  | .nil => ()
  | .required _ _ rest => (none, rest.noSlots)
  | .optional _ _ rest => (none, rest.noSlots)

/-- Takes an entry for an inner field; entries of other names are left out. -/
def FlatFields.take : (fields : FlatFields) → fields.Slots → String × Json →
    Except Cause fields.Slots
  | .nil, _, _ => .ok ()
  | .required name leaf rest, (slot, slots), (key, json) =>
    if key = name then
      if slot.isSome then .error (.duplicateField name)
      else (leaf.ofJson json).map fun value => (some value, slots)
    else (rest.take slots (key, json)).map fun slots => (slot, slots)
  | .optional name leaf rest, (slot, slots), (key, json) =>
    if key = name then
      if slot.isSome then .error (.duplicateField name)
      else match json with
        | .null => .ok (some none, slots)
        | json => (leaf.ofJson json).map fun value => (some (some value), slots)
    else (rest.take slots (key, json)).map fun slots => (slot, slots)

/-- The values of the inner fields when all entries were taken. -/
def FlatFields.fill : (fields : FlatFields) → fields.Slots → Except Cause fields.Val
  | .nil, _ => .ok ()
  | .required name _ rest, (slot, slots) =>
    match slot with
    | none => .error (.missingField name)
    | some value => (rest.fill slots).map fun values => (value, values)
  | .optional _ _ rest, (slot, slots) =>
    (rest.fill slots).map fun values => (slot.getD none, values)

/-- The values of the inner fields among the entries of an object. -/
def FlatFields.ofEntries (fields : FlatFields) (entries : List (String × Json)) :
    Except Cause fields.Val := do
  let slots ← entries.foldlM (fun slots entry => fields.take slots entry) fields.noSlots
  fields.fill slots

/-! ## Shapes -/

/-- The fields that were found so far. -/
def Fields.Slots : Fields → Type
  | .nil => Unit
  | .cons _ _ shape rest => Option shape.Val × rest.Slots

/-- No field found yet. -/
def Fields.noSlots : (fields : Fields) → fields.Slots
  | .nil => ()
  | .cons _ _ _ rest => (none, rest.noSlots)

/-- The value of a field that is absent, when it may be. -/
def Shape.absent? (presence : Presence) (shape : Shape) : Option shape.Val :=
  if presence = .defaulted then some shape.zero
  else match shape with
    | .nullable inner => some (none : Option inner.Val)
    | _ => none

/-- The values of the fields when the whole object was read. -/
def Fields.fill : (fields : Fields) → fields.Slots → Except Cause fields.Val
  | .nil, _ => .ok ()
  | .cons name presence shape rest, slots =>
    match (slots.1 : Option shape.Val) <|> shape.absent? presence with
    | none => .error (.missingField name)
    | some value => (rest.fill slots.2).map fun values => (value, values)

/-- Skips the value of an unknown field. -/
def skipEntry (key : String) (input : Bytes) : Except Stop Bytes := do
  let input ← colon input
  within (.field key) (skipValue input)

/-- The depth that is left inside an object that is the whole text. -/
def innerDepth : Nat := 127

mutual

/-- Reads the value of a shape. -/
def Shape.read : (shape : Shape) → Bytes → Except Stop (shape.Val × Bytes)
  | .leaf leaf, input => leaf.read input
  | .nullable shape, input =>
    match skipSpace input with
    | b :: rest =>
      if b = 'n'.toUInt8 then
        (word nullTail rest).map fun rest => ((none : Option shape.Val), rest)
      else (shape.read (b :: rest)).map fun (value, rest) => ((some value : Option shape.Val), rest)
    | [] => fail .endInValue []
  | .list item, input =>
    match skipSpace input with
    | [] => fail .endInValue []
    | b :: rest =>
      if b = '['.toUInt8 then readItems (fun input => item.read input) (rest.length + 1) 0 [] rest
      else .error (mismatch .list (b :: rest))
  | .dict, input =>
    match skipSpace input with
    | [] => fail .endInValue []
    | b :: rest =>
      if b = '\x7b'.toUInt8 then
        readEntries
          (fun key (d : Dict) input => do
            let input ← colon input
            let (value, rest) ← within (.field key) (Leaf.read .text input)
            return (d.insert key value, rest))
          (rest.length + 1) true Dict.empty rest
      else .error (mismatch .object (b :: rest))
  | .record name fields, input =>
    match skipSpace input with
    | [] => fail .endInValue []
    | b :: rest =>
      if b = '\x7b'.toUInt8 then do
        let (slots, rest) ← readEntries
          (fun key slots input =>
            match fields.readField key slots input with
            | some reading => reading
            | none => (skipEntry key input).map fun rest => (slots, rest))
          (rest.length + 1) true fields.noSlots rest
        return (← here rest (fields.fill slots), rest)
      else if b = '['.toUInt8 then do
        let (values, rest) ← fields.readInOrder name fields.size 0 rest
        return (values, ← closeList rest)
      else .error (mismatch (.record name) (b :: rest))
  | .flattened name inner fields, input =>
    match skipSpace input with
    | [] => fail .endInValue []
    | b :: rest =>
      if b = '\x7b'.toUInt8 then do
        let ((slots, entries), rest) ← readEntries
          (fun key (state : fields.Slots × List (String × Json)) input =>
            match fields.readField key state.1 input with
            | some reading => reading.map fun (slots, rest) => ((slots, state.2), rest)
            | none => do
              let input ← colon input
              let (value, rest) ← within (.field key) (readAny innerDepth input)
              return ((state.1, (key, value) :: state.2), rest))
          (rest.length + 1) true (fields.noSlots, []) rest
        let values ← here rest (fields.fill slots)
        return ((← here rest (inner.ofEntries entries.reverse), values), rest)
      else .error (mismatch (.record name) (b :: rest))

/-- Reads what follows the key of a field; nothing when no field has this name. -/
def Fields.readField : (fields : Fields) → String → fields.Slots → Bytes →
    Option (Except Stop (fields.Slots × Bytes))
  | .nil, _, _, _ => none
  | .cons name _ shape rest, key, slots, input =>
    if key = name then
      some (match (slots.1 : Option shape.Val) with
        | some _ => fail (.duplicateField name) (leaveObject input)
        | none => do
          let input ← colon input
          let (value, input) ← within (.field name) (shape.read input)
          return ((some value, slots.2), input))
    else (rest.readField key slots.2 input).map fun reading =>
      reading.map fun (others, input) => ((slots.1, others), input)

/-- Reads the fields of a record that is written as a list, from field number `index` on. -/
def Fields.readInOrder : (fields : Fields) → (record : String) → (total index : Nat) → Bytes →
    Except Stop (fields.Val × Bytes)
  | .nil, _, _, _, input => .ok ((), input)
  | .cons _ presence shape rest, record, total, index, input => do
    match ← nextItem index input with
    | none =>
      if presence = .defaulted then
        let (values, input) ← rest.readInOrder record total (index + 1) input
        return ((shape.zero, values), input)
      else fail (.wrongLength index record total) (afterClosing input)
    | some start =>
      let (value, input) ← within (.item index) (shape.read start)
      let (values, input) ← rest.readInOrder record total (index + 1) input
      return ((value, values), input)

end

/-- Reads a value and white space to the end. -/
def Shape.readWhole (shape : Shape) (input : Bytes) : Except Stop shape.Val := do
  let (value, rest) ← shape.read input
  match skipSpace rest with
  | [] => return value
  | _ :: rest => fail .trailingCharacters rest

/-- Reads a whole text. -/
def Shape.parse (shape : Shape) (input : Bytes) : Except Problem shape.Val :=
  (shape.readWhole input).mapError fun stop => stop.inText input

end CloudIde.Json
