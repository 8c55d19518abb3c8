import CloudIde.Json.Basic
import CloudIde.Text.Quoted

/-!
# What can be wrong with a JSON text

A text is read in one pass for the value that is wanted, so the first thing wrong is reported,
whether the text is not JSON (**syntax**) or is JSON for something else (**data**). A `Problem` also
says with which part of the value and at which place of the text reading stopped.

A reader knows only the rest of a text, so it says how many bytes are left (`Stop`). The place is
found when the whole text is at hand (`Stop.inText`).
-/

namespace CloudIde.Json

/-- What was found in the place of something else. -/
inductive Found where
  | null
  | flag (value : Bool)
  | integer (value : Int)
  | double (value : Float)
  | text (value : String)
  | list
  | object
  deriving DecidableEq

/-- What was wanted. -/
inductive Wanted where
  | text
  | flag
  | int32
  | double
  | list
  | object
  | nothing
  | record (name : String)
  | variant
  | singleVariant
  deriving DecidableEq, Repr

/-- What is wrong. -/
inductive Cause where
  | endInValue
  | endInText
  | endInObject
  | endInList
  | valueExpected
  | wordExpected
  | colonExpected
  | objectCommaExpected
  | listCommaExpected
  | keyNotText
  | trailingComma
  | trailingCharacters
  | badEscape
  | badNumber
  | numberTooLarge
  | controlCharacter
  | endOfHexEscape
  | loneSurrogate
  | badCodePoint
  | tooDeep
  | missingField (name : String)
  | duplicateField (name : String)
  | unknownVariant (name : String) (known : List String)
  | wrongType (found : Found) (wanted : Wanted)
  | wrongValue (found : Found) (wanted : Wanted)
  | wrongLength (length : Nat) (record : String) (fields : Nat)
  deriving DecidableEq

/-- A name between backquotes. -/
def backquoted (name : String) : String := "\x60" ++ name ++ "\x60"

/-- What was found, in words. -/
def Found.words : Found → String
  | .null => "null"
  | .flag b => "boolean " ++ backquoted (if b then "true" else "false")
  | .integer n => "integer " ++ backquoted (toString n)
  | .double x => "floating point " ++ backquoted (renderDouble x)
  | .text s => "string " ++ quoted s
  | .list => "sequence"
  | .object => "map"

/-- What was wanted, in words. -/
def Wanted.words : Wanted → String
  | .text => "a string"
  | .flag => "a boolean"
  | .int32 => "i32"
  | .double => "f64"
  | .list => "a sequence"
  | .object => "a map"
  | .nothing => "unit"
  | .record name => "struct " ++ name
  | .variant => "string or map"
  | .singleVariant => "map with a single key"

/-- The names to choose from, in words. -/
def oneOf : List String → String
  | [] => "there are no variants"
  | [a] => "expected " ++ backquoted a
  | [a, b] => "expected " ++ backquoted a ++ " or " ++ backquoted b
  | names => "expected one of " ++ ", ".intercalate (names.map backquoted)

/-- What is wrong, in words. -/
def Cause.message : Cause → String
  | .endInValue => "EOF while parsing a value"
  | .endInText => "EOF while parsing a string"
  | .endInObject => "EOF while parsing an object"
  | .endInList => "EOF while parsing a list"
  | .valueExpected => "expected value"
  | .wordExpected => "expected ident"
  | .colonExpected => "expected " ++ backquoted ":"
  | .objectCommaExpected => "expected " ++ backquoted "," ++ " or " ++ backquoted "\x7d"
  | .listCommaExpected => "expected " ++ backquoted "," ++ " or " ++ backquoted "]"
  | .keyNotText => "key must be a string"
  | .trailingComma => "trailing comma"
  | .trailingCharacters => "trailing characters"
  | .badEscape => "invalid escape"
  | .badNumber => "invalid number"
  | .numberTooLarge => "number out of range"
  | .controlCharacter => "control character (\\u0000-\\u001F) found while parsing a string"
  | .endOfHexEscape => "unexpected end of hex escape"
  | .loneSurrogate => "lone leading surrogate in hex escape"
  | .badCodePoint => "invalid unicode code point"
  | .tooDeep => "recursion limit exceeded"
  | .missingField name => "missing field " ++ backquoted name
  | .duplicateField name => "duplicate field " ++ backquoted name
  | .unknownVariant name known => "unknown variant " ++ backquoted name ++ ", " ++ oneOf known
  | .wrongType found wanted => "invalid type: " ++ found.words ++ ", expected " ++ wanted.words
  | .wrongValue found wanted => "invalid value: " ++ found.words ++ ", expected " ++ wanted.words
  | .wrongLength length record fields =>
    let elements := if fields = 1 then "element" else "elements"
    s!"invalid length {length}, expected struct {record} with {fields} {elements}"

/-- Whether the text is JSON up to there, but for something else than what is wanted. -/
def Cause.isData : Cause → Bool
  | .missingField _ | .duplicateField _ | .unknownVariant .. | .wrongType .. | .wrongValue ..
  | .wrongLength .. => true
  | _ => false

/-- A step into a value. -/
inductive Step where
  | field (name : String)
  | item (index : Nat)
  /-- A field whose name could not be read. -/
  | unnamed
  deriving DecidableEq, Repr

/-- What is wrong, and with what: the steps from the whole value to the part that was being read. -/
structure Fault where
  cause : Cause
  path : List Step
  deriving DecidableEq

/-- What is wrong, in words. -/
def Fault.message (fault : Fault) : String := fault.cause.message

/-- A fault that stops the reading of a text, of which `left` bytes are behind the place of the
fault. -/
structure Stop extends Fault where
  left : Nat
  deriving DecidableEq

/-- A cause that is met with some bytes left, at the value that is being read. -/
def Cause.before (cause : Cause) (left : Bytes) : Stop := ⟨⟨cause, []⟩, left.length⟩

/-- The fault of a part, as a fault of the whole. -/
def Stop.under (stop : Stop) (step : Step) : Stop := { stop with path := step :: stop.path }

/-- Stops with some bytes left. -/
def fail {α : Type} (cause : Cause) (left : Bytes) : Except Stop α := .error (cause.before left)

/-- What was made of the bytes before those that are left. -/
def here {α : Type} (left : Bytes) : Except Cause α → Except Stop α :=
  Except.mapError fun cause => cause.before left

/-- What was made of a part. -/
def within {α : Type} (step : Step) : Except Stop α → Except Stop α :=
  Except.mapError fun stop => stop.under step

/-- A place in a text: its line, from 1 on, and how many bytes of the line are in front of it. -/
structure Position where
  line : Nat
  column : Nat
  deriving DecidableEq, Repr

/-- The place behind the bytes that a text begins with. -/
def Position.behind (bytes : Bytes) : Position where
  line := bytes.count 0x0A + 1
  column := (bytes.reverse.takeWhile (· ≠ 0x0A)).length

/-- A fault of a text and its place. -/
structure Problem extends Fault where
  position : Position
  deriving DecidableEq

/-- What stops the reading of a text, as a problem of the text. -/
def Stop.inText (stop : Stop) (text : Bytes) : Problem :=
  { stop.toFault with position := .behind (text.take (text.length - stop.left)) }

/-- Whether a step says where it leads. -/
def Step.isNamed : Step → Bool
  | .unnamed => false
  | _ => true

/-- The steps in words: names with points between them, indices in brackets. -/
def pathWords : List Step → String
  | [] => ""
  | .field name :: rest => name ++ afterFirst rest
  | .item index :: rest => s!"[{index}]" ++ afterFirst rest
  | .unnamed :: rest => "?" ++ afterFirst rest
where
  /-- The steps that follow another step. -/
  afterFirst : List Step → String
    | [] => ""
    | .field name :: rest => "." ++ name ++ afterFirst rest
    | .item index :: rest => s!"[{index}]" ++ afterFirst rest
    | .unnamed :: rest => ".?" ++ afterFirst rest

/-- What is wrong, and where in the text, in words. -/
def Problem.message (problem : Problem) : String :=
  problem.toFault.message ++ " at line " ++ toString problem.position.line ++ " column "
    ++ toString problem.position.column

/-- With what something is wrong, and what, in words. Steps that say nothing are left out when all
of them do. -/
def Problem.located (problem : Problem) : String :=
  if problem.path.any Step.isNamed then pathWords problem.path ++ ": " ++ problem.message
  else problem.message

end CloudIde.Json
