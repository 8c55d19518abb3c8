import CloudIde.Json.Lexeme

/-!
# Values that nobody wants

The value of an unknown field is skipped: it must have the form of a JSON value, of any depth. The
brackets that are still open are kept in a list, innermost first, in the place of recursion.
-/

namespace CloudIde.Json

open Lexeme

/-- An open bracket. -/
inductive Bracket where
  | list
  | object
  deriving DecidableEq, Repr

/-- What comes next inside the open brackets. -/
inductive SkipState where
  /-- A value. -/
  | value
  /-- The end of the innermost bracket, or another item of it: after a comma when there was an item
  before. -/
  | next (afterItem : Bool)
  deriving DecidableEq, Repr

/-- Skips a value without brackets, which begins with `b`. -/
def skipScalar (b : UInt8) (rest : Bytes) : Except Stop Bytes :=
  if b = 'n'.toUInt8 then word nullTail rest
  else if b = 't'.toUInt8 then word trueTail rest
  else if b = 'f'.toUInt8 then word falseTail rest
  else if b = '-'.toUInt8 then skipNumber rest
  else if (digit? b).isSome then skipNumber (b :: rest)
  else if b = '"'.toUInt8 then skipText rest
  else fail .valueExpected rest

/-- Skips the key of an item and the colon after it; items of lists have none. -/
def skipKey (bracket : Bracket) (input : Bytes) : Except Stop Bytes :=
  match bracket with
  | .list => .ok input
  | .object =>
    match skipSpace input with
    | [] => fail .endInObject []
    | b :: rest => do
      if b ≠ '"'.toUInt8 then fail .keyNotText rest
      let rest ← skipText rest
      match skipSpace rest with
      | [] => fail .endInObject []
      | c :: rest => if c = ':'.toUInt8 then .ok rest else fail .colonExpected rest

/-- The problem of a text that ends inside a bracket. -/
def Bracket.endInside : Bracket → Cause
  | .list => .endInList
  | .object => .endInObject

/-- The problem of an item that does not follow a comma. -/
def Bracket.commaExpected : Bracket → Cause
  | .list => .listCommaExpected
  | .object => .objectCommaExpected

/-- The byte that closes a bracket. -/
def Bracket.closing : Bracket → UInt8
  | .list => ']'.toUInt8
  | .object => '\x7d'.toUInt8

/-- Skips the rest of a value inside the open brackets. Two steps at most are taken for each byte,
which `fuel` bounds. -/
def skipFrom (fuel : Nat) (state : SkipState) (open_ : List Bracket) (input : Bytes) :
    Except Stop Bytes :=
  match fuel with
  | 0 => fail .valueExpected input
  | fuel + 1 =>
    match state, open_ with
    | .value, _ =>
      match skipSpace input with
      | [] => fail .endInValue []
      | b :: rest =>
        if b = '['.toUInt8 then skipFrom fuel (.next false) (.list :: open_) rest
        else if b = '\x7b'.toUInt8 then skipFrom fuel (.next false) (.object :: open_) rest
        else do skipFrom fuel (.next true) open_ (← skipScalar b rest)
    | .next _, [] => .ok input
    | .next afterItem, bracket :: outer =>
      match skipSpace input with
      | [] => fail bracket.endInside []
      | b :: rest =>
        if afterItem && b = ','.toUInt8 then do
          skipFrom fuel .value open_ (← skipKey bracket rest)
        else if b = bracket.closing then skipFrom fuel (.next true) outer rest
        else if afterItem then fail bracket.commaExpected rest
        else do skipFrom fuel .value open_ (← skipKey bracket (b :: rest))

/-- Skips a value. -/
def skipValue (input : Bytes) : Except Stop Bytes :=
  skipFrom (2 * input.length + 3) .value [] input

end CloudIde.Json
