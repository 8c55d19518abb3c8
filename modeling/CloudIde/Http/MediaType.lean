import CloudIde.Caller
import CloudIde.Text.Pieces

/-!
# Media types

A media type is a type and a subtype with a slash between them, then parameters behind semicolons.
Names are tokens and are compared without regard to case. The subtype may end in a suffix behind a
plus sign, as in `problem+json`. The value of a parameter is a token or stands in quotes; blanks may
follow a semicolon, or precede one behind quotes.
-/

namespace CloudIde

/-- A media type. All parts are in lower case but the values of parameters. -/
structure MediaType where
  type : String
  /-- The subtype without its suffix. -/
  subtype : String
  suffix : Option String
  parameters : List (String × String)
  deriving DecidableEq, Repr

namespace MediaType

/-- The characters of tokens. -/
def isToken (c : Char) : Bool :=
  c.isAlphanum
    || c ∈ ['!', '#', '$', '%', '&', '\'', '*', '+', '-', '.', '^', '_', '\x60', '|', '~']

/-- The characters that may stand between quotes. -/
def isQuotable (c : Char) : Bool := c.toNat > 31 && c.toNat ≠ 127

/-- Whether a list of characters is a token. -/
def isName (cs : List Char) : Bool := !cs.isEmpty && cs.all isToken

/-- A name in lower case. -/
def lower (cs : List Char) : String := lowerName (String.ofList cs)

/-- What stands between quotes, and what follows the closing one. At least one character stands
between them, and the first may itself be a quote. -/
def quotedValue : List Char → Option (List Char × List Char)
  | [] => none
  | first :: rest =>
    if isQuotable first then
      match cut '"' rest with
      | (others, some after) =>
        if others.all isQuotable then some (first :: others, after) else none
      | (_, none) => none
    else none

/-- The parameters that follow a semicolon. The fuel is a bound on the number of characters. -/
def parametersFrom : (fuel : Nat) → List Char → Option (List (String × String))
  | 0, _ => some []
  | fuel + 1, input =>
    match input.dropWhile (· = ' ') with
    | [] => some []
    | start =>
      match cut '=' start with
      | (_, none) => none
      | (name, some value) =>
        if !isName name then none
        else match value with
          | '"' :: quoted => do
            let (text, after) ← quotedValue quoted
            let others ← match after.dropWhile (· = ' ') with
              | [] => some []
              | c :: rest => if c = ';' then parametersFrom fuel rest else none
            some ((lower name, String.ofList text) :: others)
          | _ =>
            match cut ';' value with
            | (text, none) =>
              if text.all isToken then some [(lower name, String.ofList text)] else none
            | (text, some rest) =>
              if isName text then do
                some ((lower name, String.ofList text) :: (← parametersFrom fuel rest))
              else none

/-- A subtype and its suffix, which stands behind the last plus sign unless that is its first
character. -/
def splitSuffix (subtype : List Char) : List Char × Option (List Char) :=
  match subtype with
  | [] => ([], none)
  | first :: rest =>
    match cut '+' rest.reverse with
    | (_, none) => (subtype, none)
    | (suffix, some before) => (first :: before.reverse, some suffix.reverse)

/-- The media type that a text writes. -/
def ofText? (text : String) : Option MediaType :=
  match cut '/' text.toList with
  | (_, none) => none
  | (type, some rest) =>
    let (subtype, tail) := cut ';' rest
    let parameters : Option (List (String × String)) := match tail with
      | none => some []
      | some tail => if subtype.isEmpty then none else parametersFrom (tail.length + 1) tail
    if isName type && subtype.all isToken then
      parameters.map fun parameters =>
        let (subtype, suffix) := splitSuffix subtype
        ⟨lower type, lower subtype, suffix.map lower, parameters⟩
    else none

/-- Whether the media type is one of JSON texts. -/
def isJson (m : MediaType) : Bool :=
  m.type = "application" && (m.subtype = "json" || m.suffix = some "json")

end MediaType

end CloudIde
