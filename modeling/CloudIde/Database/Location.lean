import CloudIde.Database.FileUri
import CloudIde.Files.Tree
import CloudIde.Http.Form
import CloudIde.Text.Quoted

/-!
# Where a database is

A location is a path, in front of which `sqlite:` or `sqlite://` may stand, and behind which
parameters may follow a question mark. It is read twice, by two rules:

* `Location.directory?` gives the directory to make. It takes the path as it is written: the scheme
  is taken off once, and parameters and percent signs are not looked at. A path that begins with
  `:memory:` needs no directory.
* `Target.ofLocation` gives what is opened. It puts a scheme in front when none stands there, takes
  the scheme off as often as it stands there, cuts the parameters off, and percent-decodes the path.
  A path that begins with `file:` is a URI, which `Target.access` reads.
-/

namespace CloudIde

/-- What is wrong with a location. -/
inductive LocationFault where
  /-- The decoded path is no text. -/
  | pathNotText (fault : Utf8.Fault)
  /-- A parameter cannot have this value. -/
  | unknownValue (value parameter : String)
  /-- There is no such parameter. -/
  | unknownParameter (parameter : String)
  deriving DecidableEq

/-- What is wrong with a location, in words. -/
def LocationFault.message : LocationFault → String
  | pathNotText fault => "error with configuration: " ++ fault.message
  | unknownValue value parameter =>
    "error with configuration: unknown value " ++ quoted value ++ " for \x60" ++ parameter ++ "\x60"
  | unknownParameter parameter =>
    "error with configuration: unknown query parameter \x60" ++ parameter
      ++ "\x60 while parsing connection URL"

/-- What follows some characters, however often they stand in front. -/
def stripAll (front : List Char) (text : List Char) : List Char :=
  if h : front ≠ [] ∧ front.isPrefixOf text then
    have : (text.drop front.length).length < text.length := by
      have := (List.isPrefixOf_iff_prefix.1 h.2).length_le
      have := List.length_pos_iff.2 h.1
      simp only [List.length_drop]
      omega
    stripAll front (text.drop front.length)
  else text
termination_by text.length
decreasing_by assumption

/-- Whether a piece of a path leads nowhere. -/
def FilePath.isIdle (piece : List Char) : Bool := piece = [] || piece = ['.']

/-- The path that some characters write. Names are what stands between slashes; empty names and
single points lead nowhere. -/
def FilePath.ofChars (text : List Char) : FilePath where
  fromRoot := text.head? = some '/'
  names := ((pieces '/' text).filter fun piece => !isIdle piece).map String.ofList
  size := (String.ofList text).utf8ByteSize

/-- The characters that write the directory of what a path leads to. -/
def FilePath.directoryChars (text : List Char) : List Char :=
  let above := ((pieces '/' text).reverse.dropWhile isIdle).drop 1
  List.intercalate ['/'] (above.dropWhile isIdle).reverse

namespace Location

/-- The scheme of locations. -/
def scheme : List Char := "sqlite:".toList

/-- What a path begins with that is not one of a file. -/
def memory : List Char := ":memory:".toList

/-- The path of a location as it is written. -/
def written (location : String) : List Char :=
  let text := (stripFront? scheme location.toList).getD location.toList
  (stripFront? ['/', '/'] text).getD text

/-- The location with its scheme in front. -/
def withScheme (location : String) : List Char :=
  if scheme.isPrefixOf location.toList then location.toList else scheme ++ location.toList

/-- Whether the location is one in memory, by its written path. -/
def inMemory (location : String) : Bool := memory.isPrefixOf (written location)

/-- The directory to make for a location, if it needs one. -/
def directory? (location : String) : Option FilePath :=
  if inMemory location then none
  else
    let above := FilePath.ofChars (FilePath.directoryChars (written location))
    some { above with fromRoot := (written location).head? = some '/' }

end Location

/-- What a location means. -/
structure Target where
  /-- The decoded path. -/
  path : String
  inMemory : Bool
  readOnly : Bool
  /-- Whether the file is taken for one that nobody changes. -/
  immutable : Bool
  /-- The system of files to use. -/
  files : Option String
  deriving DecidableEq, Repr

namespace Target

/-- The target with one parameter more. -/
def withParameter (target : Target) : String × String → Except LocationFault Target
  | ("mode", value) => match value with
    | "ro" => .ok { target with readOnly := true }
    | "rw" | "rwc" => .ok target
    | "memory" => .ok { target with inMemory := true }
    | _ => .error (.unknownValue value "mode")
  | ("cache", value) =>
    if value = "private" || value = "shared" then .ok target
    else .error (.unknownValue value "cache")
  | ("immutable", value) =>
    if value = "true" || value = "1" then .ok { target with immutable := true }
    else if value = "false" || value = "0" then .ok { target with immutable := false }
    else .error (.unknownValue value "immutable")
  | ("vfs", value) => .ok { target with files := some value }
  | (parameter, _) => .error (.unknownParameter parameter)

/-- What a decoded path means, before parameters. -/
def ofPath (path : List Char) : Except LocationFault Target :=
  if path = Location.memory then .ok ⟨"", true, false, false, none⟩
  else match Utf8.decode (Percent.decode (Bytes.ofText (String.ofList path))) with
    | .ok path => .ok ⟨path, false, false, false, none⟩
    | .error fault => .error (.pathNotText fault)

/-- What a location means. -/
def ofLocation (location : String) : Except LocationFault Target := do
  let bare := stripAll Location.scheme
    (stripAll (Location.scheme ++ ['/', '/']) (Location.withScheme location))
  let (path, parameters) := cut '?' bare
  let target ← ofPath path
  (Form.fields (Bytes.ofText (String.ofList (parameters.getD [])))).foldlM withParameter target

/-- Whether the path and the parameters are handed on as a URI. -/
def isUri (target : Target) : Bool := target.immutable || target.files.isSome

/-- What is opened for a target, before a path that is a URI is read. Where the target itself is
handed on as a URI, its path is a path and nothing else. -/
def plain (target : Target) : FileAccess where
  path := Bytes.ofText target.path
  mode := if target.readOnly then .read else .create
  inMemory := target.inMemory
  immutable := false
  files := none

/-- What is opened for a target. -/
def access (target : Target) : Except UriFault FileAccess :=
  if target.isUri then
    .ok { target.plain with
          path := FileUri.untilNul (Bytes.ofText target.path)
          immutable := target.immutable
          files := target.files.map fun name => FileUri.untilNul (Bytes.ofText (String.ofList
            (name.toList.map fun c => if c = ' ' then '+' else c))) }
  else FileUri.read target.plain

end Target

end CloudIde
