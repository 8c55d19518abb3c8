import CloudIde.Failure
import CloudIde.Http.Percent
import CloudIde.Text.Case
import CloudIde.Text.Pieces

/-!
# File URIs

A path that begins with `file:` is a URI. Behind the colon an authority may stand, which has to be
empty or `localhost`; then comes the path, and behind a question mark come parameters. A number sign
ends the URI. Path, names and values are percent-decoded, each up to the first NUL that it holds.

The parameters `mode`, `cache` and `vfs` change how the file is opened, `immutable` says that nobody
changes it. Other parameters mean nothing.
-/

namespace CloudIde

/-- How a file is opened. -/
inductive FileMode where
  /-- For reading. -/
  | read
  /-- For reading and writing. -/
  | write
  /-- For reading and writing, and made when it is missing. -/
  | create
  deriving DecidableEq, Repr

/-- Each mode allows what those before it allow. -/
def FileMode.rank : FileMode → Nat
  | read => 1
  | write => 2
  | create => 3

/-- What is opened, and how. -/
structure FileAccess where
  path : Bytes
  mode : FileMode
  inMemory : Bool
  /-- Whether the file is taken for one that nobody changes. -/
  immutable : Bool
  /-- The system of files to use. -/
  files : Option Bytes
  deriving DecidableEq, Repr

/-- What is wrong with a URI. -/
inductive UriFault where
  | invalidAuthority (authority : String)
  /-- A parameter cannot have this value. -/
  | noSuchMode (kind value : String)
  /-- The file may not be opened in this mode. -/
  | modeNotAllowed (value : String)
  /-- There is no such system of files. -/
  | noSuchFiles (name : String)
  deriving DecidableEq, Repr

/-- What is wrong with a URI, in words. -/
def UriFault.message : UriFault → String
  | invalidAuthority authority => refusal 1 ("invalid uri authority: " ++ authority)
  | noSuchMode kind value => refusal 1 ("no such " ++ kind ++ " mode: " ++ value)
  | modeNotAllowed value => refusal 3 ("access mode not allowed: " ++ value)
  | noSuchFiles name => refusal 1 ("no such vfs: " ++ name)

namespace FileUri

/-- What URIs begin with. -/
def scheme : Bytes := Bytes.ofText "file:"

/-- The bytes up to the first NUL. -/
def untilNul (bytes : Bytes) : Bytes := bytes.takeWhile (· ≠ 0)

/-- A part of a URI as it is meant. -/
def part (bytes : Bytes) : Bytes := untilNul (Percent.decode bytes)

/-- The authority of what stands behind the scheme, if there is one, and the rest. -/
def authority (rest : Bytes) : Option Bytes × Bytes :=
  match rest with
  | a :: b :: rest =>
    if a = '/'.toUInt8 ∧ b = '/'.toUInt8 then
      (some (rest.takeWhile (· ≠ '/'.toUInt8)), rest.dropWhile (· ≠ '/'.toUInt8))
    else (none, a :: b :: rest)
  | rest => (none, rest)

/-- The parameters behind the question mark. Those without a name do not count. -/
def parameters (query : Bytes) : List (Bytes × Bytes) :=
  let all := (pieces '&'.toUInt8 query).map fun piece =>
    let (name, value) := cut '='.toUInt8 piece
    (part name, part (value.getD []))
  all.filter fun parameter => !parameter.1.isEmpty

/-- Opens for less or as much as before, or in memory. -/
def withMode (access : FileAccess) (value : Bytes) : Except UriFault FileAccess :=
  let within (mode : FileMode) : Except UriFault FileAccess :=
    if access.inMemory || mode.rank ≤ access.mode.rank then
      .ok { access with mode, inMemory := false }
    else .error (.modeNotAllowed (Utf8.lossy value))
  match Utf8.lossy value with
  | "ro" => within .read
  | "rw" => within .write
  | "rwc" => within .create
  | "memory" => .ok { access with mode := .create, inMemory := true }
  | other => .error (.noSuchMode "access" other)

/-- What is opened with one parameter more. -/
def withParameter (access : FileAccess) (parameter : Bytes × Bytes) : Except UriFault FileAccess :=
  match Utf8.lossy parameter.1, parameter.2 with
  | "vfs", value => .ok { access with files := some value }
  | "mode", value => withMode access value
  | "cache", value =>
    if Utf8.lossy value ∈ ["shared", "private"] then .ok access
    else .error (.noSuchMode "cache" (Utf8.lossy value))
  | _, _ => .ok access

/-- The truth value that a text stands for: a number that is not zero, or a word. -/
def truth? (text : String) : Option Bool :=
  let digits := text.toList.takeWhile Char.isDigit
  if digits ≠ [] then some (digits.any (· ≠ '0'))
  else if lowerName text ∈ ["on", "yes", "true"] then some true
  else if lowerName text ∈ ["no", "off", "false"] then some false
  else none

/-- Whether parameters say that nobody changes the file. The first one counts. -/
def saysImmutable (parameters : List (Bytes × Bytes)) : Bool :=
  ((parameters.find? fun p => p.1 = Bytes.ofText "immutable").bind fun p =>
    truth? (Utf8.lossy p.2)).getD false

/-- What a path means when it is a URI; any other path means itself. -/
def read (access : FileAccess) : Except UriFault FileAccess :=
  if !scheme.isPrefixOf access.path then .ok access
  else
    let (host, rest) := authority (access.path.drop scheme.length)
    match host with
    | some host =>
      if host = [] ∨ host = Bytes.ofText "localhost" then readBehind access rest
      else .error (.invalidAuthority (Utf8.lossy host))
    | none => readBehind access rest
where
  /-- Reads what stands behind the authority. -/
  readBehind (access : FileAccess) (rest : Bytes) : Except UriFault FileAccess :=
    let (path, query) := cut '?'.toUInt8 (cut '#'.toUInt8 rest).1
    let parameters := parameters (query.getD [])
    parameters.foldlM withParameter
      { access with path := part path, immutable := saysImmutable parameters }

end FileUri

end CloudIde
