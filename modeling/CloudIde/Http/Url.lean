import CloudIde.Http.Form
import CloudIde.Number.Digits
import CloudIde.Server.Address
import CloudIde.Text.Blank
import CloudIde.Text.Case

/-!
# URLs

A URL is read by these rules. White space and controls around it are dropped, and tabs and line ends
everywhere. The scheme is `http` or `https`, in letters of any case, with a colon behind it. After
it and any number of slashes comes the host with perhaps a user before it and a port behind it; then
the path, up to a question mark or number sign; then the query, up to a number sign; what follows is
dropped. A backslash before the query is a slash. A segment of one point says nothing and one of two
points takes the segment before it back, also when points are percent-encoded; at the end both leave
an empty segment. Characters that cannot stand in a path or a query are percent-encoded; what is
percent-encoded stays so.

What is a host is a matter of its own: names in any script, percent-encoded or not, addresses in
brackets, addresses as one number or four, in three bases. So the reading of hosts is a parameter
here, and what is said of URLs is said for every reading. `Url.plainHost?` reads the plainest hosts.
-/

namespace CloudIde

/-- Whom a URL is for. -/
structure Url.Authority where
  /-- What is written before an at sign, when there is one. -/
  user : Option String
  host : String
  /-- The port, when one is written. -/
  port : Option Nat
  deriving DecidableEq, Repr

/-- A URL. -/
structure Url extends Url.Authority where
  scheme : String
  /-- The segments of the path, percent-encoded; at least one. -/
  path : List String
  /-- The query, percent-encoded. -/
  query : Option String
  deriving DecidableEq, Repr

namespace Url

/-- Whether a byte is a control, or no ASCII character. -/
def isControl (b : UInt8) : Bool := b < 0x20 || b > 0x7E

/-- Whether a byte may stand in a path. -/
def keptInPath (b : UInt8) : Bool :=
  !isControl b && Char.ofNat b.toNat ∉ [' ', '"', '#', '<', '>', '?', '\x60', '\x7b', '\x7d']

/-- Whether a byte may stand in a query. -/
def keptInQuery (b : UInt8) : Bool :=
  !isControl b && Char.ofNat b.toNat ∉ [' ', '"', '#', '\'', '<', '>']

/-- A text with the characters that cannot stand somewhere percent-encoded. -/
def encoded (keep : UInt8 → Bool) (text : List Char) : String :=
  Utf8.lossy (Percent.encode keep (Bytes.ofText (String.ofList text)))

/-- A segment with percent-encoded points written out. -/
def withPoints : List Char → List Char
  | '%' :: '2' :: e :: rest =>
    if e = 'e' || e = 'E' then '.' :: withPoints rest else '%' :: withPoints ('2' :: e :: rest)
  | c :: rest => c :: withPoints rest
  | [] => []

/-- The segments of a path with one more, which a slash ends or not. -/
def addSegment (path : List String) (segment : List Char) (slash : Bool) : List String :=
  let points := withPoints segment
  if points = ['.', '.'] then path.dropLast ++ (if slash then [] else [""])
  else if points = ['.'] then path ++ (if slash then [] else [""])
  else path ++ [encoded keptInPath segment]

/-- The segments of a path with some more; slashes end all but the last. -/
def addSegments (path : List String) : List (List Char) → List String
  | [] => path
  | [segment] => addSegment path segment false
  | segment :: next :: rest => addSegments (addSegment path segment true) (next :: rest)

/-- A slash, or a backslash, which is read as one. -/
def isSlash (c : Char) : Bool := c = '/' || c = '\\'

/-- A character that begins the path, the query or the fragment. -/
def endsHost (c : Char) : Bool := isSlash c || c = '?' || c = '#'

/-- A label of a host that stands for itself. One that begins with `xn--` stands for a label in
another script. -/
def isPlainLabel (label : List Char) : Bool :=
  let isPlain (c : Char) : Bool := c.isAlphanum || c = '-' || c = '_'
  !label.isEmpty && label.all isPlain && !"xn--".toList.isPrefixOf (label.map lowerAscii)

/-- The host that a text names, in lower case, if that is one of the plainest: four numbers, or
labels of ASCII of which the last begins with a letter. -/
def plainHost? (text : String) : Option String :=
  let labels := pieces '.' text.toList
  let isAddress := (SocketAddress.ipv4 text.toList).any fun read => read.2.isEmpty
  let isName := labels.all isPlainLabel && (labels.getLast?.bind List.head?).any Char.isAlpha
  if isAddress || isName then some (lowerName text) else none

/-- What is written before the port, and the port when a colon begins one. Colons in brackets are
part of the host. -/
def splitPort : (inBrackets : Bool) → List Char → List Char × Option (List Char)
  | _, [] => ([], none)
  | inBrackets, c :: rest =>
    if c = ':' && !inBrackets then ([], some rest)
    else
      let (host, port) := splitPort (c = '[' || (inBrackets && c ≠ ']')) rest
      (c :: host, port)

/-- The port that characters write: digits up to 65535, or nothing. -/
def port? (digits : List Char) : Option (Option Nat) :=
  if digits.isEmpty then some none
  else (Digits.value? digits).bind fun port => if port ≤ 65535 then some (some port) else none

/-- Whom characters name, for a reading of hosts. What stands before the last at sign is the
user. -/
def authority? (hosts : String → Option String) (text : List Char) : Option Authority :=
  let (site, user) := cut '@' text.reverse
  let (host, port) := splitPort false site.reverse
  if host.isEmpty then none
  else (hosts (String.ofList host)).bind fun host =>
    (port? (port.getD [])).map fun port =>
      ⟨user.map fun user => String.ofList user.reverse, host, port⟩

/-- The path that characters write. -/
def pathOf (text : List Char) : List String :=
  let text := text.map fun c => if c = '\\' then '/' else c
  let text := match text with
    | '/' :: rest => rest
    | text => text
  addSegments [] (pieces '/' text)

/-- Whether a character is dropped at the ends of a URL. -/
def isOuter (c : Char) : Bool := c.toNat ≤ 0x20

/-- Whether a character is dropped everywhere in a URL. -/
def isInner (c : Char) : Bool := c = '\t' || c = '\n' || c = '\r'

/-- The scheme that characters write. -/
def scheme? (text : List Char) : Option String :=
  ["http", "https"].find? (· = lowerName (String.ofList text))

/-- The characters of a text that are read as a URL. -/
def cleaned (text : List Char) : List Char :=
  (trimEndChars isOuter (text.dropWhile isOuter)).filter fun c => !isInner c

/-- The URL that a text writes, for a reading of hosts. -/
def ofText? (text : String) (hosts : String → Option String := plainHost?) : Option Url :=
  let (scheme, rest) := cut ':' (cleaned text.toList)
  let rest := (rest.getD []).dropWhile isSlash
  let site := rest.takeWhile fun c => !endsHost c
  (scheme? scheme).bind fun scheme =>
    (authority? hosts site).map fun authority =>
      let (rest, _) := cut '#' (rest.drop site.length)
      let (path, query) := cut '?' rest
      ⟨authority, scheme, pathOf path, query.map (encoded keptInQuery)⟩

/-- The URL with some more fields in its query. -/
def withFields (url : Url) (fields : List (String × String)) : Url :=
  let more := Utf8.lossy (Form.encode fields)
  let query := match url.query with
    | some query => if query.isEmpty then more else query ++ "&" ++ more
    | none => more
  { url with query := some query }

/-- What a request for the URL names: its path and its query. -/
def target (url : Url) : String :=
  "/" ++ "/".intercalate url.path ++ (url.query.elim "" fun query => "?" ++ query)

end Url

end CloudIde
