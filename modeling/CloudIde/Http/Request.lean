import CloudIde.Caller
import CloudIde.Text.Pieces

/-!
# Requests

A request names a method and a target. The path of the target reaches up to the question mark, the
query from there to the number sign; what follows is not sent. A scheme and a host may stand in
front of the path; they do not matter.
-/

namespace CloudIde.Http

/-- The methods that resources know. -/
inductive Method where
  | get
  | post
  | put
  | delete
  deriving DecidableEq, Repr

/-- The name of a method. -/
def Method.text : Method → String
  | get => "GET"
  | post => "POST"
  | put => "PUT"
  | delete => "DELETE"

/-- The method with a name. -/
def Method.ofText? (text : String) : Option Method :=
  [get, post, put, delete].find? fun method => method.text = text

/-- A request. -/
structure Request where
  method : String
  /-- The path, percent-encoded. -/
  path : String
  /-- The query, form-encoded. -/
  query : Option String
  headers : Headers
  body : Bytes

/-- Whether a character may stand in a scheme. -/
def isInScheme (c : Char) : Bool := c.isAlphanum || c = '+' || c = '-' || c = '.'

/-- Whether a character ends a host. -/
def endsHost (c : Char) : Bool := c = '/' || c = '?' || c = '#'

/-- What follows the scheme and the host of a target, when it begins with them. -/
def afterHost? (target : List Char) : Option (List Char) :=
  (stripFront? "://".toList (target.dropWhile isInScheme)).map fun rest =>
    rest.dropWhile fun c => !endsHost c

/-- The path and the query of a target. The path behind a host is a slash at least; a target that
names neither a path nor a scheme has no path. -/
def splitTarget (target : String) : String × Option String :=
  let parts (text : List Char) : List Char × Option (List Char) := cut '?' (cut '#' text).1
  let (path, query) := match target.toList with
    | '/' :: _ => parts target.toList
    | text => match afterHost? text with
      | none => ([], none)
      | some rest =>
        let (path, query) := parts rest
        (if path.isEmpty then ['/'] else path, query)
  (String.ofList path, query.map String.ofList)

/-- A request to a target. -/
def Request.ofTarget (method target : String) (headers : Headers) (body : Bytes) : Request :=
  let (path, query) := splitTarget target
  ⟨method, path, query, headers, body⟩

end CloudIde.Http
