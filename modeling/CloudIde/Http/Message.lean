import CloudIde.Http.Response
import CloudIde.Number.Digits
import CloudIde.Text.Blank

/-!
# Messages

A request arrives as rows: the method, the target and the version with blanks between them, then one
header a row, a colon between its name and its value. After an empty row follows the body, whose
length a header gives. A response leaves in the same form.
-/

namespace CloudIde.Http

/-- The row that a message starts with: a method and a target. -/
def startLine? (row : String) : Option (String × String) :=
  match (pieces ' ' (trim row).toList).map String.ofList with
  | [method, target, _] => some (method, target)
  | _ => none

/-- The header that a row holds. -/
def headerLine? (row : String) : Option (String × Bytes) :=
  match cut ':' (trim row).toList with
  | (_, none) => none
  | (name, some value) => some (String.ofList name, Bytes.ofText (trim (String.ofList value)))

/-- The number of bytes that the body of a message has. -/
def bodyLength (headers : Headers) : Nat :=
  ((headers.text? "content-length").bind fun text => Digits.value? text.toList).getD 0

/-- The end of a row. -/
def lineEnd : String := "\r\n"

namespace Response

/-- The headers of a response. -/
def headers (r : Response) : List (String × String) :=
  (r.content.mediaType?.toList.map fun type => ("content-type", type))
    ++ (r.allow.toList.map fun methods => ("allow", methods))
    ++ [("content-length", toString r.content.bytes.length)]

/-- A response as a message. -/
def message (r : Response) : Bytes :=
  let rows := ("HTTP/1.1 " ++ toString r.status ++ " ")
    :: r.headers.map fun header => header.1 ++ ": " ++ header.2
  Bytes.ofText (String.join (rows.map fun row => row ++ lineEnd) ++ lineEnd) ++ r.content.bytes

end Response

end CloudIde.Http
