import CloudIde.Failure
import CloudIde.Json.Wire
import CloudIde.Text.Blank

/-!
# Bodies that may be absent

A body that is blank or is the word `null` says nothing. Any other body has to be the JSON text of a
value; white space around it does not count.
-/

namespace CloudIde.Body

/-- The value that a body gives, if it gives one. -/
def optional (α : Type) [Wire α] (body : Bytes) : Except Failure (Option α) :=
  match Utf8.decode body with
  | .error fault => .error (.bodyNotText fault)
  | .ok text =>
    let trimmed := trim text
    if trimmed.isEmpty || trimmed = "null" then .ok none
    else match Wire.parseText α trimmed with
      | .ok value => .ok (some value)
      | .error problem => .error (.badBody problem)

/-- A part of a request that has to be there. -/
def required {α : Type} (value : Option α) (part : String) : Except Failure α :=
  match value with
  | some value => .ok value
  | none => .error (.partRequired part)

/-- Whether a text is absent or empty. -/
def isNullOrEmpty (value : Option String) : Bool := value.all String.isEmpty

end CloudIde.Body
