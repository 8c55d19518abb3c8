import CloudIde.Failure
import CloudIde.Role
import CloudIde.Text.Blank
import CloudIde.Text.Case

/-!
# Callers

A caller is the user who sends a request, with the global roles that came with it. Callers are known
from two request headers: the first value of one names the user, the first value of the other lists
the roles with commas between them. A value counts only when it is made of visible ASCII characters,
spaces and tabs. Without a user there is no caller; without roles there is a caller without roles.
-/

namespace CloudIde

/-- The sender of a request. -/
structure Caller where
  /-- The user's id. -/
  user : String
  /-- The global roles. -/
  roles : RoleSet
  deriving DecidableEq

/-- Request headers: names, which are compared without regard to case, with their values. -/
abbrev Headers := List (String × Bytes)

namespace Headers

/-- The first value of a header. -/
def first? (headers : Headers) (name : String) : Option Bytes :=
  (headers.find? fun header => lowerName header.1 = lowerName name).map (·.2)

/-- The bytes that may stand in a value that is read as text. -/
def isVisible (b : UInt8) : Bool := b = 0x09 || (0x20 ≤ b && b ≤ 0x7E)

/-- A value as text, when all its bytes are visible. -/
def visibleText? (value : Bytes) : Option String :=
  if value.all isVisible then some (String.ofList (value.map fun b => Char.ofNat b.toNat))
  else none

/-- The first value of a header as text, when it can be read as text. -/
def text? (headers : Headers) (name : String) : Option String :=
  (headers.first? name).bind visibleText?

end Headers

namespace Caller

/-- The header that names the user. -/
def userHeader : String := "x-user-id"

/-- The header that lists the user's global roles. -/
def rolesHeader : String := "x-user-roles"

/-- The caller that the headers of a request name. -/
def ofHeaders (headers : Headers) : Except Failure Caller :=
  match (headers.text? userHeader).map trim with
  | none => .error .missingIdentity
  | some user =>
    if user.isEmpty then .error .missingIdentity
    else
      let roles := ((headers.text? rolesHeader).map commaList).getD []
      .ok ⟨user, RoleSet.ofList roles⟩

/-- Whether the caller holds a global role. -/
def hasRole (caller : Caller) (role : String) : Bool := role ∈ caller.roles

/-- Whether the caller is an administrator or a manager of the platform. -/
def isPrivileged (caller : Caller) : Bool :=
  caller.hasRole Role.systemAdmin || caller.hasRole Role.systemManager

/-- Whether the caller holds one of the allowed roles, everywhere or among the scoped ones. -/
def holdsAny (caller : Caller) (there : RoleSet) (allowed : List String) : Bool :=
  allowed.any fun role => caller.hasRole role || role ∈ there

/-- Refuses a caller who holds none of the allowed roles, neither everywhere nor among the scoped
ones. -/
def requireScoped (caller : Caller) (there : RoleSet) (allowed : List String) :
    Except Failure Unit :=
  if caller.holdsAny there allowed then .ok () else .error .accessDenied

/-- Refuses a caller who holds none of the allowed roles everywhere. -/
def require (caller : Caller) (allowed : List String) : Except Failure Unit :=
  caller.requireScoped RoleSet.empty allowed

end Caller

end CloudIde
