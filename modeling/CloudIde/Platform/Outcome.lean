import CloudIde.Identifier
import CloudIde.Store.Subscriptions
import CloudIde.Store.Commands
import CloudIde.Store.Plans
import CloudIde.Store.Workspaces
import CloudIde.Subscription.Service

/-!
# Operations and what comes of them

An operation is asked for by a caller, reads the store and may change it. Its `Outcome` is an answer
or a failure, the store it leaves, and the calls of services on the way. Everything else that an
operation depends on is its `Context`.
-/

namespace CloudIde

/-- What an operation depends on besides its caller and the store. -/
structure Context where
  /-- What the URLs in links begin with. -/
  baseUrl : String
  registry : Registry
  now : Instant
  /-- The random digits for the id of a new thing. -/
  digits : HexDigits

/-- The id of a new thing of some kind. -/
def Context.newId (ctx : Context) (kind : String) : String :=
  Identifier.ofDigits kind Identifier.size ctx.digits

/-- What comes of an operation. -/
structure Outcome (α : Type) where
  answer : Except Failure α
  store : Store
  calls : List ServiceCall

namespace Outcome

/-- An answer that changes nothing. -/
def reading {α : Type} (s : Store) (answer : Except Failure α) : Outcome α := ⟨answer, s, []⟩

/-- A failure that changes nothing. -/
def refused {α : Type} (s : Store) (f : Failure) : Outcome α := ⟨.error f, s, []⟩

/-- An answer together with the store that one write leaves; a write that fails changes nothing. -/
def writing {α : Type} (s : Store) (written : Except Failure (Store × α)) : Outcome α :=
  match written with
  | .ok (t, a) => ⟨.ok a, t, []⟩
  | .error f => refused s f

end Outcome

/-- Refuses the first role that is not known, and no roles at all. -/
def checkRoles (known : List String) (unknown : String → Failure) (roles : List String) :
    Except Failure Unit :=
  if roles.isEmpty then .error (.partRequired "Member roles")
  else match roles.find? fun role => role ∉ known with
    | some role => .error (unknown role)
    | none => .ok ()

end CloudIde
