import CloudIde.Http.Percent
import CloudIde.Http.Request

/-!
# Resources

A path leads to a resource. Fixed segments are compared as they are written and win over parameters.
A parameter may be any segment, but at the end of a path not an empty one; it is kept as it is
written.
-/

namespace CloudIde.Http

/-- What a path leads to. -/
inductive Resource where
  | health
  | accounts
  | plans
  | plan (id : String)
  | subscriptions
  | subscription (id : String)
  | account (id : String)
  | members (account : String)
  | accountSubscriptions (account : String)
  | resources (account : String)
  | commands
  | command (id : String)
  | workspaceCommands (workspace : String)
  | workspaceMembers (workspace : String)
  deriving DecidableEq, Repr

namespace Resource

/-- The resource of a parameter at the end of a path. -/
def named (of : String → Resource) (id : String) : Option Resource :=
  if id.isEmpty then none else some (of id)

/-- The resource that some segments lead to. -/
def ofSegments? : List String → Option Resource
  | ["health"] => some health
  | ["account"] => some accounts
  | ["account", "plans"] => some plans
  | ["account", "plans", id] => named plan id
  | ["account", "subscriptions"] => some subscriptions
  | ["account", "subscriptions", id] => named subscription id
  | ["account", id] => named account id
  | ["account", id, "members"] => some (members id)
  | ["account", id, "subscriptions"] => some (accountSubscriptions id)
  | ["account", id, "resources"] => some (resources id)
  | ["command"] => some commands
  | ["command", id] => named command id
  | ["command", id, "all"] => some (workspaceCommands id)
  | ["workspace", id, "members"] => some (workspaceMembers id)
  | _ => none

/-- The resource that a path leads to. -/
def ofPath? (path : String) : Option Resource :=
  match (pieces '/' path.toList).map String.ofList with
  | "" :: "api" :: segments => ofSegments? segments
  | _ => none

/-- The methods of a resource. -/
def methods : Resource → List Method
  | health | plan _ | account _ | accountSubscriptions _ | resources _ | workspaceCommands _ =>
    [.get]
  | accounts | subscriptions => [.post]
  | plans | members _ | workspaceMembers _ => [.get, .post]
  | subscription _ => [.get, .delete]
  | commands => [.put]
  | command _ => [.get, .post, .delete]

/-- The methods of a resource as they are listed for a client: what can be got can be asked for
without its content. -/
def allowed (resource : Resource) : String :=
  ",".intercalate (resource.methods.map fun method =>
    if method = .get then "GET,HEAD" else method.text)

end Resource

end CloudIde.Http
