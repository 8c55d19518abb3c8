import CloudIde.Store.Basic

/-!
# Stored members of workspaces

Workspaces themselves are not stored, only who has which roles in them. Adding a member again
replaces the roles. Members come in the order of their users' ids.
-/

namespace CloudIde.Store

/-- The columns of `workspace_members`. -/
def workspaceMemberColumns : List String := ["workspace_id", "user_id", "roles"]

/-- Stores a membership, in the place of an earlier one. -/
def addWorkspaceMember (s : Store) (m : WorkspaceMember) : Except Failure Store := do
  s.workspaceMembers.filling workspaceMemberColumns
  .ok { s with workspaceMembers := s.workspaceMembers.put (.ofMember m) }

/-- The members of a workspace. -/
def workspaceMembersOf (s : Store) (workspace : String) :
    Except Failure (List WorkspaceMember) := do
  s.workspaceMembers.naming workspaceMemberColumns
  readAll WorkspaceMemberRow.read
    (s.workspaceMembers.select (fun row => row.workspace = .text workspace) fun row => [row.user])

/-- The roles of a user in a workspace; a user who is no member has none. -/
def workspaceRoles (s : Store) (workspace user : String) : Except Failure RoleSet := do
  s.workspaceMembers.naming ["roles", "workspace_id", "user_id"]
  match s.workspaceMembers.find? [.text workspace, .text user] with
  | some row => readOne WorkspaceMemberRow.readRoles row
  | none => .ok RoleSet.empty

end CloudIde.Store
