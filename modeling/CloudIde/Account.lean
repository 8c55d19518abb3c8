import CloudIde.Json.Wire

/-!
# Accounts and memberships

An account subscribes to services. Its members are users with roles in the account.
-/

namespace CloudIde

/-- An account. -/
structure Account where
  id : String
  name : String
  deriving DecidableEq, Repr

instance : Wire Account where
  shape := .record "Account"
    (.cons "id" .required (.leaf .text) (.cons "name" .required (.leaf .text) .nil))
  toVal a := (a.id, a.name, ())
  ofVal := fun (id, name, ()) => ⟨id, name⟩

/-- A request for an account. -/
structure NewAccount where
  name : String
  deriving DecidableEq, Repr

instance : Wire NewAccount where
  shape := .record "CreateAccountRequest" (.cons "name" .required (.leaf .text) .nil)
  toVal a := (a.name, ())
  ofVal := fun (name, ()) => ⟨name⟩

/-- The membership of a user in an account. -/
structure Member where
  account : String
  user : String
  /-- The roles, in the order in which they were given. -/
  roles : List String
  deriving DecidableEq, Repr

instance : Wire Member where
  shape := .record "Member"
    (.cons "accountId" .required (.leaf .text)
    (.cons "userId" .required (.leaf .text)
    (.cons "roles" .required (.list (.leaf .text)) .nil)))
  toVal m := (m.account, m.user, m.roles, ())
  ofVal := fun (account, user, roles, ()) => ⟨account, user, roles⟩

/-- A request for a membership in an account. -/
structure NewMember where
  user : String
  roles : List String
  deriving DecidableEq, Repr

instance : Wire NewMember where
  shape := .record "AddMemberRequest"
    (.cons "userId" .required (.leaf .text)
    (.cons "roles" .required (.list (.leaf .text)) .nil))
  toVal m := (m.user, m.roles, ())
  ofVal := fun (user, roles, ()) => ⟨user, roles⟩

/-- The membership of a user in a workspace. -/
structure WorkspaceMember where
  workspace : String
  user : String
  /-- The roles, in the order in which they were given. -/
  roles : List String
  deriving DecidableEq, Repr

instance : Wire WorkspaceMember where
  shape := .record "WorkspaceMember"
    (.cons "workspaceId" .required (.leaf .text)
    (.cons "userId" .required (.leaf .text)
    (.cons "roles" .required (.list (.leaf .text)) .nil)))
  toVal m := (m.workspace, m.user, m.roles, ())
  ofVal := fun (workspace, user, roles, ()) => ⟨workspace, user, roles⟩

/-- A request for a membership in a workspace. -/
structure NewWorkspaceMember where
  user : String
  roles : List String
  deriving DecidableEq, Repr

instance : Wire NewWorkspaceMember where
  shape := .record "AddWorkspaceMemberRequest"
    (.cons "userId" .required (.leaf .text)
    (.cons "roles" .required (.list (.leaf .text)) .nil))
  toVal m := (m.user, m.roles, ())
  ofVal := fun (user, roles, ()) => ⟨user, roles⟩

end CloudIde
