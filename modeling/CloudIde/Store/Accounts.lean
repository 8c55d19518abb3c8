import CloudIde.Store.Basic

/-!
# Stored accounts and their members

An account is stored once. A member is stored in an account that exists; adding a member again
replaces the roles. The members of an account come in the order of their users' ids, the memberships
of a user in the order of the accounts' ids.

The roles of a user in an account are read from all memberships of the user, so one of them that
cannot be read spoils the others.
-/

namespace CloudIde.Store

/-- The columns of `accounts`. -/
def accountColumns : List String := ["id", "name"]

/-- The columns of `account_members`. -/
def memberColumns : List String := ["account_id", "user_id", "roles"]

/-- Refuses a statement that writes or removes references of `child` to accounts when these have no
key to refer to. A table that was found has no references. -/
def relating {ρ : Type} [Row ρ] (s : Store) (child : Table ρ) : Except Failure Unit :=
  if child.layout = .made ∧ s.accounts.layout ≠ .made then
    .error (.database (.foreignKeyMismatch (Row.table ρ) (Row.table AccountRow)))
  else .ok ()

/-- Refuses a row of `child` that refers to an account which is not there. -/
def referring {ρ : Type} [Row ρ] (s : Store) (child : Table ρ) (account : Cell) :
    Except Failure Unit :=
  if child.layout = .made && !s.accounts.hasKey [account] then .error (.database .foreignKey)
  else .ok ()

/-- Stores a new account. -/
def createAccount (s : Store) (a : Account) : Except Failure Store := do
  s.accounts.filling accountColumns
  match s.accounts.insert? (.ofAccount a) with
  | some accounts => .ok { s with accounts }
  | none => .error (.accountExists a.id)

/-- The account with an id. -/
def account (s : Store) (id : String) : Except Failure Account := do
  s.accounts.naming accountColumns
  match s.accounts.find? [.text id] with
  | some row => row.account.mapError .database
  | none => .error (.accountNotFound id)

/-- Stores a membership, in the place of an earlier one. -/
def addMember (s : Store) (m : Member) : Except Failure Store := do
  let _ ← s.account m.account
  s.members.filling memberColumns
  s.relating s.members
  s.referring s.members (.text m.account)
  .ok { s with members := s.members.put (.ofMember m) }

/-- The members of an account. -/
def membersOf (s : Store) (account : String) : Except Failure (List Member) := do
  s.members.naming memberColumns
  readAll MemberRow.read
    (s.members.select (fun row => row.account = .text account) fun row => [row.user])

/-- The memberships of a user. -/
def memberships (s : Store) (user : String) : Except Failure (List Member) := do
  s.members.naming memberColumns
  readAll MemberRow.read
    (s.members.select (fun row => row.user = .text user) fun row => [row.account])

/-- The roles of a user in an account; a user who is no member has none. -/
def accountRoles (s : Store) (account user : String) : Except Failure RoleSet := do
  let all ← s.memberships user
  match all.find? fun m => m.account = account with
  | some m => .ok (RoleSet.ofList m.roles)
  | none => .ok RoleSet.empty

end CloudIde.Store
