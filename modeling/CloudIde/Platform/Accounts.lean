import CloudIde.Platform.Outcome

/-!
# Accounts and their members

Anybody known to the platform may make an account and becomes its owner. The members of an account
and privileged callers see it; its owners and privileged callers see its members; its owners and
administrators of the platform add members.
-/

namespace CloudIde.Platform

/-- Makes an account that the caller owns. -/
def createAccount (ctx : Context) (s : Store) (caller : Caller) (new : NewAccount) :
    Outcome Account :=
  match caller.require Role.platform with
  | .error f => .refused s f
  | .ok () =>
    if (trim new.name).isEmpty then .refused s (.partRequired "Account name")
    else
      let a : Account := ⟨ctx.newId "account", new.name⟩
      match s.createAccount a with
      | .error f => .refused s f
      | .ok t => .writing t do
        let t ← t.addMember ⟨a.id, caller.user, [Role.accountOwner]⟩
        .ok (t, a)

/-- Shows an account. -/
def account (s : Store) (caller : Caller) (id : String) : Except Failure Account := do
  let there ← s.accountRoles id caller.user
  caller.requireScoped there
    [Role.accountOwner, Role.accountMember, Role.systemAdmin, Role.systemManager]
  s.account id

/-- Lists the members of an account. -/
def members (s : Store) (caller : Caller) (id : String) : Except Failure (List Member) := do
  let there ← s.accountRoles id caller.user
  caller.requireScoped there [Role.accountOwner, Role.systemAdmin, Role.systemManager]
  let _ ← s.account id
  s.membersOf id

/-- Adds a member to an account. -/
def addMember (s : Store) (caller : Caller) (id : String) (new : NewMember) : Outcome Member :=
  .writing s do
    let there ← s.accountRoles id caller.user
    caller.requireScoped there [Role.accountOwner, Role.systemAdmin]
    let _ ← s.account id
    checkRoles Role.account .unknownAccountRole new.roles
    let m : Member := ⟨id, new.user, new.roles⟩
    .ok (← s.addMember m, m)

end CloudIde.Platform
