import CloudIde.Command.Descriptor
import CloudIde.Http.Body
import CloudIde.Platform.Outcome

/-!
# The members and the commands of workspaces

Administrators of a workspace or of the platform see and add its members. Administrators and
developers of a workspace make commands in it. The creator of a command changes it; the creator and
privileged callers remove it. A user sees public commands and their own.
-/

namespace CloudIde.Platform

/-- The roles that manage the members of a workspace. -/
def memberManagers : List String := [Role.workspaceAdmin, Role.systemAdmin]

/-- Lists the members of a workspace. -/
def workspaceMembers (s : Store) (caller : Caller) (workspace : String) :
    Except Failure (List WorkspaceMember) := do
  let there ← s.workspaceRoles workspace caller.user
  caller.requireScoped there memberManagers
  s.workspaceMembersOf workspace

/-- Adds a member to a workspace. -/
def addWorkspaceMember (s : Store) (caller : Caller) (workspace : String)
    (new : NewWorkspaceMember) : Outcome WorkspaceMember :=
  .writing s do
    let there ← s.workspaceRoles workspace caller.user
    caller.requireScoped there memberManagers
    checkRoles Role.workspace .unknownWorkspaceRole new.roles
    let m : WorkspaceMember := ⟨workspace, new.user, new.roles⟩
    .ok (← s.addWorkspaceMember m, m)

/-- A part of a command request that has to be there. -/
def commandPart {α : Type} (value : Option α) (part : String) : Except Failure α :=
  match value with
  | some value => .ok value
  | none => .error (.commandPartRequired part)

/-- A text of a command request that has to be there and must not be empty. -/
def commandText (value : Option String) (part : String) : Except Failure String :=
  commandPart (value.filter fun text => !text.isEmpty) part

/-- Refuses a text of a command request that is there and empty. -/
def commandTextUnlessAbsent (value : Option String) (part : String) : Except Failure Unit :=
  if value.any String.isEmpty then .error (.commandPartRequired part) else .ok ()

/-- Makes a command in a workspace. -/
def createCommand (ctx : Context) (s : Store) (caller : Caller) (workspace : String)
    (body : Bytes) : Outcome CommandDescriptor :=
  .writing s do
    let there ← s.workspaceRoles workspace caller.user
    caller.requireScoped there Role.workspace
    let new ← commandPart (← Body.optional NewCommand body) "Command"
    let name ← commandText new.name "Command name"
    let commandLine ← commandText new.commandLine "Command line"
    let c : Command := {
      id := ctx.newId "command"
      name
      commandLine
      creator := caller.user
      workspace
      visibility := new.visibility.getD .creatorOnly
      type := new.type
      workingDir := new.workingDir }
    .ok (← s.createCommand c, c.descriptor ctx.baseUrl caller)

/-- Shows a command. -/
def command (ctx : Context) (s : Store) (caller : Caller) (id : String) :
    Except Failure CommandDescriptor := do
  caller.require Role.platform
  let c ← s.command id
  if c.isVisibleTo caller.user then .ok (c.descriptor ctx.baseUrl caller)
  else .error (.commandDenied caller.user .read id)

/-- Lists the commands of a workspace that the caller sees. -/
def commands (ctx : Context) (s : Store) (caller : Caller) (workspace : String) :
    Except Failure (List CommandDescriptor) := do
  let list ← s.visibleCommands workspace caller.user
  .ok (list.map fun c => c.descriptor ctx.baseUrl caller)

/-- The update that a body gives, and the id of the command that it is for, which the caller has to
have made. -/
def changing (s : Store) (caller : Caller) (body : Bytes) :
    Except Failure (CommandUpdate × String) := do
  caller.require [Role.user]
  let update ← commandPart (← Body.optional CommandUpdate body) "Update"
  let id ← commandText update.id "Command id"
  commandTextUnlessAbsent update.name "Command name"
  commandTextUnlessAbsent update.commandLine "Command line"
  let c ← s.command id
  if c.creator = caller.user then .ok (update, id)
  else .error (.commandDenied caller.user .update id)

/-- Changes a command, and reads it again. -/
def updateCommand (ctx : Context) (s : Store) (caller : Caller) (body : Bytes) :
    Outcome CommandDescriptor :=
  match changing s caller body with
  | .error f => .refused s f
  | .ok (update, id) =>
    match s.updateCommand update with
    | .error f => .refused s f
    | .ok t => .reading t do
      let updated ← t.command id
      .ok (updated.descriptor ctx.baseUrl caller)

/-- Removes a command. -/
def removeCommand (s : Store) (caller : Caller) (id : String) : Outcome Unit :=
  .writing s do
    caller.require Role.platform
    let c ← s.command id
    if c.mayRemove caller then .ok (← s.removeCommand id, ())
    else .error (.commandDenied caller.user .remove id)

end CloudIde.Platform
