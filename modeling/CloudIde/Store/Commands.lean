import CloudIde.Store.Basic

/-!
# Stored commands

A command is stored once; an update replaces the parts that it has. A user lists the commands of a
workspace that are public or their own, in the order of their names and then their ids.
-/

namespace CloudIde

namespace CommandRow

/-- Whether a user sees the row. -/
def isSeenBy (row : CommandRow) (user : String) : Bool :=
  row.visibility = .text Visibility.everybody.text || row.creator = .text user

/-- The row with the columns that an update writes taken from a command, if it is the command's row.
-/
def updated (row : CommandRow) (c : Command) : CommandRow :=
  if row.id = .text c.id then
    { row with
      name := .text c.name
      commandLine := .text c.commandLine
      visibility := .text c.visibility.text
      type := .ofOptionalText c.type
      workingDir := .ofOptionalText c.workingDir }
  else row

theorem key_updated (c : Command) (row : CommandRow) : Row.key (row.updated c) = Row.key row := by
  simp only [updated]
  split <;> rfl

end CommandRow

namespace Store

/-- The columns of `commands`. -/
def commandColumns : List String :=
  ["id", "name", "command_line", "creator", "workspace_id", "visibility", "command_type",
    "working_dir"]

/-- The columns of `commands` that an update writes, and the one it looks for. -/
def updatedCommandColumns : List String :=
  ["name", "command_line", "visibility", "command_type", "working_dir", "id"]

/-- Stores a new command. -/
def createCommand (s : Store) (c : Command) : Except Failure Store := do
  s.commands.filling commandColumns
  match s.commands.insert? (.ofCommand c) with
  | some commands => .ok { s with commands }
  | none => .error (.commandExists c.id)

/-- The command with an id. -/
def command (s : Store) (id : String) : Except Failure Command := do
  s.commands.naming commandColumns
  match s.commands.find? [.text id] with
  | some row => row.command.mapError .database
  | none => .error (.commandNotFound id)

/-- The commands of a workspace that a user sees. -/
def visibleCommands (s : Store) (workspace user : String) : Except Failure (List Command) := do
  s.commands.naming commandColumns
  let rows := s.commands.select (fun row => row.workspace = .text workspace && row.isSeenBy user)
    fun row => [row.name, row.id]
  (rows.mapM CommandRow.command).mapError .database

/-- Replaces the parts of a stored command that the update has. -/
def updateCommand (s : Store) (u : CommandUpdate) : Except Failure Store := do
  match u.id with
  | none => .error (.partRequired "Command id")
  | some id =>
    let c ← s.command id
    s.commands.naming updatedCommandColumns
    let changed := c.apply u
    .ok { s with
          commands := s.commands.modify (fun row => row.updated changed)
            (CommandRow.key_updated changed) }

/-- Takes a command away. -/
def removeCommand (s : Store) (id : String) : Except Failure Store := do
  s.commands.naming ["id"]
  if s.commands.hasKey [.text id] then .ok { s with commands := s.commands.erase [.text id] }
  else .error (.commandNotFound id)

end Store

end CloudIde
