import CloudIde.Caller
import CloudIde.Command.Basic
import CloudIde.Link

/-!
# What callers see of commands

A descriptor shows a command to one caller, with a link for reading, and a link for removing when
the caller made the command or is privileged.
-/

namespace CloudIde

/-- A command as it is shown to a caller. -/
structure CommandDescriptor where
  command : Command
  links : List Link
  deriving DecidableEq

instance : Wire CommandDescriptor where
  shape := .flattened "CommandDescriptor"
    (.required "id" .text
    (.required "name" .text
    (.required "commandLine" .text
    (.required "creator" .text
    (.required "workspaceId" .text
    (.required "visibility" (.choice "private" ["public"])
    (.optional "type" .text
    (.optional "workingDir" .text .nil))))))))
    (.cons "links" .required (.list (Wire.shape Link)) .nil)
  toVal d := (Wire.toVal d.command, (Wire.toVal d.links, ()))
  ofVal := fun (command, (links, ())) => ⟨Wire.ofVal command, Wire.ofVal links⟩
  ofVal_toVal d := by cases d; simp [Wire.ofVal_toVal]

namespace Command

/-- The URL of a command. -/
def href (baseUrl id : String) : String := baseUrl ++ "/command/" ++ id

/-- Whether a caller may remove the command. -/
def mayRemove (c : Command) (caller : Caller) : Bool :=
  c.creator = caller.user || caller.isPrivileged

/-- The links that a caller is offered. -/
def links (c : Command) (baseUrl : String) (caller : Caller) : List Link :=
  Link.get (href baseUrl c.id) "get command"
    :: (if c.mayRemove caller then [Link.delete (href baseUrl c.id) "remove command"] else [])

/-- The command as it is shown to a caller. -/
def descriptor (c : Command) (baseUrl : String) (caller : Caller) : CommandDescriptor where
  command := c
  links := c.links baseUrl caller

end Command

end CloudIde
