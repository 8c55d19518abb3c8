import CloudIde.Json.Wire

/-!
# Commands

A command is a command line that the users of a workspace run in their machines. The creator of a
command sees it, and everybody sees a public one. An update replaces the parts that it has.
-/

namespace CloudIde

/-- Who sees a command. -/
inductive Visibility where
  | creatorOnly
  | everybody
  deriving DecidableEq, Repr

namespace Visibility

/-- The name under which it is stored. -/
def text : Visibility → String
  | creatorOnly => "private"
  | everybody => "public"

/-- The visibility that a stored name means: an unknown name means private. -/
def ofText (text : String) : Visibility := if text = "public" then everybody else creatorOnly

end Visibility

instance : Wire Visibility where
  shape := .leaf (.choice "private" ["public"])
  toVal
    | .creatorOnly => (Json.Place.first : Fin 2)
    | .everybody => (Json.Place.second : Fin 2)
  ofVal := fun (place : Fin 2) => match place with
    | 0 => .creatorOnly
    | 1 => .everybody
  ofVal_toVal a := by cases a <;> rfl

/-- A command. -/
structure Command where
  id : String
  name : String
  commandLine : String
  /-- The user who made it. -/
  creator : String
  workspace : String
  visibility : Visibility
  /-- The kind of the command, such as `maven`. -/
  type : Option String
  workingDir : Option String
  deriving DecidableEq, Repr

instance : Wire Command where
  shape := .record "Command"
    (.cons "id" .required (.leaf .text)
    (.cons "name" .required (.leaf .text)
    (.cons "commandLine" .required (.leaf .text)
    (.cons "creator" .required (.leaf .text)
    (.cons "workspaceId" .required (.leaf .text)
    (.cons "visibility" .required (Wire.shape Visibility)
    (.cons "type" .required (.nullable (.leaf .text))
    (.cons "workingDir" .required (.nullable (.leaf .text)) .nil))))))))
  toVal c := (c.id, c.name, c.commandLine, c.creator, c.workspace, Wire.toVal c.visibility, c.type,
    c.workingDir, ())
  ofVal := fun (id, name, commandLine, creator, workspace, visibility, type, workingDir, ()) =>
    ⟨id, name, commandLine, creator, workspace, Wire.ofVal visibility, type, workingDir⟩
  ofVal_toVal c := by cases c; simp [Wire.ofVal_toVal]

/-- A request for a command. -/
structure NewCommand where
  name : Option String
  commandLine : Option String
  visibility : Option Visibility
  type : Option String
  workingDir : Option String
  deriving DecidableEq, Repr

instance : Wire NewCommand where
  shape := .record "NewCommand"
    (.cons "name" .required (.nullable (.leaf .text))
    (.cons "commandLine" .required (.nullable (.leaf .text))
    (.cons "visibility" .required (.nullable (Wire.shape Visibility))
    (.cons "type" .required (.nullable (.leaf .text))
    (.cons "workingDir" .required (.nullable (.leaf .text)) .nil)))))
  toVal c := (c.name, c.commandLine, c.visibility.map (Wire.toVal (α := Visibility)), c.type,
    c.workingDir, ())
  ofVal := fun (name, commandLine, (visibility : Option (Wire.shape Visibility).Val), type,
      workingDir, ()) =>
    ⟨name, commandLine, visibility.map (Wire.ofVal (α := Visibility)), type, workingDir⟩
  ofVal_toVal c := by
    obtain ⟨name, commandLine, visibility, type, workingDir⟩ := c
    cases visibility <;> simp [Wire.ofVal_toVal]

/-- A request to change a command. -/
structure CommandUpdate where
  id : Option String
  name : Option String
  commandLine : Option String
  visibility : Option Visibility
  type : Option String
  workingDir : Option String
  deriving DecidableEq, Repr

instance : Wire CommandUpdate where
  shape := .record "CommandUpdate"
    (.cons "id" .required (.nullable (.leaf .text))
    (.cons "name" .required (.nullable (.leaf .text))
    (.cons "commandLine" .required (.nullable (.leaf .text))
    (.cons "visibility" .required (.nullable (Wire.shape Visibility))
    (.cons "type" .required (.nullable (.leaf .text))
    (.cons "workingDir" .required (.nullable (.leaf .text)) .nil))))))
  toVal u := (u.id, u.name, u.commandLine, u.visibility.map (Wire.toVal (α := Visibility)), u.type,
    u.workingDir, ())
  ofVal := fun (id, name, commandLine, (visibility : Option (Wire.shape Visibility).Val), type,
      workingDir, ()) =>
    ⟨id, name, commandLine, visibility.map (Wire.ofVal (α := Visibility)), type, workingDir⟩
  ofVal_toVal u := by
    obtain ⟨id, name, commandLine, visibility, type, workingDir⟩ := u
    cases visibility <;> simp [Wire.ofVal_toVal]

namespace Command

/-- Whether a user sees the command. -/
def isVisibleTo (c : Command) (user : String) : Bool :=
  c.visibility = .everybody || c.creator = user

/-- The command with the parts that the update has. -/
def apply (c : Command) (u : CommandUpdate) : Command :=
  { c with
    name := u.name.getD c.name
    commandLine := u.commandLine.getD c.commandLine
    visibility := u.visibility.getD c.visibility
    type := u.type <|> c.type
    workingDir := u.workingDir <|> c.workingDir }

end Command

/-- One update with the parts of both; where both have a part, that of the second. -/
def CommandUpdate.merge (p q : CommandUpdate) : CommandUpdate where
  id := q.id <|> p.id
  name := q.name <|> p.name
  commandLine := q.commandLine <|> p.commandLine
  visibility := q.visibility <|> p.visibility
  type := q.type <|> p.type
  workingDir := q.workingDir <|> p.workingDir

end CloudIde
