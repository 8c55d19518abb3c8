import CloudIde.Json.Wire

/-!
# Machines and their processes

What the machine service reports about the machines of a workspace.
-/

namespace CloudIde

/-- Where a machine is in its life. -/
inductive MachineState where
  | creating
  | running
  | destroying
  deriving DecidableEq, Repr

instance : Wire MachineState where
  shape := .leaf (.choice "CREATING" ["RUNNING", "DESTROYING"])
  toVal
    | .creating => (Json.Place.first : Fin 3)
    | .running => (Json.Place.second : Fin 3)
    | .destroying => (Json.Place.third : Fin 3)
  ofVal := fun (place : Fin 3) => match place with
    | 0 => .creating
    | 1 => .running
    | 2 => .destroying
  ofVal_toVal a := by cases a <;> rfl

/-- A machine. -/
structure MachineDescriptor where
  id : String
  /-- The kind of the machine, such as `docker`. -/
  type : String
  state : MachineState
  workspace : String
  /-- The user who made it. -/
  owner : Option String
  /-- The paths of the projects that are bound to it. -/
  projects : List String
  deriving DecidableEq, Repr

instance : Wire MachineDescriptor where
  shape := .record "MachineDescriptor"
    (.cons "id" .required (.leaf .text)
    (.cons "type" .required (.leaf .text)
    (.cons "state" .required (Wire.shape MachineState)
    (.cons "workspaceId" .required (.leaf .text)
    (.cons "owner" .defaulted (.nullable (.leaf .text))
    (.cons "projects" .defaulted (.list (.leaf .text)) .nil))))))
  toVal m := (m.id, m.type, Wire.toVal m.state, m.workspace, m.owner, m.projects, ())
  ofVal := fun (id, type, state, workspace, owner, projects, ()) =>
    ⟨id, type, Wire.ofVal state, workspace, owner, projects⟩
  ofVal_toVal m := by cases m; simp [Wire.ofVal_toVal]

/-- A process in a machine. -/
structure ProcessDescriptor where
  pid : Int32
  commandLine : String
  alive : Bool
  deriving DecidableEq, Repr

instance : Wire ProcessDescriptor where
  shape := .record "ProcessDescriptor"
    (.cons "pid" .required (.leaf .int32)
    (.cons "commandLine" .required (.leaf .text)
    (.cons "alive" .required (.leaf .flag) .nil)))
  toVal p := (p.pid, p.commandLine, p.alive, ())
  ofVal := fun (pid, commandLine, alive, ()) => ⟨pid, commandLine, alive⟩

end CloudIde
