import CloudIde.Database.Open
import CloudIde.Server.Address
import CloudIde.Settings
import CloudIde.Subscription.Service

/-!
# Starting and stopping the server

The server reads its settings, opens its database, and then reads the address to listen on; the
first step that fails ends it with exit code 1 and a report. A server that listens ends with exit
code 0 when it is told to stop.
-/

namespace CloudIde

/-- Why a server does not start. -/
inductive StartFault where
  /-- The database does not open. -/
  | database (failure : Failure)
  /-- There is no such address. -/
  | address
  deriving DecidableEq

/-- A server that is ready to listen. -/
structure Server where
  settings : Settings
  address : SocketAddress
  registry : Registry
  database : Database

/-- A text whose further rows are indented like its first one. -/
def indented (text : String) : String :=
  String.ofList ("    ".toList ++ text.toList.flatMap fun c =>
    if c = '\n' then "\n    ".toList else [c])

/-- The report of a failed start: what failed, and its cause when it has one. -/
def StartFault.report : StartFault → String
  | database f => "Error: " ++ f.message ++ "\n\nCaused by:\n" ++ indented f.text ++ "\n"
  | address => "Error: Invalid server address: invalid socket address syntax\n"

namespace Server

/-- The services of a server: those of its settings, which accept every subscription. -/
def registryOf (settings : Settings) : Registry :=
  Registry.ofList (settings.services.map Service.plain)

/-- Starts a server in an environment; paths that do not start at the root start at `here`. Gives
the files as they are afterwards. -/
def start (env : Environment) (disk : Disk) (here : Place) : Disk × Except StartFault Server :=
  let settings := Settings.ofEnvironment env
  match Database.openAt disk here settings.databaseUrl with
  | (disk, .error f) => (disk, .error (.database f))
  | (disk, .ok database) =>
    match SocketAddress.ofText? settings.address with
    | none => (disk, .error .address)
    | some address => (disk, .ok ⟨settings, address, registryOf settings, database⟩)

/-- The exit code of a server that started or not, when it has come to its end. -/
def exitCode : Except StartFault Server → Nat
  | .ok _ => 0
  | .error _ => 1

/-- What a server that started or not has reported when it has come to its end. -/
def report : Except StartFault Server → String
  | .ok _ => ""
  | .error fault => fault.report

end Server

end CloudIde
