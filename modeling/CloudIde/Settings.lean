import CloudIde.Number.Digits
import CloudIde.Text.Blank
import CloudIde.Text.Utf8

/-!
# Settings

The service is configured by environment variables, each of which has a default. A variable whose
value is no text counts as absent, except the home directory, which is read with replacements.
-/

namespace CloudIde

/-- The environment variables that are looked at. -/
structure Environment where
  port : Option Bytes
  host : Option Bytes
  apiBaseUrl : Option Bytes
  databaseUrl : Option Bytes
  home : Option Bytes
  subscriptionServices : Option Bytes

/-- What the service is told at its start. -/
structure Settings where
  /-- The port to listen on. -/
  port : UInt16
  /-- The address to listen on. -/
  host : String
  /-- What the URLs in links begin with, without a slash at the end. -/
  apiBaseUrl : String
  /-- Where the database is. -/
  databaseUrl : String
  /-- The services to register. -/
  services : List String
  deriving DecidableEq, Repr

namespace Settings

/-- A port: decimal digits, which may follow a plus sign. -/
def port? (text : String) : Option UInt16 :=
  let digits := match text.toList with
    | '+' :: digits => digits
    | digits => digits
  match Digits.value? digits with
  | some n => if n < 65536 then some (UInt16.ofNat n) else none
  | none => none

/-- A URL without slashes at its end. -/
def withoutSlash (url : String) : String :=
  String.ofList (trimEndChars (· = '/') url.toList)

/-- The settings that an environment gives. -/
def ofEnvironment (env : Environment) : Settings :=
  let text (value : Option Bytes) : Option String := value.bind Bytes.text?
  let port := ((text env.port).bind port?).getD 8080
  let defaultDatabase := match env.home with
    | some home => Utf8.lossy home ++ "/.che-api/che.db"
    | none => ".che-api/che.db"
  { port
    host := (text env.host).getD "0.0.0.0"
    apiBaseUrl := match text env.apiBaseUrl with
      | some url => withoutSlash url
      | none => "http://localhost:" ++ toString port.toNat ++ "/api"
    databaseUrl := (text env.databaseUrl).getD defaultDatabase
    services := commaList ((text env.subscriptionServices).getD "Saas,OnPremises") }

/-- The address to listen on, with its port. -/
def address (settings : Settings) : String :=
  settings.host ++ ":" ++ toString settings.port.toNat

end Settings

end CloudIde
