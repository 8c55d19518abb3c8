import CloudIde.Http.MediaType
import CloudIde.Http.Request
import CloudIde.Http.Url
import CloudIde.Machine.Descriptor
import CloudIde.Text.Charset

/-!
# Talking to the machine service

Machines are made, listed, used and destroyed by another service. `MachineCall` is what it is asked
for. A call is run by sending its request (`MachineCall.request?`) and taking the answer for what it
means (`MachineCall.result`); `MachineCall.run` does both, with any way of sending. To follow an
answer to another place is part of sending.

* An answer with a status outside 200 to 299 is a failure with that status and text.
* An answer that does not arrive is a failure, unless only its text is missing and nobody wants it.
  So is one that breaks the rules of HTTP, or that only announces another one.
* Otherwise the text has to be the JSON text of what was asked for.
-/

namespace CloudIde

/-- What the machine service is asked for. -/
inductive MachineCall where
  /-- A machine made from a recipe. -/
  | create (workspace type recipeType script : String) (channel : Option String)
  /-- A machine made from a snapshot. -/
  | restore (snapshot : String) (channel : Option String)
  /-- The machines of a workspace, or only those that a project is bound to. -/
  | list (workspace : String) (project : Option String)
  /-- The end of a machine. -/
  | destroy (machine : String)
  /-- A process that runs a command line in a machine. -/
  | execute (machine commandLine : String) (channel : Option String)
  /-- A project bound to a machine. -/
  | bind (machine project : String)
  /-- A project no longer bound to a machine. -/
  | unbind (machine project : String)
  deriving DecidableEq, Repr

/-- A request to the machine service. -/
structure MachineRequest where
  method : Http.Method
  url : Url
  body : Option Json

/-- What the machine service gives. -/
inductive MachineResult where
  | machine (descriptor : MachineDescriptor)
  | machines (descriptors : List MachineDescriptor)
  | process (descriptor : ProcessDescriptor)
  | done
  deriving DecidableEq, Repr

/-- The JSON form of what the machine service gives. -/
def MachineResult.toJson : MachineResult → Json
  | machine m => Wire.toJson m
  | machines ms => Wire.toJson ms
  | process p => Wire.toJson p
  | done => .null

/-- What arrives from the machine service. -/
inductive MachineAnswer where
  /-- Nothing, since the request could not be sent or no answer to it came. -/
  | hungUp
  /-- A status, perhaps a content type, and a body, or only some of it. -/
  | answered (status : Nat) (contentType : Option Bytes) (body : Bytes) (complete : Bool)

/-- Why the machine service gives nothing. -/
inductive MachineFault where
  /-- The answer did not arrive. -/
  | transport
  /-- The service reports an error. -/
  | status (status : Nat) (body : String)
  /-- The body is no JSON text for what was asked for. -/
  | unreadable (problem : Json.Problem) (body : String)
  deriving DecidableEq

/-- Why the machine service gives nothing, in words. -/
def MachineFault.message : MachineFault → String
  | transport => "Failed to send request to machine service"
  | status n body => "Machine service returned error status " ++ toString n ++ ": " ++ body
  | unreadable problem body =>
    "Failed to parse machine service response: " ++ problem.message ++ " - Response body: " ++ body

namespace MachineCall

/-- A text without slashes at its end. -/
def withoutEndSlashes (text : String) : String :=
  String.ofList (trimEndChars (· = '/') text.toList)

/-- A text without slashes at its front. -/
def withoutFrontSlashes (text : String) : String :=
  String.ofList (text.toList.dropWhile (· = '/'))

/-- The path of a machine below the service. -/
def machinePath (machine : String) : String := "/" ++ machine

/-- The path of a project bound to a machine. -/
def bindingPath (machine project : String) : String :=
  machinePath machine ++ "/binding/" ++ withoutFrontSlashes project

/-- A text or null. -/
def textOrNull (text : Option String) : Json := (text.map Json.text).getD .null

/-- The method of the request for a call. -/
def method : MachineCall → Http.Method
  | create .. | restore .. | execute .. | bind .. => .post
  | list .. => .get
  | destroy .. | unbind .. => .delete

/-- The path of the request for a call, below the service and as it is meant. -/
def path : MachineCall → String
  | create .. => "/recipe"
  | restore .. => "/snapshot"
  | list .. => ""
  | destroy machine => machinePath machine
  | execute machine .. => machinePath machine ++ "/command"
  | bind machine project | unbind machine project => bindingPath machine project

/-- The fields that the query of the request for a call has. -/
def fields : MachineCall → List (String × String)
  | list workspace project =>
    ("workspace", workspace) :: project.toList.map fun project => ("project", project)
  | _ => []

/-- The body of the request for a call. -/
def body : MachineCall → Option Json
  | create workspace type recipeType script channel => some (.object [
      ("workspaceId", .text workspace),
      ("type", .text type),
      ("recipeDescriptor", .object [("type", .text recipeType), ("script", .text script)]),
      ("outputChannel", textOrNull channel)])
  | restore snapshot channel => some (.object [
      ("snapshotId", .text snapshot),
      ("outputChannel", textOrNull channel)])
  | execute _ commandLine channel => some (.object [
      ("commandLine", .text commandLine),
      ("outputChannel", textOrNull channel)])
  | _ => none

/-- The URL for a call, as text. -/
def address (call : MachineCall) (baseUrl : String) : String :=
  withoutEndSlashes baseUrl ++ "/machine" ++ call.path

/-- The request for a call to the service at a URL, for a reading of hosts. -/
def request? (call : MachineCall) (baseUrl : String)
    (hosts : String → Option String := Url.plainHost?) : Option MachineRequest :=
  (Url.ofText? (call.address baseUrl) hosts).map fun url =>
    let url := if call.fields.isEmpty then url else url.withFields call.fields
    ⟨call.method, url, call.body⟩

/-- The value of a header without the blanks and tabs around it. -/
def trimmed (value : Bytes) : Bytes :=
  let isBlank (b : UInt8) : Bool := b = 0x20 || b = 0x09
  ((value.dropWhile isBlank).reverse.dropWhile isBlank).reverse

/-- The encoding that a content type announces; UTF-8 when it announces none that is known. -/
def announcedCharset (contentType : Option Bytes) : Charset :=
  let type := (contentType.bind fun value => Headers.visibleText? (trimmed value)).bind
    MediaType.ofText?
  let parameters := (type.map MediaType.parameters).getD []
  let label := (parameters.find? fun parameter => parameter.1 = "charset").map (·.2)
  (label.bind Charset.ofLabel?).getD .utf8

/-- Whether an answer with a status is the last one. A status below 200 announces another answer,
but for 101, which leaves HTTP. -/
def isFinal (status : Nat) : Bool := 200 ≤ status || status = 101

/-- Whether answers with a status have no body, whatever is sent. -/
def hasNoBody (status : Nat) : Bool := status = 101 || status = 204 || status = 304

/-- Whether a byte may stand in the value of a header. -/
def isInHeader (b : UInt8) : Bool := b = 0x09 || (0x20 ≤ b && b ≠ 0x7F)

/-- Whether an answer can be read: its status has three digits and is final, and its content type is
the value of a header. -/
def isReadable (status : Nat) (contentType : Option Bytes) : Bool :=
  100 ≤ status && status ≤ 999 && isFinal status && (contentType.getD []).all isInHeader

/-- The text of an answer, unless some of it is missing. -/
def textOf (status : Nat) (contentType : Option Bytes) (body : Bytes) (complete : Bool) :
    Option String :=
  if hasNoBody status then some ""
  else if complete then some ((announcedCharset contentType).decodeMarked body)
  else none

/-- What a text means to a call. -/
def read (call : MachineCall) (text : String) : Except MachineFault MachineResult :=
  let parsed (α : Type) [Wire α] (wrap : α → MachineResult) : Except MachineFault MachineResult :=
    match Wire.parseText α text with
    | .ok value => .ok (wrap value)
    | .error problem => .error (.unreadable problem text)
  match call with
  | create .. | restore .. => parsed MachineDescriptor .machine
  | list .. => parsed (List MachineDescriptor) .machines
  | execute .. => parsed ProcessDescriptor .process
  | destroy .. | bind .. | unbind .. => .ok .done

/-- Whether a call wants the text of its answer. -/
def wantsText : MachineCall → Bool
  | destroy .. | bind .. | unbind .. => false
  | _ => true

/-- The text of an error that is missing. -/
def missingText : String := "Unable to read error body"

/-- What an answer means to a call. -/
def result (call : MachineCall) (answer : MachineAnswer) : Except MachineFault MachineResult :=
  match answer with
  | .hungUp => .error .transport
  | .answered status contentType body complete =>
    let text := textOf status contentType body complete
    if !isReadable status contentType then .error .transport
    else if 200 ≤ status ∧ status < 300 then
      if call.wantsText then
        match text with
        | some text => call.read text
        | none => .error .transport
      else .ok .done
    else .error (.status status (text.getD missingText))

/-- What a call to the service at a URL gives, where requests are sent by `send`. Nothing is sent
when the URL cannot be read. -/
def run {m : Type → Type} [Monad m] (call : MachineCall) (baseUrl : String)
    (send : MachineRequest → m MachineAnswer)
    (hosts : String → Option String := Url.plainHost?) : m (Except MachineFault MachineResult) := do
  match call.request? baseUrl hosts with
  | none => return .error .transport
  | some request =>
    let answer ← send request
    return call.result answer

end MachineCall

end CloudIde
