import CloudIde.Http.Form
import CloudIde.Http.MediaType
import CloudIde.Http.Resource
import CloudIde.Http.Response
import CloudIde.Platform.Accounts
import CloudIde.Platform.Plans
import CloudIde.Platform.Reports
import CloudIde.Platform.Subscribing
import CloudIde.Platform.Workspaces

/-!
# From requests to responses

`respond` gives the response to a request, with the store it leaves and the calls of services on the
way. What a request holds is read in a fixed order, and the first part that cannot be read decides
the response: the caller, the parameter of the path, the query, the body.

* A path that leads nowhere is answered 404, a method that the resource lacks 405.
* `HEAD` is answered like `GET`, without the content.
* A body of more than two mebibytes is refused before it is read.
-/

namespace CloudIde.Http

/-- A response, the store that is left, and the calls of services. -/
structure Reply where
  response : Response
  store : Store
  calls : List ServiceCall

namespace Reply

/-- A response that changes nothing. -/
def unchanged (s : Store) (response : Response) : Reply := ⟨response, s, []⟩

/-- The reply for what comes of an operation. -/
def ofOutcome {α : Type} (status : Nat) (content : α → Content) (o : Outcome α) : Reply where
  response := match o.answer with
    | .ok a => ⟨status, content a, none⟩
    | .error f => .failed f
  store := o.store
  calls := o.calls

/-- The reply for something that was made. -/
def made {α : Type} (payload : α → Payload) (o : Outcome α) : Reply :=
  ofOutcome 201 (fun a => .shown (payload a)) o

/-- The reply for something that was changed or asked for. -/
def done {α : Type} (payload : α → Payload) (o : Outcome α) : Reply :=
  ofOutcome 200 (fun a => .shown (payload a)) o

/-- The reply for something that was removed. -/
def removed (o : Outcome Unit) : Reply := ofOutcome 204 (fun _ => .nothing) o

/-- The reply for something that is shown. -/
def shown {α : Type} (s : Store) (payload : α → Payload) (answer : Except Failure α) : Reply :=
  done payload (.reading s answer)

/-- The reply without its content. -/
def withoutContent (r : Reply) : Reply :=
  { r with response := { r.response with content := .nothing } }

end Reply

/-- The most bytes that a body may have. -/
def bodyLimit : Nat := 2097152

namespace Request

/-- The caller of a request. -/
def caller (r : Request) : Except Response Caller :=
  (Caller.ofHeaders r.headers).mapError .failed

/-- The parameter of a path, as it is meant. -/
def parameter (name raw : String) : Except Response String :=
  match Bytes.text? (Percent.decode (Bytes.ofText raw)) with
  | some value => .ok value
  | none => .error (.plain 400 ("Invalid URL: Invalid UTF-8 in \x60" ++ name ++ "\x60"))

/-- A field of the query, which must not stand there twice. -/
def field (r : Request) (name : String) : Except Response (Option String) :=
  let fields := Form.fields (Bytes.ofText (r.query.getD ""))
  match fields.filter fun field => field.1 = name with
  | [] => .ok none
  | [field] => .ok (some field.2)
  | _ => .error (.plain 400
    ("Failed to deserialize query string: duplicate field \x60" ++ name ++ "\x60"))

/-- The body of a request, unless it is too long. -/
def content (r : Request) : Except Response Bytes :=
  if r.body.length > bodyLimit then
    .error (.plain 413 "Failed to buffer the request body: length limit exceeded")
  else .ok r.body

/-- Whether the request says that its body is a JSON text. -/
def announcesJson (r : Request) : Bool :=
  ((r.headers.text? "content-type").bind MediaType.ofText?).any MediaType.isJson

/-- What is wrong with a body, in words. -/
def bodyProblem (problem : Json.Problem) : Response :=
  if problem.cause.isData then
    .plain 422 ("Failed to deserialize the JSON body into the target type: " ++ problem.located)
  else .plain 400 ("Failed to parse the request body as JSON: " ++ problem.located)

/-- The value that the body of a request has to give. What follows it does not count. -/
def value (α : Type) [Wire α] (r : Request) : Except Response α :=
  if r.announcesJson then do
    (Wire.parseFront α (← r.content)).mapError bodyProblem
  else .error (.plain 415 "Expected request with \x60Content-Type: application/json\x60")

end Request

/-- The reply to a request for a resource by one of the resource's methods, unless some part of the
request cannot be read. -/
def serve (ctx : Context) (s : Store) (r : Request) : Resource → Method → Except Response Reply
  | .health, _ => .ok (.shown s (fun () => .health) (.ok ()))
  | .accounts, _ => do
    let caller ← r.caller
    let new ← r.value NewAccount
    .ok (.made .account (Platform.createAccount ctx s caller new))
  | .plans, .post => do
    let caller ← r.caller
    let plan ← r.value Plan
    .ok (.made .plan (Platform.createPlan ctx s caller plan))
  | .plans, _ => do
    let caller ← r.caller
    .ok (.shown s .plans (Platform.plans s caller))
  | .plan id, _ => do
    let caller ← r.caller
    let id ← Request.parameter "plan_id" id
    .ok (.shown s .plan (Platform.plan s caller id))
  | .subscriptions, _ => do
    let caller ← r.caller
    let body ← r.content
    .ok (.made .subscription (Platform.subscribe ctx s caller body))
  | .subscription id, .delete => do
    let caller ← r.caller
    let id ← Request.parameter "subscription_id" id
    .ok (.removed (Platform.unsubscribe ctx s caller id))
  | .subscription id, _ => do
    let caller ← r.caller
    let id ← Request.parameter "subscription_id" id
    .ok (.shown s .subscription (Platform.subscription ctx s caller id))
  | .account id, _ => do
    let caller ← r.caller
    let id ← Request.parameter "account_id" id
    .ok (.shown s .account (Platform.account s caller id))
  | .members id, .post => do
    let caller ← r.caller
    let id ← Request.parameter "account_id" id
    let new ← r.value NewMember
    .ok (.made .member (Platform.addMember s caller id new))
  | .members id, _ => do
    let caller ← r.caller
    let id ← Request.parameter "account_id" id
    .ok (.shown s .members (Platform.members s caller id))
  | .accountSubscriptions id, _ => do
    let caller ← r.caller
    let id ← Request.parameter "account_id" id
    let service ← r.field "service"
    .ok (.shown s .subscriptions (Platform.activeSubscriptions ctx s caller id service))
  | .resources id, _ => do
    let caller ← r.caller
    let id ← Request.parameter "account_id" id
    let service ← r.field "serviceId"
    .ok (.done .usages (Platform.usages ctx s caller id service))
  | .commands, _ => do
    let caller ← r.caller
    let body ← r.content
    .ok (.done .command (Platform.updateCommand ctx s caller body))
  | .command id, .post => do
    let caller ← r.caller
    let id ← Request.parameter "id" id
    let body ← r.content
    .ok (.made .command (Platform.createCommand ctx s caller id body))
  | .command id, .delete => do
    let caller ← r.caller
    let id ← Request.parameter "id" id
    .ok (.removed (Platform.removeCommand s caller id))
  | .command id, _ => do
    let caller ← r.caller
    let id ← Request.parameter "id" id
    .ok (.shown s .command (Platform.command ctx s caller id))
  | .workspaceCommands id, _ => do
    let caller ← r.caller
    let id ← Request.parameter "id" id
    .ok (.shown s .commands (Platform.commands ctx s caller id))
  | .workspaceMembers id, .post => do
    let caller ← r.caller
    let id ← Request.parameter "workspace_id" id
    let new ← r.value NewWorkspaceMember
    .ok (.made .workspaceMember (Platform.addWorkspaceMember s caller id new))
  | .workspaceMembers id, _ => do
    let caller ← r.caller
    let id ← Request.parameter "workspace_id" id
    .ok (.shown s .workspaceMembers (Platform.workspaceMembers s caller id))

/-- The reply to a request for a resource by one of its methods. -/
def reply (ctx : Context) (s : Store) (r : Request) (resource : Resource) (method : Method) :
    Reply :=
  match serve ctx s r resource method with
  | .ok reply => reply
  | .error response => .unchanged s response

/-- The response to a request, the store that is left, and the calls of services. -/
def respond (ctx : Context) (s : Store) (r : Request) : Reply :=
  match Resource.ofPath? r.path with
  | none => .unchanged s (.bare 404)
  | some resource =>
    if r.method = "HEAD" ∧ .get ∈ resource.methods then
      (reply ctx s r resource .get).withoutContent
    else match Method.ofText? r.method with
      | some method =>
        if method ∈ resource.methods then reply ctx s r resource method
        else .unchanged s { Response.bare 405 with allow := some resource.allowed }
      | none => .unchanged s { Response.bare 405 with allow := some resource.allowed }

end CloudIde.Http
