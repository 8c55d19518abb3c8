import CloudIde.Command.Descriptor
import CloudIde.Platform.Outcome

/-!
# Responses

A response has a status and a content: something shown, a failure, a plain text, or nothing.
-/

namespace CloudIde.Http

/-- What a response shows. -/
inductive Payload where
  | health
  | account (account : Account)
  | member (member : Member)
  | members (members : List Member)
  | plan (plan : Plan)
  | plans (plans : List Plan)
  | subscription (descriptor : SubscriptionDescriptor)
  | subscriptions (descriptors : List SubscriptionDescriptor)
  | usages (usages : List SubscriptionUsage)
  | command (descriptor : CommandDescriptor)
  | commands (descriptors : List CommandDescriptor)
  | workspaceMember (member : WorkspaceMember)
  | workspaceMembers (members : List WorkspaceMember)
  deriving DecidableEq

/-- The version of the service. -/
def version : String := "0.1.0"

/-- The JSON form of what a response shows. -/
def Payload.toJson : Payload → Json
  | health => .object [("status", .text "healthy"), ("version", .text version),
      ("message", .text "Backend is healthy")]
  | account a => Wire.toJson a
  | member m => Wire.toJson m
  | members ms => Wire.toJson ms
  | plan p => Wire.toJson p
  | plans ps => Wire.toJson ps
  | subscription d => Wire.toJson d
  | subscriptions ds => Wire.toJson ds
  | usages us => Wire.toJson us
  | command d => Wire.toJson d
  | commands ds => Wire.toJson ds
  | workspaceMember m => Wire.toJson m
  | workspaceMembers ms => Wire.toJson ms

/-- The content of a response. -/
inductive Content where
  | shown (payload : Payload)
  | failure (failure : Failure)
  | text (text : String)
  | nothing
  deriving DecidableEq

/-- The JSON value that a content consists of, if it is one. -/
def Content.json? : Content → Option Json
  | shown payload => some payload.toJson
  | failure f => some f.toJson
  | text _ | nothing => none

/-- The bytes of a content. -/
def Content.bytes : Content → Bytes
  | shown payload => payload.toJson.toBytes
  | failure f => f.toJson.toBytes
  | text t => Bytes.ofText t
  | nothing => []

/-- The media type of a content, when there is any. -/
def Content.mediaType? : Content → Option String
  | shown _ | failure _ => some "application/json"
  | text _ => some "text/plain; charset=utf-8"
  | nothing => none

/-- A response. -/
structure Response where
  status : Nat
  content : Content
  /-- The methods that a client may use instead. -/
  allow : Option String
  deriving DecidableEq

namespace Response

/-- A response without content. -/
def bare (status : Nat) : Response := ⟨status, .nothing, none⟩

/-- A response with a plain text. -/
def plain (status : Nat) (text : String) : Response := ⟨status, .text text, none⟩

/-- The response that reports a failure. -/
def failed (f : Failure) : Response := ⟨f.status, .failure f, none⟩

end Response

end CloudIde.Http
