import CloudIde.Json.Problem
import CloudIde.Store.Fault
import CloudIde.Text.Utf8

/-!
# Failures

Why an operation fails. Every cause belongs to a **kind**, which gives the HTTP status of the
answer, and has one message.
-/

namespace CloudIde

/-- The kinds of failures. -/
inductive FailureKind where
  | notFound
  | forbidden
  | conflict
  | unauthorized
  | invalidRequest
  | database
  | internal
  deriving DecidableEq, Repr

/-- The HTTP status of an answer that reports a failure. -/
def FailureKind.status : FailureKind → Nat
  | .notFound => 404
  | .forbidden => 403
  | .conflict => 409
  | .unauthorized => 401
  | .invalidRequest => 400
  | .database => 500
  | .internal => 500

/-- What stands in front of every message of a kind. -/
def FailureKind.preface : FailureKind → String
  | .notFound | .forbidden | .conflict => ""
  | .unauthorized => "Unauthorized: "
  | .invalidRequest => "Invalid request: "
  | .database => "Database error: "
  | .internal => "Internal server error: "

/-- What somebody wants to do to a command. -/
inductive CommandAccess where
  | read
  | update
  | remove
  deriving DecidableEq, Repr

/-- The verb in front of a command that is not to be read only. -/
def CommandAccess.words : CommandAccess → String
  | .read => ""
  | .update => "update "
  | .remove => "remove "

/-- A cause of failure. -/
inductive Failure where
  /-- No account has this id. -/
  | accountNotFound (id : String)
  /-- No plan has this id. -/
  | planNotFound (id : String)
  /-- No subscription has this id. -/
  | subscriptionNotFound (id : String)
  /-- No command has this id. -/
  | commandNotFound (id : String)
  /-- The caller holds no role that the operation asks for. -/
  | accessDenied
  /-- The caller may not do this to the command. -/
  | commandDenied (user : String) (access : CommandAccess) (id : String)
  /-- Only privileged callers subscribe to this plan. -/
  | salesOnly
  /-- Only privileged callers override properties. -/
  | customProperties
  /-- The plan has no property of this name. -/
  | unknownProperty
  /-- The subscription was removed before. -/
  | alreadyInactive (id : String)
  /-- A part of a command request is missing. -/
  | commandPartRequired (part : String)
  /-- The account is stored already. -/
  | accountExists (id : String)
  /-- The plan is stored already. -/
  | planExists (id : String)
  /-- The command is stored already. -/
  | commandExists (id : String)
  /-- The account already has an active subscription to the service. -/
  | alreadySubscribed (account service : String)
  /-- A part of a request is missing. -/
  | partRequired (part : String)
  /-- No service of this id is registered. -/
  | unknownService
  /-- The payment does not fit the plan. -/
  | paymentNotAllowed
  /-- The trial does not fit the plan. -/
  | trialNotAllowed
  /-- The trial has a negative length. -/
  | negativeTrial
  /-- The trial does not end at an instant. -/
  | trialOutOfRange
  /-- A membership in an account cannot give this role. -/
  | unknownAccountRole (role : String)
  /-- A membership in a workspace cannot give this role. -/
  | unknownWorkspaceRole (role : String)
  /-- The request does not say who sends it. -/
  | missingIdentity
  /-- The body does not spell a text. -/
  | bodyNotText (fault : Utf8.Fault)
  /-- The body is no JSON text for what is wanted. -/
  | badBody (problem : Json.Problem)
  /-- A stored text is no JSON text for what its column holds. -/
  | corruptColumn (problem : Json.Problem)
  /-- The database reports a fault. -/
  | database (fault : DatabaseFault)
  /-- The database could not be opened. -/
  | opening (text : String)
  /-- A subscribed service reports a failure of its own. -/
  | reported (kind : FailureKind) (text : String)
  deriving DecidableEq

namespace Failure

/-- The kind of a failure. -/
def kind : Failure → FailureKind
  | accountNotFound _ | planNotFound _ | subscriptionNotFound _ | commandNotFound _ => .notFound
  | accessDenied | commandDenied .. | salesOnly | customProperties | unknownProperty
  | alreadyInactive _ | commandPartRequired _ => .forbidden
  | accountExists _ | planExists _ | commandExists _ | alreadySubscribed .. | partRequired _
  | unknownService | paymentNotAllowed | trialNotAllowed | negativeTrial | trialOutOfRange
  | unknownAccountRole _ | unknownWorkspaceRole _ => .conflict
  | missingIdentity => .unauthorized
  | bodyNotText _ | badBody _ => .invalidRequest
  | database _ => .database
  | corruptColumn _ | opening _ => .internal
  | reported kind _ => kind

/-- The answer to a request for a subscription that only the sales department can give. -/
def contactSupport : String :=
  "User not authorized to add this subscription, please contact support"

/-- The cause in words. -/
def text : Failure → String
  | accountNotFound id => "Account '" ++ id ++ "' not found"
  | planNotFound id => "Plan with id " ++ id ++ " was not found"
  | subscriptionNotFound id => "Subscription not found " ++ id
  | commandNotFound id => "Command '" ++ id ++ "' not found"
  | accessDenied => "Access denied"
  | commandDenied user access id =>
    "User '" ++ user ++ "' doesn't have access to " ++ access.words ++ "command '" ++ id ++ "'"
  | salesOnly => contactSupport
  | customProperties =>
    "User not authorized to add subscription with custom properties, please contact support"
  | unknownProperty => "Forbidden overriding of non-existent plan properties"
  | alreadyInactive id => "Subscription is inactive already " ++ id
  | commandPartRequired part => part ++ " required"
  | accountExists id => "Account '" ++ id ++ "' already exists"
  | planExists id => "Plan '" ++ id ++ "' already exists"
  | commandExists id => "Command '" ++ id ++ "' already exists"
  | alreadySubscribed account service =>
    "Account '" ++ account ++ "' already has an active subscription to service '" ++ service ++ "'"
  | partRequired part => part ++ " required"
  | unknownService => "Unknown serviceId is used"
  | paymentNotAllowed => "Given value of attribute usePaymentSystem is not allowed"
  | trialNotAllowed => contactSupport
  | negativeTrial => "Trial duration must not be negative"
  | trialOutOfRange => "Trial duration is out of range"
  | unknownAccountRole role => "Unknown account role " ++ role
  | unknownWorkspaceRole role => "Unknown workspace role " ++ role
  | missingIdentity => "missing user identity"
  | bodyNotText fault => "Body is not UTF-8: " ++ fault.message
  | badBody problem => problem.message
  | corruptColumn problem => "Corrupted JSON column: " ++ problem.message
  | database fault => fault.message
  | opening text => text
  | reported .database _ => DatabaseFault.rowMissing.message
  | reported _ text => text

/-- The message of a failure. -/
def message (failure : Failure) : String := failure.kind.preface ++ failure.text

/-- The HTTP status of the answer that reports a failure. -/
def status (failure : Failure) : Nat := failure.kind.status

/-- The body of the answer that reports a failure. -/
def toJson (failure : Failure) : Json :=
  .object [("error", .text failure.message), ("status", .integer failure.status)]

end Failure

end CloudIde
