import CloudIde.Http.Body
import CloudIde.Platform.Outcome

/-!
# Subscribing and unsubscribing

The owners of an account and privileged callers subscribe it to plans and remove its subscriptions.
An unprivileged owner takes a plan as it is offered: it must not be reserved for the sales
department, it is paid for when it is charged, its trial has the length that the plan gives it, and
its properties keep their values.

The service of the plan takes part. It may refuse or change the subscription before it is stored;
when it fails afterwards, the subscription stays stored, and one that it fails to remove stays
inactive.
-/

namespace CloudIde.Platform

/-- A request for a subscription with all parts that it has to have. -/
structure Order where
  account : String
  plan : String
  usePaymentSystem : Bool
  /-- The days of the trial; a trial of no days is none. -/
  trial : Option Int32
  properties : Properties

/-- The order that a body gives. -/
def Order.ofBody (body : Bytes) : Except Failure Order := do
  let new ← Body.required (← Body.optional NewSubscription body) "New subscription"
  let account ← Body.required new.account "Account identifier"
  let plan ← Body.required new.plan "Plan identifier"
  let usePaymentSystem ← Body.required new.usePaymentSystem "Use payment system"
  .ok ⟨account, plan, usePaymentSystem, new.trialDuration.filter (· ≠ 0), new.properties⟩

/-- The roles of a caller in an account that count for its subscriptions; privileged callers need
none. -/
def rolesFor (s : Store) (caller : Caller) (account : String) (needed : List String) :
    Except Failure RoleSet :=
  if caller.isPrivileged then .ok RoleSet.empty
  else do
    let there ← s.accountRoles account caller.user
    if needed.any fun role => role ∈ there then .ok there else .error .accessDenied

/-- Refuses an order that does not take the plan as it is offered. -/
def Order.checkTerms (order : Order) (plan : Plan) : Except Failure Unit :=
  if plan.salesOnly then .error .salesOnly
  else if order.usePaymentSystem ≠ plan.paid then .error .paymentNotAllowed
  else if order.trial.any (· ≠ plan.trialDuration) then .error .trialNotAllowed
  else if !order.properties.isEmpty then .error .customProperties
  else .ok ()

/-- The properties of a plan with other values for some of them. -/
def overridden (plan : Properties) (changes : Properties) : Except Failure Properties :=
  if changes.keys.all plan.contains then
    .ok (changes.entries.foldl (fun d e => d.insert e.1 e.2) plan)
  else .error .unknownProperty

/-- The subscription that an order asks for, before its service has seen it. -/
def draft (ctx : Context) (order : Order) (plan : Plan) : Except Failure Subscription := do
  let usePaymentSystem := order.usePaymentSystem && plan.paid
  let properties ← overridden plan.properties order.properties
  let s := Subscription.ofPlan (ctx.newId "subscription") order.account plan usePaymentSystem
    properties
  match order.trial with
  | some days => s.startTrial ctx.now days
  | none => .ok s

/-- A subscription to be stored, with its service and the roles of the caller in its account. -/
structure Proposal where
  subscription : Subscription
  service : Service
  roles : RoleSet

/-- All that is checked before the service sees a new subscription. -/
def propose (ctx : Context) (s : Store) (caller : Caller) (body : Bytes) :
    Except Failure Proposal := do
  caller.require Role.platform
  let order ← Order.ofBody body
  let roles ← rolesFor s caller order.account [Role.accountOwner]
  if order.trial.any (· < 0) then .error .negativeTrial
  else
    let plan ← s.plan order.plan
    let service ← ctx.registry.known plan.service
    if caller.isPrivileged then pure () else order.checkTerms plan
    .ok ⟨← draft ctx order plan, service, roles⟩

/-- Subscribes an account to a plan. -/
def subscribe (ctx : Context) (s : Store) (caller : Caller) (body : Bytes) :
    Outcome SubscriptionDescriptor :=
  match propose ctx s caller body with
  | .error f => .refused s f
  | .ok p =>
    let before : ServiceCall := ⟨.before, p.service.id, p.subscription⟩
    match p.service.before p.subscription with
    | .error f => ⟨.error f, s, [before]⟩
    | .ok v =>
      match s.addSubscription v with
      | .error f => ⟨.error f, s, [before]⟩
      | .ok t =>
        let answer := (p.service.after v).map fun () => v.descriptor ctx.baseUrl caller p.roles
        ⟨answer, t, [before, ⟨.after, p.service.id, v⟩]⟩

/-- The active subscription with an id, if the caller may remove it. -/
def removable (s : Store) (caller : Caller) (id : String) : Except Failure Subscription := do
  caller.require Role.platform
  let v ← s.subscription id
  let _ ← rolesFor s caller v.account [Role.accountOwner]
  if v.isActive then .ok v else .error (.alreadyInactive id)

/-- Makes a subscription inactive. -/
def unsubscribe (ctx : Context) (s : Store) (caller : Caller) (id : String) : Outcome Unit :=
  match removable s caller id with
  | .error f => .refused s f
  | .ok v =>
    let v := { v with state := .inactive }
    match s.updateSubscription v with
    | .error f => .refused s f
    | .ok t =>
      match ctx.registry.get? v.service with
      | some service => ⟨service.removed v, t, [⟨.removed, service.id, v⟩]⟩
      | none => ⟨.ok (), t, []⟩

/-- Shows a subscription. -/
def subscription (ctx : Context) (s : Store) (caller : Caller) (id : String) :
    Except Failure SubscriptionDescriptor := do
  caller.require Role.platform
  let v ← s.subscription id
  let there ← rolesFor s caller v.account [Role.accountOwner, Role.accountMember]
  .ok (v.descriptor ctx.baseUrl caller there)

end CloudIde.Platform
