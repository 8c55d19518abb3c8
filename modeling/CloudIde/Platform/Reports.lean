import CloudIde.Platform.Outcome

/-!
# What an account is subscribed to and what it uses

The members of an account and privileged callers see its active subscriptions, all or the one to a
service, and what is used under them. Services report in the order of their ids; the first that
fails ends the report.
-/

namespace CloudIde.Platform

/-- The roles that see what an account is subscribed to. -/
def readers : List String :=
  [Role.accountMember, Role.accountOwner, Role.systemAdmin, Role.systemManager]

/-- Lists the active subscriptions of an account; when a service is named, only the one to it. -/
def activeSubscriptions (ctx : Context) (s : Store) (caller : Caller) (account : String)
    (service : Option String) : Except Failure (List SubscriptionDescriptor) := do
  let there ← s.accountRoles account caller.user
  caller.requireScoped there readers
  let _ ← s.account account
  let found ← match service.filter fun name => !name.isEmpty with
    | none => s.activeSubscriptions account
    | some name => do .ok (← s.activeSubscription account name).toList
  .ok (found.map fun v => v.descriptor ctx.baseUrl caller there)

/-- What is reported by some services, with the calls of the services. -/
def usagesOf (ctx : Context) (s : Store) (account : String) :
    List Service → Except Failure (List SubscriptionUsage) × List ServiceCall
  | [] => (.ok [], [])
  | service :: rest =>
    match s.activeSubscription account service.id with
    | .error f => (.error f, [])
    | .ok none => usagesOf ctx s account rest
    | .ok (some v) =>
      let call : ServiceCall := ⟨.usage, service.id, v⟩
      match service.usage v with
      | .error f => (.error f, [call])
      | .ok resources =>
        let (others, calls) := usagesOf ctx s account rest
        (others.map fun list => ⟨resources.used, v.reference ctx.baseUrl⟩ :: list, call :: calls)

/-- The services that are to report: all, or the one that is named. -/
def reporting (ctx : Context) (s : Store) (caller : Caller) (account : String)
    (service : Option String) : Except Failure (List Service) := do
  let there ← s.accountRoles account caller.user
  caller.requireScoped there readers
  match service with
  | none => .ok ctx.registry.services
  | some id => do .ok [← ctx.registry.known id]

/-- Reports what is used under the active subscriptions of an account. -/
def usages (ctx : Context) (s : Store) (caller : Caller) (account : String)
    (service : Option String) : Outcome (List SubscriptionUsage) :=
  match reporting ctx s caller account service with
  | .error f => .refused s f
  | .ok services =>
    let (answer, calls) := usagesOf ctx s account services
    ⟨answer, s, calls⟩

end CloudIde.Platform
