import CloudIde.Platform.Subscribing
import CloudIde.Proofs.Reading

/-!
# What subscribing and unsubscribing check

`propose_ok` and `removable_ok` say all that has been found to be so when a subscription is proposed
to its service, and when one is about to be made inactive. In both, the account whose owner the
caller has to be is the account of the subscription itself: the order names it in the one case, the
stored row in the other.
-/

namespace CloudIde.Platform

variable {ctx : Context} {s : Store} {caller : Caller}

theorem rolesFor_ok {account : String} {needed : List String} {there : RoleSet}
    (h : rolesFor s caller account needed = .ok there) :
    caller.isPrivileged = true ∧ there = RoleSet.empty ∨
      s.accountRoles account caller.user = .ok there ∧ ∃ role ∈ needed, role ∈ there := by
  unfold rolesFor at h
  split at h
  · next hpriv =>
    cases h
    exact Or.inl ⟨hpriv, rfl⟩
  · obtain ⟨roles, hroles, h⟩ := bind_eq_ok.1 h
    split at h
    · next hany =>
      cases h
      refine Or.inr ⟨hroles, ?_⟩
      simpa using hany
    · exact absurd h (by simp)

/-- A caller who is not privileged and may act for an account owns it. -/
theorem rolesFor_owner {account : String} {there : RoleSet} (hpriv : caller.isPrivileged = false)
    (h : rolesFor s caller account [Role.accountOwner] = .ok there) :
    s.Gives account caller.user Role.accountOwner := by
  rcases rolesFor_ok h with ⟨hyes, -⟩ | ⟨hroles, role, hrole, hthere⟩
  · exact absurd hyes (by simp [hpriv])
  · cases List.mem_singleton.1 hrole
    exact Store.accountRoles_mem hroles hthere

/-- A draft is for the account of the order, and takes service and plan from the plan. -/
theorem draft_ok {order : Order} {plan : Plan} {v : Subscription}
    (h : draft ctx order plan = .ok v) :
    v.id = ctx.newId "subscription" ∧ v.account = order.account ∧ v.service = plan.service
      ∧ v.plan = plan.id ∧ v.state = .active := by
  obtain ⟨properties, _, h⟩ := bind_eq_ok.1 h
  split at h
  · unfold Subscription.startTrial at h
    split at h
    · exact absurd h (by simp)
    · cases h
      exact ⟨rfl, rfl, rfl, rfl, rfl⟩
  · cases h
    exact ⟨rfl, rfl, rfl, rfl, rfl⟩

/-- All that is found before a service sees a new subscription. -/
structure Proposed (ctx : Context) (s : Store) (caller : Caller) (body : Bytes) (p : Proposal)
    (order : Order) (plan : Plan) : Prop where
  platform : caller.require Role.platform = .ok ()
  ordered : Order.ofBody body = .ok order
  entitled : rolesFor s caller order.account [Role.accountOwner] = .ok p.roles
  forwards : order.trial.any (· < 0) = false
  planned : s.plan order.plan = .ok plan
  served : ctx.registry.known plan.service = .ok p.service
  agreed : caller.isPrivileged = false → order.checkTerms plan = .ok ()
  drafted : draft ctx order plan = .ok p.subscription

theorem propose_ok {body : Bytes} {p : Proposal} (h : propose ctx s caller body = .ok p) :
    ∃ order plan, Proposed ctx s caller body p order plan := by
  obtain ⟨_, hrole, h⟩ := bind_eq_ok.1 h
  obtain ⟨order, horder, h⟩ := bind_eq_ok.1 h
  obtain ⟨roles, hroles, h⟩ := bind_eq_ok.1 h
  split at h
  · exact absurd h (by simp)
  · next htrial =>
    obtain ⟨plan, hplan, h⟩ := bind_eq_ok.1 h
    obtain ⟨service, hservice, h⟩ := bind_eq_ok.1 h
    have htrial : order.trial.any (· < 0) = false := by simpa using htrial
    simp only at h
    split at h
    · -- privileged callers need not take the plan as it is offered
      next hpriv =>
      obtain ⟨v, hdraft, h⟩ := bind_eq_ok.1 h
      cases h
      exact ⟨order, plan, hrole, horder, hroles, htrial, hplan, hservice,
        fun hno => absurd hpriv (by simp [hno]), hdraft⟩
    · obtain ⟨_, hterms, h⟩ := bind_eq_ok.1 h
      obtain ⟨v, hdraft, h⟩ := bind_eq_ok.1 h
      cases h
      exact ⟨order, plan, hrole, horder, hroles, htrial, hplan, hservice, fun _ => hterms, hdraft⟩

theorem known_mem {registry : Registry} {id : String} {service : Service}
    (h : registry.known id = .ok service) : service ∈ registry.services ∧ service.id = id := by
  unfold Registry.known at h
  split at h
  · next found hfound =>
    cases h
    exact ⟨List.mem_of_find?_eq_some hfound, by simpa using List.find?_some hfound⟩
  · exact absurd h (by simp)

theorem removable_ok {id : String} {v : Subscription} (h : removable s caller id = .ok v) :
    caller.require Role.platform = .ok () ∧ s.subscription id = .ok v
      ∧ (∃ there, rolesFor s caller v.account [Role.accountOwner] = .ok there)
      ∧ v.isActive = true := by
  obtain ⟨_, hrole, h⟩ := bind_eq_ok.1 h
  obtain ⟨w, hw, h⟩ := bind_eq_ok.1 h
  obtain ⟨there, hthere, h⟩ := bind_eq_ok.1 h
  split at h
  · next hactive =>
    cases h
    exact ⟨hrole, hw, ⟨there, hthere⟩, hactive⟩
  · exact absurd h (by simp)

end CloudIde.Platform
