import CloudIde.Proofs.CallHistory
import CloudIde.Proofs.Refusals
import CloudIde.Proofs.Terms

/-!
# Subscriptions and their plans

Where services take subscriptions as they are, every stored subscription follows a stored plan, and
the plan offers a registered service. `Orderly` is the invariant: a plan is checked when it is made
and never changes, a subscription is drafted from one, and giving it up changes its state alone.

So a subscription that is given up has a service to tell, and whoever asks for one is not told that
the service is unknown.
-/

namespace CloudIde

namespace Store

variable {services : List String} {s t : Store}

/-- The plans that may be made where some services are registered. -/
structure Offers (services : List String) (p : Plan) : Prop where
  named : p.id ≠ ""
  served : p.service ∈ services
  forwards : 0 ≤ p.trialDuration

/-- Plans offer registered services, and subscriptions follow plans. The ids of subscriptions are
made of digits. -/
structure Orderly (services : List String) (s : Store) : Prop where
  plan : ∀ row ∈ s.plans.rows, ∃ p, row = .ofPlan p ∧ Offers services p
  subscription : ∀ row ∈ s.subscriptions.rows, ∃ v p, row = .ofSubscription v ∧
    .ofPlan p ∈ s.plans.rows ∧ Follows v p ∧
      ∃ digits, v.id = Identifier.ofDigits "subscription" Identifier.size digits

theorem orderly_empty : Orderly services empty where
  plan _ hrow := absurd hrow List.not_mem_nil
  subscription _ hrow := absurd hrow List.not_mem_nil

theorem Orderly.of_tables (h : Orderly services s) (hplans : t.plans = s.plans)
    (hsubscriptions : t.subscriptions = s.subscriptions) : Orderly services t where
  plan := by
    rw [hplans]
    exact h.plan
  subscription := by
    rw [hplans, hsubscriptions]
    exact h.subscription

theorem orderly_plan {p : Plan} {T : Table PlanRow} (h : Orderly services s)
    (hT : s.plans.Inserted (.ofPlan p) T) (hp : Offers services p) :
    Orderly services { s with plans := T } where
  plan := by
    intro row hrow
    rcases hT.mem_iff.1 hrow with rfl | hrow
    · exact ⟨p, rfl, hp⟩
    · exact h.plan row hrow
  subscription := by
    intro row hrow
    obtain ⟨v, q, hv, hq, hfollows⟩ := h.subscription row hrow
    exact ⟨v, q, hv, hT.mem_iff.2 (Or.inr hq), hfollows⟩

theorem orderly_inactive {id : String} {T : Table SubscriptionRow} (h : Orderly services s)
    (hT : T.rows = s.subscriptions.rows.map fun row =>
      if row.id = .text id then row.inactive else row) :
    Orderly services { s with subscriptions := T } where
  plan := h.plan
  subscription := by
    intro row hrow
    have hrow : row ∈ T.rows := hrow
    rw [hT] at hrow
    obtain ⟨other, hother, rfl⟩ := List.mem_map.1 hrow
    obtain ⟨v, p, rfl, hp, hfollows, hid⟩ := h.subscription other hother
    split
    · -- the state is nothing to the plan
      exact ⟨v.inactive, p, SubscriptionRow.ofSubscription_inactive v, hp, { hfollows with }, hid⟩
    · exact ⟨v, p, rfl, hp, hfollows, hid⟩

/-- The plan with an id is stored, and is what stored plans are. -/
theorem plan_stored {Q : Plan → Prop} (h : ∀ row ∈ s.plans.rows, ∃ p, row = .ofPlan p ∧ Q p)
    {id : String} {p : Plan} (hp : s.plan id = .ok p) :
    .ofPlan p ∈ s.plans.rows ∧ p.id = id ∧ Q p := by
  obtain ⟨_, _, hp⟩ := bind_eq_ok.1 hp
  split at hp
  · next row hrow =>
    obtain ⟨hmem, hkey⟩ := Table.find?_mem hrow
    obtain ⟨q, rfl, hq⟩ := h row hmem
    rw [PlanRow.readOne_ofPlan] at hp
    cases hp
    exact ⟨hmem, by simpa [Row.key, PlanRow.ofPlan] using hkey, hq⟩
  · exact absurd hp (by simp)

theorem Orderly.plan_ok (h : Orderly services s) {id : String} {p : Plan} (hp : s.plan id = .ok p) :
    .ofPlan p ∈ s.plans.rows ∧ Offers services p := by
  obtain ⟨hmem, -, hoffers⟩ := plan_stored h.plan hp
  exact ⟨hmem, hoffers⟩

theorem Written.plan_found (hs : Written s) {p : Plan} (hp : .ofPlan p ∈ s.plans.rows) :
    s.plan p.id = .ok p := by
  have hfind : s.plans.find? [.text p.id] = some (.ofPlan p) :=
    Table.find?_eq hs.made.plans hp rfl
  unfold Store.plan
  rw [Table.naming_made hs.made.plans, hfind]
  exact PlanRow.readOne_ofPlan p

/-- The service of a subscription that is stored is registered. -/
theorem Orderly.served (ho : Orderly services s) {v : Subscription}
    (hv : .ofSubscription v ∈ s.subscriptions.rows) : v.service ∈ services := by
  obtain ⟨w, p, hw, hp, hfollows, -⟩ := ho.subscription _ hv
  obtain ⟨q, hq, hoffers⟩ := ho.plan _ hp
  have hsame : v.service = w.service := Cell.text.inj (congrArg SubscriptionRow.service hw)
  have hplan : p.service = q.service := Cell.text.inj (congrArg PlanRow.service hq)
  rw [hsame, hfollows.service, hplan]
  exact hoffers.served

/-- What plans and subscriptions are to each other, as they are read. -/
structure Consistent (services : List String) (s : Store) : Prop where
  plan : ∀ row ∈ s.plans.rows, ∃ p, row = .ofPlan p ∧ s.plan p.id = .ok p ∧ Offers services p
  subscription : ∀ row ∈ s.subscriptions.rows, ∃ v p, row = .ofSubscription v ∧
    s.subscription v.id = .ok v ∧ (∃ a, s.account v.account = .ok a) ∧ s.plan v.plan = .ok p ∧
      Follows v p

theorem Orderly.consistent (hs : Written s) (ho : Orderly services s) :
    Consistent services s where
  plan := by
    intro row hrow
    obtain ⟨p, rfl, hoffers⟩ := ho.plan row hrow
    exact ⟨p, rfl, hs.plan_found hrow, hoffers⟩
  subscription := by
    intro row hrow
    obtain ⟨v, p, rfl, hp, hfollows, -⟩ := ho.subscription row hrow
    obtain ⟨w, hw, haccount⟩ := hs.subscription _ hrow
    have hsame : v.account = w.account := Cell.text.inj (congrArg SubscriptionRow.account hw)
    rw [← hsame] at haccount
    refine ⟨v.floorDates, p, (SubscriptionRow.ofSubscription_floorDates v).symm,
      hs.subscription_found hrow, hs.account_found haccount, ?_, hfollows.floorDates⟩
    rw [hfollows.floorDates.plan]
    exact hs.plan_found hp

end Store

namespace Http

open Store Platform

variable {services : List String} {ctx : Context} {s : Store} {caller : Caller}

/-- Circumstances in which some services are registered, and take subscriptions as they are. -/
structure Faithful (services : List String) (ctx : Context) : Prop where
  registered : ctx.registry.ids = services
  keeps : ∀ service ∈ ctx.registry.services, ∀ v w, service.before v = .ok w → w = v

theorem Faithful.get? (h : Faithful services ctx) {id : String} (hid : id ∈ services) :
    ∃ service, ctx.registry.get? id = some service := by
  rw [← h.registered, ← Registry.get?_isSome] at hid
  exact Option.isSome_iff_exists.1 hid

theorem Faithful.known_mem (h : Faithful services ctx) {id : String} {service : Service}
    (hknown : ctx.registry.known id = .ok service) : id ∈ services := by
  rw [← h.registered, ← Registry.get?_isSome, Registry.get?_of_known hknown]
  rfl

/-- The subscription that is proposed follows the plan of the order. -/
theorem propose_follows {body : Bytes} {p : Proposal} (h : propose ctx s caller body = .ok p) :
    ∃ id plan, s.plan id = .ok plan ∧ Follows p.subscription plan ∧
      p.subscription.id = ctx.newId "subscription" ∧ p.service ∈ ctx.registry.services := by
  obtain ⟨order, plan, hp⟩ := propose_ok h
  have hfollows := draft_follows hp.drafted (ofBody_trial hp.ordered) hp.forwards
  exact ⟨order.plan, plan, hp.planned, hfollows, (draft_ok hp.drafted).1, (known_mem hp.served).1⟩

theorem Effect.orderly (hctx : Faithful services ctx) (hs : Written s) (ho : Orderly services s)
    {op : Operation} {reply : Reply} (h : Effect ctx s caller op reply) :
    Orderly services reply.store := by
  have hframe := h.frame
  cases h with
  | looked | refused => exact ho
  | @planMade p service t _ hid hservice htrial ht =>
    obtain ⟨T, hT, rfl⟩ := createPlan_ok ht
    refine orderly_plan ho hT ⟨?_, hctx.known_mem hservice, ?_⟩
    · simpa using hid
    · have hnot : ¬ p.trialDuration < 0 := fun hneg => by simp [hneg] at htrial
      exact Int32.not_lt.1 hnot
  | @subscribed body p v t hp hv ht =>
    obtain ⟨id, plan, hplan, hfollows, hid, hservice⟩ := propose_follows hp
    obtain rfl := hctx.keeps p.service hservice p.subscription v hv
    obtain ⟨T, hT, rfl⟩ := (insertSubscription_ok (addSubscription_ok ht)).only
    refine { ho with subscription := ?_ }
    intro row hrow
    rcases hT.mem_iff.1 hrow with rfl | hrow
    · exact ⟨_, plan, rfl, (ho.plan_ok hplan).1, hfollows, ctx.digits, hid⟩
    · exact ho.subscription row hrow
  | unsubscribed hv ht _ | unsubscribedQuietly hv ht _ =>
    obtain ⟨hrows, -⟩ := hs.replace_inactive (removable_ok hv).2.1
    obtain rfl := (updateSubscription_ok ht).only
    exact orderly_inactive ho hrows
  | _ =>
    exact ho.of_tables (hframe.plans.resolve_left (by simp [Operation.writes]))
      (hframe.subscriptions.resolve_left (by simp [Operation.writes]))

theorem Reached.orderly (h : Reached (Faithful services) s) : Orderly services s := by
  induction h with
  | empty => exact orderly_empty
  | next h ctx hctx r ih =>
    exact respond_keeps ih (fun heffect => heffect.orderly hctx h.written ih) r

/-! ## What requests meet -/

/-- **Nobody is told that a service is unknown** before the service of an order has been asked. -/
theorem propose_fails (hctx : Faithful services ctx) (hs : Written s) (ho : Orderly services s)
    (body : Bytes) : FailsWith Elsewise (propose ctx s caller body) := by
  have hdenied : Elsewise .accessDenied := by decide +kernel
  refine FailsWith.bind ?_ fun _ _ => ?_
  · rcases caller.requireScoped_cases RoleSet.empty Role.platform with hok | hdeny
    · rw [Caller.require, hok]
      exact .ok _
    · rw [Caller.require, hdeny]
      exact .error hdenied
  refine (ofBody_fails body).bind fun order _ => ?_
  refine ((rolesFor_fails hs _ _).mono fun f hf => hf ▸ hdenied).bind fun roles _ => ?_
  split
  · exact .error (by decide +kernel)
  · refine (plan_fails hs order.plan).bind fun plan hplan => ?_
    -- a plan that is stored offers a registered service
    obtain ⟨service, hservice⟩ := hctx.get? (ho.plan_ok hplan).2.served
    rw [Registry.known_of_get? hservice, ok_bind]
    have hdraft : FailsWith Elsewise (do
        let v ← draft ctx order plan
        .ok (⟨v, service, roles⟩ : Proposal)) := by
      refine FailsWith.bind ((draft_fails order plan).mono fun f hf => ?_) fun v _ => .ok _
      rcases hf with rfl | rfl
      · decide +kernel
      · decide +kernel
    simp only
    split
    · exact hdraft
    · exact (checkTerms_fails order plan).bind fun _ _ => hdraft

/-- A service that was called has failed like this. -/
def Blamed (ctx : Context) (calls : List ServiceCall) (f : Failure) : Prop :=
  ∃ c ∈ calls, ∃ service, ctx.registry.get? c.service = some service ∧
    (c.part = .before ∧ service.before c.subscription = .error f ∨
      c.part = .after ∧ service.after c.subscription = .error f)

/-- Who says that a service is unknown when a subscription is asked for. -/
theorem subscribe_blames (hctx : Faithful services ctx) (hs : Written s) (ho : Orderly services s)
    (body : Bytes) {f : Failure} (h : (subscribe ctx s caller body).answer = .error f)
    (hf : ¬ Elsewise f) : Blamed ctx (subscribe ctx s caller body).calls f := by
  have hget {p : Proposal} (hp : propose ctx s caller body = .ok p) :
      ctx.registry.get? p.service.id = some p.service := by
    obtain ⟨order, plan, hproposed⟩ := propose_ok hp
    exact Registry.get?_of_mem (known_mem hproposed.served).1
  have houtcome := subscribe_outcome ctx s caller body
  generalize subscribe ctx s caller body = outcome at houtcome h ⊢
  cases houtcome with
  | unproposed hg =>
    cases h
    exact absurd (propose_fails hctx hs ho body _ hg) hf
  | @vetoed p g hp hg =>
    cases h
    exact ⟨_, List.mem_cons_self, p.service, hget hp, Or.inl ⟨rfl, hg⟩⟩
  | @unstored _ v _ _ _ hg =>
    cases h
    exact absurd (addSubscription_fails hs v _ hg) hf
  | @stored p v _ hp _ _ =>
    have hafter : p.service.after v = .error f := map_eq_error.1 h
    exact ⟨_, List.mem_cons_of_mem _ List.mem_cons_self, p.service, hget hp, Or.inr ⟨rfl, hafter⟩⟩

theorem respond_blames (hctx : Faithful services ctx) (hs : Written s) (ho : Orderly services s)
    {r : Request} (hmethod : r.method = "POST")
    (hpath : Resource.ofPath? r.path = some .subscriptions) {f : Failure}
    (h : (respond ctx s r).response.content = .failure f) (hf : ¬ Elsewise f) :
    Blamed ctx (respond ctx s r).calls f := by
  rcases respond_subscribing ctx s hmethod hpath with
    ⟨response, hreply, hwhy⟩ | ⟨caller, -, hreply⟩
  · rw [hreply] at h
    rcases hwhy with rfl | ⟨text, rfl⟩
    · obtain rfl : Failure.missingIdentity = f := Content.failure.inj h
      exact absurd (by decide +kernel) hf
    · exact absurd h (by simp [Reply.unchanged, Response.plain])
  · rw [hreply] at h ⊢
    refine subscribe_blames hctx hs ho r.body ?_ hf
    generalize subscribe ctx s caller r.body = outcome at h
    obtain ⟨answer, t, calls⟩ := outcome
    cases answer with
    | ok shown => exact absurd h (by simp [Reply.made, Reply.ofOutcome])
    | error g => exact congrArg Except.error (Content.failure.inj h)

/-- What requests about subscriptions meet. -/
structure Meets (ctx : Context) (s : Store) (r : Request) (reply : Reply) : Prop where
  /-- Who gives up a subscription has its service told, as there is one. -/
  removing : r.method = "DELETE" → ∀ raw, Resource.ofPath? r.path = some (.subscription raw) →
    ∀ v, Ended s reply.store v → ∃ service, ctx.registry.get? v.service = some service ∧
      reply.calls = [⟨.removed, service.id, v.floorDates.inactive⟩]
  /-- Who asks for one is not told that a service is unknown, unless by a service. -/
  subscribing : r.method = "POST" → Resource.ofPath? r.path = some .subscriptions →
    ∀ f, reply.response.content = .failure f → f.message = "Unknown serviceId is used" →
      Blamed ctx reply.calls f

theorem respond_meets (hctx : Faithful services ctx) (hs : Written s) (ho : Orderly services s)
    (r : Request) : Meets ctx s r (respond ctx s r) where
  removing := by
    intro hmethod raw hpath v hended
    obtain ⟨service, hservice⟩ := hctx.get? (ho.served hended.there)
    cases respond_removal ctx hs hmethod hpath with
    | quiet hnone _ =>
      rw [hnone v hended] at hservice
      exact absurd hservice (by simp)
    | @told w service' hw _ honly hservice' hcalls =>
      have hsame : SubscriptionRow.ofSubscription v = .ofSubscription w :=
        hs.row_eq hended.there hw.there (congrArg Cell.text (honly v hended))
      have hserved : v.service = w.service :=
        Cell.text.inj (congrArg SubscriptionRow.service hsame)
      rw [SubscriptionRow.floorDates_eq hsame, hserved]
      exact ⟨service', hservice', hcalls⟩
  subscribing hmethod hpath f hcontent hmessage :=
    respond_blames hctx hs ho hmethod hpath hcontent (fun hf => hf hmessage)

/-- **Subscriptions follow their plans.** In every store that requests have made while some services
were registered that take subscriptions as they are, plans offer these services and subscriptions
follow stored plans. So to give up a subscription always has a service told, and the service of an
order is never unknown. -/
theorem plans_followed (services : List String) (s : Store)
    (hs : Reached (Faithful services) s) :
    Consistent services s ∧ ∀ ctx, Faithful services ctx → ∀ r,
      Meets ctx s r (respond ctx s r) :=
  ⟨hs.orderly.consistent hs.written,
    fun _ hctx r => respond_meets hctx hs.written hs.orderly r⟩

theorem mailOnly_faithful : Faithful ["mail"] mailOnly where
  registered := rfl
  keeps := by
    intro service hservice v w hw
    cases List.mem_singleton.1 hservice
    exact (Except.ok.inj hw).symm

/-- The subscription to mail is one to the basic plan. -/
theorem plans_followed_mail :
    Consistent ["mail"] (History.store .empty subscribedToMail) ∧
      (History.store .empty subscribedToMail).subscriptions.rows.length = 1 ∧
        Meets mailOnly (History.store .empty subscribedToMail)
          (administering "DELETE" "/api/account/subscriptions/subscription" "")
          (respond mailOnly (History.store .empty subscribedToMail)
            (administering "DELETE" "/api/account/subscriptions/subscription" "")) := by
  have hreached : Reached (Faithful ["mail"]) (History.store .empty subscribedToMail) := by
    refine History.reached .empty subscribedToMail fun e he => ?_
    rw [mailOnly_always e (List.mem_append_left _ he)]
    exact mailOnly_faithful
  obtain ⟨hconsistent, hmeets⟩ := plans_followed ["mail"] _ hreached
  exact ⟨hconsistent, by decide +kernel, hmeets mailOnly mailOnly_faithful _⟩

end Http

end CloudIde
