import CloudIde.Proofs.Entitlement
import CloudIde.Proofs.PlansFollowed
import CloudIde.Proofs.Unreadable

/-!
# Where links lead

A descriptor of a subscription has links, and a caller can follow them. Whether a link is offered
and whether it can be followed is decided in different places, and in different terms: what is
offered depends on the roles that the caller holds everywhere, too, while only stored memberships
count when the link is followed. `links_lead` says exactly where they agree: for everybody who is
entitled, and for everybody who holds no roles of accounts everywhere. For the others a link can
lead nowhere (`removal_refused`).
-/

namespace CloudIde.Http

open Store Platform

variable {ctx : Context} {s t : Store} {caller : Caller}

/-- The descriptors of subscriptions in a content. -/
def Content.descriptors : Content → List SubscriptionDescriptor
  | .shown (.subscription d) => [d]
  | .shown (.subscriptions ds) => ds
  | _ => []

/-- A descriptor shows a stored subscription to a caller, who has some roles in its account. -/
structure Shows (ctx : Context) (t : Store) (caller : Caller) (d : SubscriptionDescriptor)
    (v : Subscription) (there : RoleSet) : Prop where
  descriptor : d = v.descriptor ctx.baseUrl caller there
  stored : .ofSubscription v ∈ t.subscriptions.rows
  roles : caller.isPrivileged = true ∨ t.accountRoles v.account caller.user = .ok there
  /-- Somebody sees the subscription for a role. -/
  reader : caller.isPrivileged = true ∨
    ∃ role ∈ Role.account, caller.hasRole role = true ∨ role ∈ there

/-- Of what is looked for in contents and no failure has, a reply has what the answer has. -/
theorem ofOutcome_parts {α β : Type} {status : Nat} {content : α → Content} {o : Outcome α}
    {parts : Content → List β} (hnone : ∀ f, parts (.failure f) = []) {b : β}
    (h : b ∈ parts (Reply.ofOutcome status content o).response.content) :
    ∃ a, o.answer = .ok a ∧ b ∈ parts (content a) := by
  obtain ⟨answer, t, calls⟩ := o
  cases answer with
  | error f => exact absurd (hnone f ▸ h) List.not_mem_nil
  | ok a => exact ⟨a, rfl, h⟩

theorem ofOutcome_descriptors {α : Type} {status : Nat} {content : α → Content} {o : Outcome α}
    {d : SubscriptionDescriptor}
    (h : d ∈ (Reply.ofOutcome status content o).response.content.descriptors) :
    ∃ a, o.answer = .ok a ∧ d ∈ (content a).descriptors :=
  ofOutcome_parts (fun _ => rfl) h

/-- The roles for which something is done, as roles for which it is seen. -/
theorem reader_of_rolesFor {account : String} {needed : List String} {there : RoleSet}
    (h : rolesFor s caller account needed = .ok there)
    (hneeded : ∀ role ∈ needed, role ∈ Role.account) :
    (caller.isPrivileged = true ∨ s.accountRoles account caller.user = .ok there) ∧
      (caller.isPrivileged = true ∨
        ∃ role ∈ Role.account, caller.hasRole role = true ∨ role ∈ there) := by
  rcases rolesFor_ok h with ⟨hpriv, -⟩ | ⟨hroles, role, hrole, hthere⟩
  · exact ⟨Or.inl hpriv, Or.inl hpriv⟩
  · exact ⟨Or.inr hroles, Or.inr ⟨role, hneeded role hrole, Or.inr hthere⟩⟩

/-- Who subscribes an account is shown what is stored then, and is privileged or owns the
account. -/
theorem subscribe_shows (hplain : AllPlain ctx.registry) {body : Bytes} {d : SubscriptionDescriptor}
    (h : (subscribe ctx s caller body).answer = .ok d) :
    ∃ v there, Shows ctx (subscribe ctx s caller body).store caller d v there ∧
      (caller.isPrivileged = true ∨ Role.accountOwner ∈ there) := by
  have houtcome := subscribe_outcome ctx s caller body
  generalize subscribe ctx s caller body = outcome at houtcome h ⊢
  cases houtcome with
  | unproposed | vetoed | unstored => exact absurd h (by simp)
  | @stored p v t hp hv ht =>
    obtain ⟨order, plan, hproposed⟩ := propose_ok hp
    -- a default service leaves the subscription as it was proposed
    rw [hplain p.service (known_mem hproposed.served).1] at hv
    obtain rfl : p.subscription = v := Except.ok.inj hv
    obtain ⟨_, _, hd⟩ := map_eq_ok.1 h
    obtain ⟨T, hT, rfl⟩ := (insertSubscription_ok (addSubscription_ok ht)).only
    obtain ⟨hroles, hreader⟩ := reader_of_rolesFor hproposed.entitled (by decide)
    rw [← (draft_ok hproposed.drafted).2.1] at hroles
    refine ⟨p.subscription, p.roles,
      ⟨hd.symm, hT.mem_iff.2 (Or.inl rfl), hroles, hreader⟩, ?_⟩
    rcases rolesFor_ok hproposed.entitled with ⟨hpriv, -⟩ | ⟨-, role, hrole, hthere⟩
    · exact Or.inl hpriv
    · exact Or.inr (List.mem_singleton.1 hrole ▸ hthere)

theorem subscription_shows (hs : Written s) {id : String} {d : SubscriptionDescriptor}
    (h : Platform.subscription ctx s caller id = .ok d) :
    ∃ v there, Shows ctx s caller d v there := by
  obtain ⟨_, _, h⟩ := bind_eq_ok.1 h
  obtain ⟨v, hv, h⟩ := bind_eq_ok.1 h
  obtain ⟨there, hthere, h⟩ := bind_eq_ok.1 h
  cases h
  obtain ⟨hroles, hreader⟩ := reader_of_rolesFor hthere (by decide)
  exact ⟨v, there, rfl, hs.subscription_stored hv, hroles, hreader⟩

/-- What is listed is stored, and belongs to the account. -/
theorem activeSubscriptions_found (hs : Written s) {account : String} {service : Option String}
    {ds : List SubscriptionDescriptor}
    (h : activeSubscriptions ctx s caller account service = .ok ds) :
    ∃ there, s.accountRoles account caller.user = .ok there ∧
      caller.requireScoped there readers = .ok () ∧ ∀ d ∈ ds, ∃ v,
        d = v.descriptor ctx.baseUrl caller there ∧
          .ofSubscription v ∈ s.subscriptions.rows ∧ v.account = account := by
  obtain ⟨there, hthere, h⟩ := bind_eq_ok.1 h
  obtain ⟨_, hreader, h⟩ := bind_eq_ok.1 h
  obtain ⟨_, _, h⟩ := bind_eq_ok.1 h
  refine ⟨there, hthere, hreader, fun d hd => ?_⟩
  simp only at h
  split at h
  · obtain ⟨found, hfound, h⟩ := bind_eq_ok.1 h
    cases h
    obtain ⟨v, hv, rfl⟩ := List.mem_map.1 hd
    exact ⟨v, rfl, hs.activeSubscriptions_stored hfound v hv⟩
  · obtain ⟨found, hfound, h⟩ := bind_eq_ok.1 h
    cases h
    obtain ⟨v, hv, rfl⟩ := List.mem_map.1 hd
    obtain rfl := Option.mem_toList.1 hv
    exact ⟨v, rfl, hs.activeSubscription_stored hfound⟩

theorem activeSubscriptions_shows (hs : Written s) (hknown : KnownRoles s) {account : String}
    {service : Option String} {ds : List SubscriptionDescriptor}
    (h : activeSubscriptions ctx s caller account service = .ok ds) {d : SubscriptionDescriptor}
    (hd : d ∈ ds) : ∃ v there, Shows ctx s caller d v there := by
  obtain ⟨there, hthere, hallowed, hfound⟩ := activeSubscriptions_found hs h
  obtain ⟨v, rfl, hv, rfl⟩ := hfound d hd
  refine ⟨v, there, rfl, hv, Or.inr hthere, ?_⟩
  obtain ⟨role, hrole, hholds⟩ := Caller.requireScoped_iff.1 hallowed
  by_cases haccount : role ∈ Role.account
  · exact Or.inr ⟨role, haccount, hholds⟩
  · -- the other roles are those of privileged callers, and no membership gives them
    rcases hholds with heverywhere | hmem
    · refine Or.inl ?_
      simp only [readers, List.mem_cons, List.not_mem_nil, or_false] at hrole
      rcases hrole with rfl | rfl | rfl | rfl
      · exact absurd (by decide) haccount
      · exact absurd (by decide) haccount
      · simp [Caller.isPrivileged, heverywhere]
      · simp [Caller.isPrivileged, heverywhere]
    · exact absurd (hknown.gives (accountRoles_mem hthere hmem)) haccount

/-- A reply shows nothing but what is stored when it is given. -/
theorem perform_shows (hplain : AllPlain ctx.registry) (hs : Written s) (hknown : KnownRoles s)
    {op : Operation} {d : SubscriptionDescriptor}
    (h : d ∈ (op.perform ctx s caller).response.content.descriptors) :
    ∃ v there, Shows ctx (op.perform ctx s caller).store caller d v there := by
  cases op with
  | subscribe body =>
    obtain ⟨a, ha, hd⟩ := ofOutcome_descriptors h
    obtain rfl : d = a := List.mem_singleton.1 hd
    obtain ⟨v, there, hshows, -⟩ := subscribe_shows hplain ha
    exact ⟨v, there, hshows⟩
  | showSubscription id =>
    obtain ⟨a, ha, hd⟩ := ofOutcome_descriptors h
    obtain rfl : d = a := List.mem_singleton.1 hd
    exact subscription_shows hs ha
  | listSubscriptions account service =>
    obtain ⟨ds, hds, hd⟩ := ofOutcome_descriptors h
    exact activeSubscriptions_shows hs hknown hds hd
  | _ =>
    obtain ⟨a, -, hd⟩ := ofOutcome_descriptors h
    exact absurd hd List.not_mem_nil

/-- What a content shows of what is stored. -/
def Content.stored? : Content → Option Payload
  | .shown .health => none
  | .shown payload => some payload
  | .failure _ | .text _ | .nothing => none

/-- A response that shows nothing of what is stored. -/
def Bare (response : Response) : Prop := response.content.stored? = none

/-- A bare response shows no more than whether the service is healthy. -/
theorem Bare.payload {response : Response} (h : Bare response) {payload : Payload}
    (hshown : response.content = .shown payload) : payload = .health := by
  unfold Bare at h
  rw [hshown] at h
  cases payload with
  | health => rfl
  | _ => exact absurd h (by simp [Content.stored?])

theorem Bare.descriptors {response : Response} (h : Bare response) :
    response.content.descriptors = [] := by
  unfold Content.descriptors
  split
  · next hshown => exact absurd (h.payload hshown) Payload.noConfusion
  · next hshown => exact absurd (h.payload hshown) Payload.noConfusion
  · rfl

theorem Rejection.bare {response : Response} (h : Rejection response) : Bare response := by
  obtain ⟨_, _, rfl, -⟩ := h
  rfl

section

variable (r : Request)

theorem operation_fails (resource : Resource) (method : Method) :
    FailsWith Bare (r.operation resource method) := by
  unfold Request.operation
  split
  · exact .error rfl
  · next hhealth =>
    have hwanted : FailsWith Bare (r.wanted resource method) :=
      (wanted_rejects r hhealth method).mono fun _ h => h.bare
    refine FailsWith.bind ?_ fun _ _ => hwanted.bind fun _ _ => .ok _
    unfold Request.caller
    cases Caller.ofHeaders r.headers with
    | ok caller => exact .ok caller
    | error f => exact .error rfl

/-- Without an operation nothing is shown. -/
theorem demand_fails : FailsWith Bare r.demand := by
  unfold Request.demand
  split
  · exact .error rfl
  · next resource _ =>
    split
    · split
      · exact .ok _
      · exact .error rfl
    · split
      · next method _ =>
        split
        · intro response h
          exact operation_fails r resource method response (map_eq_error.1 h)
        · exact .error rfl
      · exact .error rfl

end

/-- What a reply has is had by what comes of the operation, which was asked for with its content. -/
theorem mem_reply {β : Type} {parts : Content → List β} (hnone : parts .nothing = []) {d : Demand}
    {b : β} (h : b ∈ parts (d.reply ctx s).response.content) :
    d.bare = false ∧ b ∈ parts (d.operation.perform ctx s d.caller).response.content := by
  unfold Demand.reply at h
  simp only at h
  split at h
  · exact absurd (hnone ▸ h) List.not_mem_nil
  · next hbare => exact ⟨Bool.eq_false_iff.2 hbare, h⟩

/-- What a response has of what no bare one has comes of an operation. -/
theorem respond_parts {β : Type} {parts : Content → List β}
    (hnone : ∀ {response}, Bare response → parts response.content = []) {r : Request}
    (hcaller : Caller.ofHeaders r.headers = .ok caller) {b : β}
    (h : b ∈ parts (respond ctx s r).response.content) :
    ∃ op : Operation, (respond ctx s r).store = (op.perform ctx s caller).store ∧
      b ∈ parts (op.perform ctx s caller).response.content := by
  cases hd : r.demand with
  | error response =>
    rw [respond_of_no_demand hd] at h
    exact absurd (hnone (demand_fails r response hd) ▸ h) List.not_mem_nil
  | ok demand =>
    obtain ⟨resource, method, hasks⟩ := Request.demand_ok hd
    obtain rfl : demand.caller = caller := Except.ok.inj (hasks.caller.symm.trans hcaller)
    rw [respond_of_demand hd] at h ⊢
    have hnothing : Bare ⟨200, .nothing, none⟩ := rfl
    obtain ⟨-, hmem⟩ := mem_reply (hnone hnothing) h
    exact ⟨demand.operation, Demand.reply_store, hmem⟩

theorem respond_shows (hplain : AllPlain ctx.registry) (hs : Written s) (hknown : KnownRoles s)
    {r : Request} {d : SubscriptionDescriptor} (hcaller : Caller.ofHeaders r.headers = .ok caller)
    (h : d ∈ (respond ctx s r).response.content.descriptors) :
    ∃ v there, Shows ctx (respond ctx s r).store caller d v there := by
  obtain ⟨op, hstore, hmem⟩ := respond_parts Bare.descriptors hcaller h
  rw [hstore]
  exact perform_shows hplain hs hknown hmem

/-! ## Following links -/

/-- A request follows a link: it has the method of the link, and the path that the link leads to
below the base URL. -/
structure Visits (base : String) (link : Link) (r : Request) : Prop where
  method : r.method = link.method
  path : ∃ rest, link.href = base ++ rest ∧ r.path = "/api" ++ rest

/-- What follows the base URL in a link is the path below the prefix of all paths. -/
theorem Visits.path_eq {base rest : String} {link : Link} {r : Request} (h : Visits base link r)
    (hlink : link.href = base ++ rest) : r.path = "/api" ++ rest := by
  obtain ⟨rest', hhref, hpath⟩ := h.path
  have hlists := congrArg String.toList (hhref.symm.trans hlink)
  rw [String.toList_append, String.toList_append] at hlists
  rw [hpath, String.toList_inj.1 (List.append_cancel_left hlists)]

/-- Links to a subscription lead to where it is. -/
theorem Visits.subscription {base id : String} {link : Link} {r : Request} (h : Visits base link r)
    (hlink : link.href = Subscription.href base id) : r.path = subscriptionPath id := by
  rw [Subscription.href, String.append_assoc] at hlink
  rw [h.path_eq hlink, ← String.append_assoc]
  rfl

/-- Where the links of a descriptor lead its reader. -/
structure LinksLead (ctx later : Context) (t : Store) (caller : Caller)
    (d : SubscriptionDescriptor) : Prop where
  /-- A link for removing leads to the removal for whoever is entitled to it. It is offered to
  others as well, who hold the role of owners everywhere; they are refused. -/
  removal : ∀ link ∈ d.links, link.rel = "remove subscription" → ∀ r, Visits ctx.baseUrl link r →
    Caller.ofHeaders r.headers = .ok caller →
      (Entitled t caller d.account [Role.accountOwner] →
        (respond later t r).response.status = 204) ∧
      (¬ Entitled t caller d.account [Role.accountOwner] →
        caller.hasRole Role.accountOwner = true ∧ (respond later t r).response.status = 403)
  /-- Who is not offered to remove a subscription is refused. -/
  noRemoval : d.plan ≠ Subscription.communityPlan →
    (∀ link ∈ d.links, link.rel ≠ "remove subscription") → ∀ r, r.method = "DELETE" →
      r.path = subscriptionPath d.id → Caller.ofHeaders r.headers = .ok caller →
        (respond later t r).response.status = 403
  /-- A link for reading leads to the subscription for whoever is entitled to see it. It is offered
  to others as well, who hold a role of accounts everywhere; they are refused. -/
  reading : ∀ link ∈ d.links, link.rel = "get subscription by id" → ∀ r,
    Visits ctx.baseUrl link r → Caller.ofHeaders r.headers = .ok caller →
      (Entitled t caller d.account [Role.accountOwner, Role.accountMember] →
        (respond later t r).response.status = 200) ∧
      (¬ Entitled t caller d.account [Role.accountOwner, Role.accountMember] →
        (∃ role ∈ Role.account, caller.hasRole role = true) ∧
          (respond later t r).response.status = 403)

section

variable {v : Subscription} {there : RoleSet} {d : SubscriptionDescriptor}

/-- A role in the account makes the caller entitled. -/
theorem Shows.entitled (h : Shows ctx t caller d v there) {role : String} (hrole : role ∈ there)
    {needed : List String} (hneeded : role ∈ needed) : Entitled t caller v.account needed := by
  rcases h.roles with hpriv | hthere
  · exact Or.inl hpriv
  · exact Or.inr ⟨role, hneeded, accountRoles_mem hthere hrole⟩

/-- Whoever owns the account has the role of owners there. -/
theorem Shows.owner (ht : Written t) (h : Shows ctx t caller d v there)
    (hentitled : Entitled t caller v.account [Role.accountOwner]) :
    caller.isPrivileged = true ∨ Role.accountOwner ∈ there := by
  rcases hentitled with hpriv | ⟨role, hrole, hgives⟩
  · exact Or.inl hpriv
  · rcases h.roles with hpriv | hthere
    · exact Or.inl hpriv
    · cases List.mem_singleton.1 hrole
      exact Or.inr (ht.accountRoles_gives hgives hthere)

/-- The links of a descriptor. -/
theorem mem_links {base : String} {link : Link} (h : link ∈ v.links base caller there) :
    v.plan ≠ Subscription.communityPlan ∧ (link = v.getLink base ∨
      link = v.removeLink base ∧ v.offersRemoval caller there = true) := by
  unfold Subscription.links at h
  split at h
  · exact absurd h List.not_mem_nil
  · next hplan =>
    refine ⟨hplan, ?_⟩
    rcases List.mem_cons.1 h with rfl | h
    · exact Or.inl rfl
    · split at h
      · next hoffers => exact Or.inr ⟨List.mem_singleton.1 h, hoffers⟩
      · exact absurd h List.not_mem_nil

theorem removeLink_mem {base : String} (hplan : v.plan ≠ Subscription.communityPlan)
    (hoffers : v.offersRemoval caller there = true) :
    v.removeLink base ∈ v.links base caller there := by
  unfold Subscription.links
  rw [if_neg hplan, if_pos hoffers]
  exact List.mem_cons_of_mem _ List.mem_cons_self

theorem offersRemoval_iff : v.offersRemoval caller there = true ↔ v.isActive = true ∧
    (Role.accountOwner ∈ there ∨ caller.hasRole Role.accountOwner = true ∨
      caller.isPrivileged = true) := by
  simp [Subscription.offersRemoval, or_assoc]

/-- Where the links lead to a subscription that is shown. -/
theorem Shows.linksLead {later : Context} (hplain : AllPlain later.registry) (ht : Written t)
    (hid : TameId v.id) (hplatform : caller.require Role.platform = .ok ())
    (h : Shows ctx t caller d v there) : LinksLead ctx later t caller d where
  removal := by
    intro link hlink hrel r hvisits hcaller
    rw [h.descriptor] at hlink ⊢
    obtain ⟨-, rfl | ⟨rfl, hoffers⟩⟩ := mem_links hlink
    · exact absurd hrel (by simp [Subscription.getLink, Link.get])
    · obtain ⟨hactive, hwhy⟩ := offersRemoval_iff.1 hoffers
      obtain ⟨hremoved, hrefused⟩ := respond_removing_status hplain ht h.stored hid hplatform
        hvisits.method (hvisits.subscription rfl) hcaller
      refine ⟨fun hentitled => hremoved ⟨hentitled, hactive⟩, fun hnot => ⟨?_, hrefused fun hboth =>
        hnot hboth.1⟩⟩
      rcases hwhy with hthere | heverywhere | hpriv
      · exact absurd (h.entitled hthere List.mem_cons_self) hnot
      · exact heverywhere
      · exact absurd (Or.inl hpriv) hnot
  noRemoval := by
    intro hplan hnone r hmethod hpath hcaller
    rw [h.descriptor] at hplan hnone hpath
    obtain ⟨-, hrefused⟩ := respond_removing_status hplain ht h.stored hid hplatform hmethod hpath
      hcaller
    -- whoever could remove it would be offered to
    refine hrefused fun ⟨hentitled, hactive⟩ => ?_
    have hoffers : v.offersRemoval caller there = true := by
      rw [offersRemoval_iff]
      rcases h.owner ht hentitled with hpriv | hthere
      · exact ⟨hactive, Or.inr (Or.inr hpriv)⟩
      · exact ⟨hactive, Or.inl hthere⟩
    exact hnone _ (removeLink_mem hplan hoffers) rfl
  reading := by
    intro link hlink hrel r hvisits hcaller
    rw [h.descriptor] at hlink ⊢
    obtain ⟨-, rfl | ⟨rfl, -⟩⟩ := mem_links hlink
    · refine (respond_showing_status ht h.stored hid hplatform hvisits.method
        (hvisits.subscription rfl) hcaller).imp_right fun hrefused hnot => ⟨?_, hrefused hnot⟩
      rcases h.reader with hpriv | ⟨role, hrole, heverywhere | hthere⟩
      · exact absurd (Or.inl hpriv) hnot
      · exact ⟨role, hrole, heverywhere⟩
      · exact absurd (h.entitled hthere hrole) hnot
    · exact absurd hrel (by simp [Subscription.removeLink, Link.delete])

end

theorem plain_faithful {registry : Registry} (hplain : AllPlain registry)
    (hctx : ctx.registry = registry) : Faithful registry.ids ctx where
  registered := by rw [hctx]
  keeps := by
    intro service hservice v w hw
    rw [hctx] at hservice
    rw [hplain service hservice] at hw
    exact (Except.ok.inj hw).symm

/-- The id of a stored subscription can stand in a path. -/
theorem orderly_tame {services : List String} (h : Orderly services t) {v : Subscription}
    (hv : .ofSubscription v ∈ t.subscriptions.rows) : TameId v.id := by
  obtain ⟨w, p, hw, -, -, digits, hid⟩ := h.subscription _ hv
  have hsame : v.id = w.id := Cell.text.inj (congrArg SubscriptionRow.id hw)
  rw [hsame, hid]
  exact tameId_ofDigits (by decide) (by decide) digits

/-- **Where links lead.** With default services, in the store that a reply leaves, every descriptor
in the reply has links that lead where they say, for each reader who is entitled. The others are
refused, and all of these hold a role of accounts everywhere. Who is not offered a removal cannot
remove. -/
theorem links_lead {registry : Registry} (hplain : AllPlain registry) {s : Store}
    (hs : Reached (·.registry = registry) s) {ctx later : Context}
    (hctx : ctx.registry = registry) (hlater : later.registry = registry) {r : Request}
    {caller : Caller} (hcaller : Caller.ofHeaders r.headers = .ok caller)
    (hplatform : caller.require Role.platform = .ok ()) :
    ∀ d ∈ (respond ctx s r).response.content.descriptors,
      LinksLead ctx later (respond ctx s r).store caller d := by
  intro d hd
  have ht : Reached (·.registry = registry) (respond ctx s r).store := hs.next ctx hctx r
  have horderly := (ht.mono fun ctx hctx => plain_faithful hplain hctx).orderly
  obtain ⟨v, there, hshows⟩ := respond_shows (hctx ▸ hplain) hs.written hs.knownRoles hcaller hd
  have hid : TameId v.id := orderly_tame horderly hshows.stored
  exact hshows.linksLead (hlater ▸ hplain) ht.written hid hplatform

/-- An administrator reads the subscription to mail. -/
def reading : Reply :=
  respond mailOnly (History.store .empty subscribedToMail)
    (administering "GET" "/api/account/subscriptions/subscription" "")

/-- The administrator is offered both links, and may follow them. -/
theorem links_lead_reading :
    ∃ d ∈ reading.response.content.descriptors, d.links.length = 2 ∧
      LinksLead mailOnly mailOnly reading.store ⟨"root", .ofList [Role.systemAdmin]⟩ d := by
  have hplain : AllPlain mailOnly.registry := by
    intro service hservice
    cases List.mem_singleton.1 hservice
    rfl
  have hreached : Reached (·.registry = mailOnly.registry)
      (History.store .empty subscribedToMail) := by
    refine History.reached .empty subscribedToMail fun e he => ?_
    rw [mailOnly_always e (List.mem_append_left _ he)]
  have hoffered : ∃ d ∈ reading.response.content.descriptors, d.links.length = 2 := by
    decide +kernel
  obtain ⟨d, hd, hlinks⟩ := hoffered
  refine ⟨d, hd, hlinks, ?_⟩
  unfold reading at hd ⊢
  exact links_lead hplain hreached rfl rfl rfl rfl d hd

/-- Somebody asks for something who holds the role of owners everywhere, and is a member of no
account. -/
def owningEverywhere (method path : String) (query : Option String) : Request where
  method := method
  path := path
  query := query
  headers := [("x-user-id", Bytes.ofText "eve"),
    ("x-user-roles", Bytes.ofText "user,account/owner")]
  body := []

/-- They list the subscriptions to mail. -/
def listing : Reply :=
  respond mailOnly (History.store .empty subscribedToMail)
    (owningEverywhere "GET" "/api/account/account/subscriptions" (some "service=mail"))

/-- A removal that is offered can be refused: in the list there is a link for removing the
subscription to mail, and following it is refused. -/
theorem removal_refused :
    ∃ d ∈ listing.response.content.descriptors, ∃ link ∈ d.links,
      link.rel = "remove subscription" ∧
        Visits mailOnly.baseUrl link
          (owningEverywhere "DELETE" "/api/account/subscriptions/subscription" none) ∧
        (respond mailOnly listing.store
          (owningEverywhere "DELETE" "/api/account/subscriptions/subscription"
            none)).response.status = 403 := by
  let removal : Link :=
    .delete "http://host/api/account/subscriptions/subscription" "remove subscription"
  have hoffered : ∃ d ∈ listing.response.content.descriptors, removal ∈ d.links := by
    decide +kernel
  obtain ⟨d, hd, hlink⟩ := hoffered
  have hvisits : Visits mailOnly.baseUrl removal
      (owningEverywhere "DELETE" "/api/account/subscriptions/subscription" none) :=
    ⟨rfl, "/account/subscriptions/subscription", rfl, rfl⟩
  exact ⟨d, hd, removal, hlink, rfl, hvisits, by decide +kernel⟩

end CloudIde.Http
