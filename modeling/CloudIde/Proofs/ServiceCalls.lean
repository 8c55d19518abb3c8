import CloudIde.Proofs.SubscriptionChange

/-!
# When services are called

Three kinds of requests make services take part. Whoever asks for a subscription has the service of
the plan called before it is stored, and again afterwards when it was. Whoever gives one up has its
service told. Whoever asks what an account uses has services report, one after the other. For each
kind there is a description of all that can happen, and `respond_protocol` says that it is met and
that no other request makes a service take part.
-/

namespace CloudIde

/-- A failure is answered with the status of an error. -/
theorem Failure.status_ge (f : Failure) : 400 ≤ f.status := by
  unfold Failure.status
  cases f.kind <;> decide

namespace Registry

variable {registry : Registry} {service : Service} {id : String}

theorem get?_mem (h : registry.get? id = some service) :
    service ∈ registry.services ∧ service.id = id :=
  ⟨List.mem_of_find?_eq_some h, by simpa using List.find?_some h⟩

theorem get?_of_known (h : registry.known id = .ok service) : registry.get? id = some service := by
  unfold known at h
  split at h
  · next found hfound =>
    cases h
    exact hfound
  · exact absurd h (by simp)

theorem known_of_get? (h : registry.get? id = some service) : registry.known id = .ok service := by
  unfold known
  rw [h]

/-- A registered service is found by its id, as no other has it. -/
theorem get?_of_mem (h : service ∈ registry.services) :
    registry.get? service.id = some service := by
  have hascending := registry.ascending
  unfold get?
  generalize registry.services = services at h hascending ⊢
  induction services with
  | nil => exact absurd h List.not_mem_nil
  | cons first rest ih =>
    obtain ⟨hfirst, hrest⟩ := List.pairwise_cons.1 hascending
    rcases List.mem_cons.1 h with rfl | h
    · simp
    · have hne : first.id ≠ service.id := by
        intro he
        have hlt := hfirst service h
        rw [he] at hlt
        exact String.lt_irrefl _ hlt
      rw [List.find?_cons_of_neg (by simpa using hne)]
      exact ih h hrest

theorem get?_isSome : (registry.get? id).isSome ↔ id ∈ registry.ids := by
  unfold get? ids
  rw [List.find?_isSome, List.mem_map]
  simp

end Registry

namespace Http

open Store Platform

variable {ctx : Context} {s : Store} {caller : Caller}

/-! ## Asking for a subscription -/

/-- The service of the plan that an order names. -/
def Serves (ctx : Context) (s : Store) (body : Bytes) (service : Service) : Prop :=
  ∃ order plan, Order.ofBody body = .ok order ∧ s.plan order.plan = .ok plan ∧
    ctx.registry.get? plan.service = some service

/-- The calls while a subscription is asked for. -/
inductive Provision (ctx : Context) (s : Store) (body : Bytes) (reply : Reply) : Prop
  /-- The request is refused before the service is asked, and nothing is stored. -/
  | refused (hstatus : 400 ≤ reply.response.status) (hstore : reply.store = s)
      (hcalls : reply.calls = [])
  /-- The service refuses the subscription, or makes one of it that cannot be stored. -/
  | vetoed {service : Service} {v : Subscription} (hserves : Serves ctx s body service)
      (hwhy : (∃ f, service.before v = .error f) ∨
        ∃ w f, service.before v = .ok w ∧ s.addSubscription w = .error f)
      (hstatus : 400 ≤ reply.response.status) (hstore : reply.store = s)
      (hcalls : reply.calls = [⟨.before, service.id, v⟩])
  /-- What the service has made of the subscription is stored, and the service is told. -/
  | stored {service : Service} {v w : Subscription} {T : Table SubscriptionRow}
      (hserves : Serves ctx s body service) (hbefore : service.before v = .ok w)
      (hT : T.rows.Perm (.ofSubscription w :: s.subscriptions.rows))
      (hstore : reply.store = { s with subscriptions := T })
      (hread : reply.store.subscription w.id = .ok w.floorDates)
      (hcalls : reply.calls = [⟨.before, service.id, v⟩, ⟨.after, service.id, w⟩])

theorem propose_serves {body : Bytes} {p : Proposal} (h : propose ctx s caller body = .ok p) :
    Serves ctx s body p.service := by
  obtain ⟨order, plan, hp⟩ := propose_ok h
  exact ⟨order, plan, hp.ordered, hp.planned, Registry.get?_of_known hp.served⟩

theorem subscribe_provision (hs : Written s) (body : Bytes) :
    Provision ctx s body (.made .subscription (subscribe ctx s caller body)) := by
  have houtcome := subscribe_outcome ctx s caller body
  generalize subscribe ctx s caller body = outcome at houtcome ⊢
  cases houtcome with
  | @unproposed f _ => exact .refused f.status_ge rfl rfl
  | @vetoed p f hp hf =>
    exact .vetoed (propose_serves hp) (Or.inl ⟨f, hf⟩) f.status_ge rfl rfl
  | @unstored p w f hp hw hf =>
    exact .vetoed (propose_serves hp) (Or.inr ⟨w, f, hw, hf⟩) f.status_ge rfl rfl
  | stored hp hw ht =>
    have hinsert := addSubscription_ok ht
    have hwritten := written_insertSubscription hs hinsert
    obtain ⟨T, hT, rfl⟩ := (insertSubscription_ok hinsert).only
    have hthere := hT.mem_iff.2 (Or.inl rfl)
    exact .stored (propose_serves hp) hw hT.rows rfl (hwritten.subscription_found hthere) rfl

/-! ## Giving one up -/

/-- The active subscription `v` of one store is inactive in the other. -/
structure Ended (s t : Store) (v : Subscription) : Prop where
  there : SubscriptionRow.ofSubscription v ∈ s.subscriptions.rows
  active : v.isActive = true
  inactive : (SubscriptionRow.ofSubscription v).inactive ∈ t.subscriptions.rows

/-- The calls while a subscription is given up. -/
inductive Removal (ctx : Context) (s : Store) (raw : String) (reply : Reply) : Prop
  /-- None has ended whose service is registered, and nobody is told. -/
  | quiet (hnone : ∀ v, Ended s reply.store v → ctx.registry.get? v.service = none)
      (hcalls : reply.calls = [])
  /-- The one that the path names has ended, and its service is told. -/
  | told {v : Subscription} {service : Service} (hended : Ended s reply.store v)
      (hnamed : Request.parameter "subscription_id" raw = .ok v.id)
      (honly : ∀ w, Ended s reply.store w → w.id = v.id)
      (hservice : ctx.registry.get? v.service = some service)
      (hcalls : reply.calls = [⟨.removed, service.id, v.floorDates.inactive⟩])

/-- Nothing ends while the rows stay what they are. -/
theorem not_ended (hs : Written s) {t : Store} (h : t.subscriptions = s.subscriptions)
    (v : Subscription) : ¬ Ended s t v := by
  intro hended
  have hinactive := hended.inactive
  rw [h] at hinactive
  have hsame := hs.row_eq hended.there hinactive rfl
  exact SubscriptionRow.ne_inactive hended.active _ hsame

section

variable {T : Table SubscriptionRow} {v : Subscription}

/-- The store in which the rows of an id are made inactive. -/
theorem ended_replaced (hv : .ofSubscription v ∈ s.subscriptions.rows) (hactive : v.isActive = true)
    (hT : T.rows = s.subscriptions.rows.map fun row =>
      if row.id = .text v.id then row.inactive else row) :
    Ended s { s with subscriptions := T } v := by
  refine ⟨hv, hactive, ?_⟩
  have hmem : (SubscriptionRow.ofSubscription v).inactive ∈ T.rows := by
    rw [hT]
    exact List.mem_map.2 ⟨_, hv, if_pos rfl⟩
  exact hmem

/-- Where the rows of an id are made inactive, no other has ended. -/
theorem ended_only (hs : Written s) (hv : .ofSubscription v ∈ s.subscriptions.rows)
    (hT : T.rows = s.subscriptions.rows.map fun row =>
      if row.id = .text v.id then row.inactive else row) {w : Subscription}
    (hw : Ended s { s with subscriptions := T } w) :
    SubscriptionRow.ofSubscription w = .ofSubscription v := by
  have hinactive : (SubscriptionRow.ofSubscription w).inactive ∈ T.rows := hw.inactive
  rw [hT] at hinactive
  obtain ⟨row, hrow, hbecomes⟩ := List.mem_map.1 hinactive
  split at hbecomes
  · next hid =>
    have hwid : row.id = .text w.id := congrArg SubscriptionRow.id hbecomes
    exact hs.row_eq hw.there hv (hwid.symm.trans hid)
  · -- a row that is left alone is not active, if it is that of `w`
    have hsame : SubscriptionRow.ofSubscription w = row :=
      hs.row_eq hw.there hrow (by rw [hbecomes]; rfl)
    exact absurd (hsame.trans hbecomes) (SubscriptionRow.ne_inactive hw.active _)

end

theorem unsubscribe_removal (hs : Written s) {raw id : String}
    (hraw : Request.parameter "subscription_id" raw = .ok id) :
    Removal ctx s raw (.removed (unsubscribe ctx s caller id)) := by
  have hrefused {f : Failure} : Removal ctx s raw (.removed (.refused s f)) :=
    .quiet (fun v hv => absurd hv (not_ended hs rfl v)) rfl
  have houtcome := unsubscribe_outcome ctx s caller id
  generalize unsubscribe ctx s caller id = outcome at houtcome ⊢
  cases houtcome with
  | refused | kept => exact hrefused
  | told hv ht hservice =>
    obtain ⟨-, hfound, -, hactive⟩ := removable_ok hv
    obtain ⟨hrows, hid, w, hw, rfl⟩ := hs.replace_inactive hfound
    obtain rfl := (updateSubscription_ok ht).only
    obtain rfl : w.id = id := hid
    refine .told (ended_replaced hw hactive hrows) hraw (fun w' hw' => ?_) hservice rfl
    exact Cell.text.inj (congrArg SubscriptionRow.id (ended_only hs hw hrows hw'))
  | quiet hv ht hservice =>
    obtain ⟨hrows, hid, w, hw, rfl⟩ := hs.replace_inactive (removable_ok hv).2.1
    obtain rfl := (updateSubscription_ok ht).only
    obtain rfl : w.id = id := hid
    refine .quiet (fun w' hw' => ?_) rfl
    rw [← hservice]
    have hsame := congrArg SubscriptionRow.service (ended_only hs hw hrows hw')
    exact congrArg ctx.registry.get? (Cell.text.inj hsame)

/-! ## Asking for what is used -/

/-- The calls while it is asked what an account uses. -/
structure Report (ctx : Context) (s : Store) (raw : String) (reply : Reply) : Prop where
  store : reply.store = s
  part : ∀ c ∈ reply.calls, c.part = .usage
  /-- Services are asked in the order of their ids, none of them twice. -/
  ascending : reply.calls.Pairwise fun c d => c.service < d.service
  /-- They are asked about the subscriptions that the account has to them. -/
  subscribed : ∀ c ∈ reply.calls, ∃ account,
    Request.parameter "account_id" raw = .ok account ∧
      s.activeSubscription account c.service = .ok (some c.subscription)
  /-- Whoever is not the last to be asked has reported. -/
  reported : ∀ c ∈ reply.calls.dropLast, ∃ service used,
    ctx.registry.get? c.service = some service ∧ service.usage c.subscription = .ok used

theorem report_nothing {raw : String} (response : Response) :
    Report ctx s raw (.unchanged s response) where
  store := rfl
  part _ hc := absurd hc List.not_mem_nil
  ascending := .nil
  subscribed _ hc := absurd hc List.not_mem_nil
  reported _ hc := absurd hc List.not_mem_nil

/-- The calls while services report. -/
structure Reporting (s : Store) (account : String) (services : List Service)
    (calls : List ServiceCall) : Prop where
  asked : (calls.map ServiceCall.service).Sublist (services.map Service.id)
  subscribed : ∀ c ∈ calls, s.activeSubscription account c.service = .ok (some c.subscription)
  reported : ∀ c ∈ calls.dropLast, ∃ service ∈ services, ∃ used,
    service.id = c.service ∧ service.usage c.subscription = .ok used

theorem reporting_nil (account : String) (services : List Service) :
    Reporting s account services [] where
  asked := List.nil_sublist _
  subscribed _ hc := absurd hc List.not_mem_nil
  reported _ hc := absurd hc List.not_mem_nil

theorem Reporting.skip {account : String} {services : List Service} {calls : List ServiceCall}
    (h : Reporting s account services calls) (service : Service) :
    Reporting s account (service :: services) calls where
  asked := h.asked.cons _
  subscribed := h.subscribed
  reported c hc := by
    obtain ⟨other, hother, hused⟩ := h.reported c hc
    exact ⟨other, List.mem_cons_of_mem _ hother, hused⟩

/-- A service is called before those that come after it, if there are any when it has failed. -/
theorem Reporting.ask {account : String} {services : List Service} {calls : List ServiceCall}
    (h : Reporting s account services calls) {service : Service} {v : Subscription}
    (hv : s.activeSubscription account service.id = .ok (some v))
    (hgoes : calls = [] ∨ ∃ used, service.usage v = .ok used) :
    Reporting s account (service :: services) (⟨.usage, service.id, v⟩ :: calls) where
  asked := h.asked.cons_cons _
  subscribed := by
    intro c hc
    rcases List.mem_cons.1 hc with rfl | hc
    · exact hv
    · exact h.subscribed c hc
  reported := by
    intro c hc
    rcases hgoes with rfl | ⟨used, hused⟩
    · exact absurd hc (by simp)
    · cases calls with
      | nil => exact absurd hc (by simp)
      | cons d rest =>
        rw [List.dropLast_cons_cons] at hc
        rcases List.mem_cons.1 hc with rfl | hc
        · exact ⟨service, List.mem_cons_self, used, rfl, hused⟩
        · exact (h.skip service).reported c hc

theorem usagesOf_reporting (account : String) (services : List Service) :
    Reporting s account services (usagesOf ctx s account services).2 := by
  induction services with
  | nil => exact reporting_nil account []
  | cons service rest ih =>
    unfold usagesOf
    split
    · exact reporting_nil account _
    · -- without an active subscription the service is not asked
      exact ih.skip service
    · next v hv =>
      simp only
      split
      · exact (reporting_nil account rest).ask hv (Or.inl rfl)
      · next resources hused => exact ih.ask hv (Or.inr ⟨resources, hused⟩)

/-- Those that report are registered, in the order in which they are registered. -/
theorem reporting_registered {account : String} {service : Option String} {services : List Service}
    (h : reporting ctx s caller account service = .ok services) :
    services.Sublist ctx.registry.services := by
  obtain ⟨_, _, h⟩ := bind_eq_ok.1 h
  obtain ⟨_, _, h⟩ := bind_eq_ok.1 h
  cases service with
  | none =>
    cases h
    exact List.Sublist.refl _
  | some id =>
    obtain ⟨found, hfound, h⟩ := bind_eq_ok.1 h
    cases h
    exact List.singleton_sublist.2 (known_mem hfound).1

theorem usages_report {raw account : String} (service : Option String)
    (hraw : Request.parameter "account_id" raw = .ok account) :
    Report ctx s raw (.done .usages (usages ctx s caller account service)) := by
  have hall : ∃ services, services.Sublist ctx.registry.services ∧
      Reporting s account services (usages ctx s caller account service).calls ∧
        ∀ c ∈ (usages ctx s caller account service).calls, c.part = .usage := by
    unfold usages
    split
    · exact ⟨[], List.nil_sublist _, reporting_nil account [], by simp [Outcome.refused]⟩
    · next services hservices =>
      exact ⟨services, reporting_registered hservices, usagesOf_reporting account services,
        usagesOf_calls⟩
  obtain ⟨services, hregistered, h, hpart⟩ := hall
  refine ⟨usages_store account service, hpart, ?_, fun c hc => ⟨account, hraw, h.subscribed c hc⟩,
    fun c hc => ?_⟩
  · have hids : (ctx.registry.services.map Service.id).Pairwise (· < ·) :=
      List.pairwise_map.2 ctx.registry.ascending
    exact List.pairwise_map.1 (hids.sublist (h.asked.trans (hregistered.map Service.id)))
  · obtain ⟨found, hfound, used, hid, hused⟩ := h.reported c hc
    refine ⟨found, used, ?_, hused⟩
    rw [← hid]
    exact Registry.get?_of_mem (hregistered.subset hfound)

/-! ## Every request -/

/-- The headers of a request name a caller or nobody. -/
theorem ofHeaders_fails (headers : Headers) :
    FailsWith (· = .missingIdentity) (Caller.ofHeaders headers) := by
  unfold Caller.ofHeaders
  split
  · exact .error rfl
  · split
    · exact .error rfl
    · exact .ok _

theorem writing_calls {α : Type} (s : Store) (written : Except Failure (Store × α)) :
    (Outcome.writing s written).calls = [] := by
  cases written <;> rfl

/-- The operations that services take part in. -/
theorem perform_calls {op : Operation} (h : (op.perform ctx s caller).calls ≠ []) :
    (∃ body, op = .subscribe body) ∨ (∃ id, op = .unsubscribe id) ∨
      ∃ account service, op = .reportUsages account service := by
  cases op with
  | subscribe body => exact Or.inl ⟨body, rfl⟩
  | unsubscribe id => exact Or.inr (Or.inl ⟨id, rfl⟩)
  | reportUsages account service => exact Or.inr (Or.inr ⟨account, service, rfl⟩)
  | createAccount new =>
    refine absurd ?_ h
    show (Platform.createAccount ctx s caller new).calls = []
    unfold Platform.createAccount
    split
    · rfl
    · split
      · rfl
      · simp only
        split
        · rfl
        · exact writing_calls _ _
  | updateCommand body =>
    refine absurd ?_ h
    show (Platform.updateCommand ctx s caller body).calls = []
    unfold Platform.updateCommand
    split
    · rfl
    · split
      · rfl
      · rfl
  | addMember | createPlan | createCommand | removeCommand | addWorkspaceMember =>
    exact absurd (writing_calls _ _) h
  | _ => exact absurd rfl h

/-- All that services are called for when a request is answered. -/
structure Protocol (ctx : Context) (s : Store) (r : Request) (reply : Reply) : Prop where
  subscribing : r.method = "POST" → Resource.ofPath? r.path = some .subscriptions →
    Provision ctx s r.body reply
  removing : ∀ raw, r.method = "DELETE" → Resource.ofPath? r.path = some (.subscription raw) →
    Removal ctx s raw reply
  reporting : ∀ raw, r.method = "GET" ∨ r.method = "HEAD" →
    Resource.ofPath? r.path = some (.resources raw) → Report ctx s raw reply
  /-- Nothing else makes a service take part. -/
  otherwise : reply.calls ≠ [] →
    r.method = "POST" ∧ Resource.ofPath? r.path = some .subscriptions
      ∨ (r.method = "DELETE" ∧ ∃ raw, Resource.ofPath? r.path = some (.subscription raw))
      ∨ ((r.method = "GET" ∨ r.method = "HEAD") ∧
          ∃ raw, Resource.ofPath? r.path = some (.resources raw))

variable {r : Request}

/-- Whoever asks for a subscription is answered by the operation, unless nobody is named as the
caller or the body is too long. -/
theorem respond_subscribing (ctx : Context) (s : Store) (hmethod : r.method = "POST")
    (hpath : Resource.ofPath? r.path = some .subscriptions) :
    (∃ response, respond ctx s r = .unchanged s response ∧
        (response = .failed .missingIdentity ∨ ∃ text, response = .plain 413 text)) ∨
      ∃ caller, Caller.ofHeaders r.headers = .ok caller ∧
        respond ctx s r = .made .subscription (subscribe ctx s caller r.body) := by
  have hpost : r.method = Method.post.text := hmethod
  cases hd : r.demand with
  | error response =>
    refine Or.inl ⟨response, respond_of_no_demand hd, ?_⟩
    rw [Request.demand_eq hpath hpost (by decide)] at hd
    rcases bind_eq_error.1 (map_eq_error.1 hd) with hcaller | ⟨caller, -, h⟩
    · obtain ⟨f, hf, rfl⟩ := mapError_eq_error.1 hcaller
      exact Or.inl (congrArg Response.failed (ofHeaders_fails r.headers f hf))
    · rcases bind_eq_error.1 h with hwanted | ⟨_, _, h⟩
      · rcases bind_eq_error.1 hwanted with hcontent | ⟨_, _, h⟩
        · unfold Request.content at hcontent
          split at hcontent
          · cases hcontent
            exact Or.inr ⟨_, rfl⟩
          · exact absurd hcontent (by simp)
        · exact absurd h (by simp)
      · exact absurd h (by simp)
  | ok d =>
    obtain ⟨resource, method, hasks⟩ := Request.demand_ok hd
    obtain rfl : resource = .subscriptions := Option.some.inj (hasks.path.symm.trans hpath)
    obtain rfl : method = .post := List.mem_singleton.1 hasks.known
    obtain ⟨body, hbody, hwanted⟩ := bind_eq_ok.1 hasks.wanted
    obtain rfl := Request.content_ok hbody
    refine Or.inr ⟨d.caller, hasks.caller, ?_⟩
    rw [respond_of_demand hd, (hasks.whole (by simp)).2, ← Except.ok.inj hwanted]
    rfl

theorem respond_provision (ctx : Context) (hs : Written s) (hmethod : r.method = "POST")
    (hpath : Resource.ofPath? r.path = some .subscriptions) :
    Provision ctx s r.body (respond ctx s r) := by
  rcases respond_subscribing ctx s hmethod hpath with
    ⟨response, hreply, hwhy⟩ | ⟨caller, -, hreply⟩
  · have hstatus : 400 ≤ response.status := by
      rcases hwhy with rfl | ⟨text, rfl⟩
      · exact Failure.missingIdentity.status_ge
      · show 400 ≤ 413
        decide
    rw [hreply]
    exact .refused hstatus rfl rfl
  · rw [hreply]
    exact subscribe_provision hs r.body

theorem respond_removal (ctx : Context) (hs : Written s) {raw : String}
    (hmethod : r.method = "DELETE")
    (hpath : Resource.ofPath? r.path = some (.subscription raw)) :
    Removal ctx s raw (respond ctx s r) := by
  cases hd : r.demand with
  | error response =>
    rw [respond_of_no_demand hd]
    exact .quiet (fun v hv => absurd hv (not_ended hs rfl v)) rfl
  | ok d =>
    obtain ⟨resource, method, hasks⟩ := Request.demand_ok hd
    obtain rfl : resource = .subscription raw := Option.some.inj (hasks.path.symm.trans hpath)
    obtain rfl : method = .delete := hasks.method_eq hmethod
    obtain ⟨id, hid, hwanted⟩ := bind_eq_ok.1 hasks.wanted
    rw [respond_of_demand hd, (hasks.whole (by simp)).2, ← Except.ok.inj hwanted]
    exact unsubscribe_removal hs hid

theorem respond_report (ctx : Context) (s : Store) {raw : String}
    (hmethod : r.method = "GET" ∨ r.method = "HEAD")
    (hpath : Resource.ofPath? r.path = some (.resources raw)) :
    Report ctx s raw (respond ctx s r) := by
  cases hd : r.demand with
  | error response =>
    rw [respond_of_no_demand hd]
    exact report_nothing response
  | ok d =>
    obtain ⟨resource, method, hasks⟩ := Request.demand_ok hd
    obtain rfl : resource = .resources raw := Option.some.inj (hasks.path.symm.trans hpath)
    obtain rfl : method = .get := hasks.get hmethod
    obtain ⟨account, haccount, hwanted⟩ := bind_eq_ok.1 hasks.wanted
    obtain ⟨service, -, hwanted⟩ := bind_eq_ok.1 hwanted
    have hreport : Report ctx s raw (.done .usages (usages ctx s d.caller account service)) :=
      usages_report service haccount
    rw [respond_of_demand hd]
    unfold Demand.reply
    rw [← Except.ok.inj hwanted]
    -- without its content the reply makes the same calls
    split
    · exact ⟨hreport.store, hreport.part, hreport.ascending, hreport.subscribed, hreport.reported⟩
    · exact hreport

/-- **What services are called for.** -/
theorem respond_protocol (ctx : Context) (hs : Written s) (r : Request) :
    Protocol ctx s r (respond ctx s r) where
  subscribing hmethod hpath := respond_provision ctx hs hmethod hpath
  removing _ hmethod hpath := respond_removal ctx hs hmethod hpath
  reporting _ hmethod hpath := respond_report ctx s hmethod hpath
  otherwise hcalls := by
    cases hd : r.demand with
    | error response =>
      rw [respond_of_no_demand hd] at hcalls
      exact absurd rfl hcalls
    | ok d =>
      obtain ⟨resource, method, hasks⟩ := Request.demand_ok hd
      have hasked := hasks.askedAt
      rw [respond_of_demand hd, Demand.reply_calls] at hcalls
      rcases perform_calls hcalls with ⟨body, hop⟩ | ⟨id, hop⟩ | ⟨account, service, hop⟩
      · rw [hop] at hasked
        obtain ⟨rfl, rfl, -⟩ := hasked
        exact Or.inl ⟨(hasks.named_eq (by simp)).1, hasks.path⟩
      · rw [hop] at hasked
        obtain ⟨rfl, raw, rfl, -⟩ := hasked
        exact Or.inr (Or.inl ⟨(hasks.named_eq (by simp)).1, raw, hasks.path⟩)
      · rw [hop] at hasked
        obtain ⟨hget, -, raw, rfl, -⟩ := hasked
        refine Or.inr (Or.inr ⟨?_, raw, hasks.path⟩)
        rcases hasks.named with ⟨hnamed, -⟩ | ⟨hnamed, -⟩
        · rw [hnamed, hget]
          exact Or.inl rfl
        · exact Or.inr hnamed

end Http

end CloudIde
