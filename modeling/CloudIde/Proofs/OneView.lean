import CloudIde.Proofs.Acceptance
import CloudIde.Proofs.Links
import CloudIde.Proofs.OneActive
import CloudIde.Proofs.Order
import Mathlib.Data.List.Nodup

/-!
# One view of a subscription

A subscription is shown in three places: to whoever makes it, by its id, and in the lists of the
active subscriptions of its account. Each place takes it from somewhere else. Who makes it is shown
what was drawn up, with dates that are exact; the others are shown what was stored, with dates of
whole seconds. The list looks for the roles of every caller in the account, the other two for those
of callers who are not privileged. `one_view` says that nothing of this can be seen: days are shown
of the dates, and privileged callers are offered the same links whatever their roles are.
-/

namespace CloudIde

section

variable {α β : Type} [DecidableEq β] {f : α → β} {as : List α}

/-- Of values that differ in something, the one that has it is found. -/
theorem find?_of_nodup (h : (as.map f).Nodup) {a : α} {b : β} (ha : a ∈ as) (hab : f a = b) :
    as.find? (fun a => f a = b) = some a := by
  cases hfound : as.find? fun a => f a = b with
  | none => exact absurd hab (by simpa using List.find?_eq_none.1 hfound a ha)
  | some c =>
    have hcb : f c = b := by simpa using List.find?_some hfound
    rw [List.inj_on_of_nodup_map h (List.mem_of_find?_eq_some hfound) ha (hcb.trans hab.symm)]

/-- Of values that differ in something, at most one has it. -/
theorem filter_eq_find? (h : (as.map f).Nodup) (b : β) :
    as.filter (fun a => f a = b) = (as.find? fun a => f a = b).toList := by
  induction as with
  | nil => rfl
  | cons a rest ih =>
    obtain ⟨hfirst, hrest⟩ := List.nodup_cons.1 h
    by_cases hab : f a = b
    · have hnone : rest.filter (fun a => f a = b) = [] := by
        refine List.filter_eq_nil_iff.2 fun c hc hcb => hfirst ?_
        have hcb : f c = b := by simpa using hcb
        exact List.mem_map.2 ⟨c, hc, hcb.trans hab.symm⟩
      rw [List.filter_cons_of_pos (by simpa using hab), List.find?_cons_of_pos (by simpa using hab),
        hnone]
      rfl
    · rw [List.filter_cons_of_neg (by simpa using hab), List.find?_cons_of_neg (by simpa using hab),
        ih hrest]

end

/-! ## What is listed -/

namespace Store

variable {s : Store} {account : String} {vs : List Subscription}

/-- The active subscriptions of an account, by service and id. -/
structure Listed (s : Store) (account : String) (vs : List Subscription) : Prop where
  mem_iff : ∀ row, row ∈ vs.map SubscriptionRow.ofSubscription ↔
    row ∈ s.subscriptions.rows ∧ row.account = .text account ∧ row.isActive = true
  ascending : vs.Pairwise fun v w => v.service < w.service ∨ v.service = w.service ∧ v.id < w.id

/-- The rows of the active subscriptions of an account. -/
def activeRows (s : Store) (account : String) : List SubscriptionRow :=
  s.subscriptions.select (fun row => row.account = .text account && row.isActive) fun row =>
    [row.service, row.id]

theorem mem_activeRows {row : SubscriptionRow} : row ∈ s.activeRows account ↔
    row ∈ s.subscriptions.rows ∧ row.account = .text account ∧ row.isActive = true := by
  simp [activeRows, Table.mem_select]

theorem Listed.mem (h : s.Listed account vs) {v : Subscription} (hv : v ∈ vs) :
    .ofSubscription v ∈ s.subscriptions.rows ∧ v.account = account ∧ v.isActive = true := by
  obtain ⟨hrow, haccount, hactive⟩ := (h.mem_iff _).1 (List.mem_map_of_mem hv)
  rw [SubscriptionRow.isActive_ofSubscription] at hactive
  exact ⟨hrow, Cell.text.inj haccount, hactive⟩

/-- No active subscription of the account is left out. -/
theorem Listed.all (h : s.Listed account vs) {v : Subscription}
    (hv : .ofSubscription v ∈ s.subscriptions.rows) (haccount : v.account = account)
    (hactive : v.isActive = true) :
    ∃ w ∈ vs, SubscriptionRow.ofSubscription w = .ofSubscription v := by
  refine List.mem_map.1 ((h.mem_iff _).2 ⟨hv, congrArg Cell.text haccount, ?_⟩)
  rw [SubscriptionRow.isActive_ofSubscription, hactive]

/-- The active subscriptions of an account are listed, with their dates floored. -/
theorem Written.activeSubscriptions_listed (hs : Written s) (account : String) :
    ∃ vs, s.Listed account vs ∧
      s.activeSubscriptions account = .ok (vs.map Subscription.floorDates) := by
  have hrows : ∀ row ∈ s.subscriptions.rows, ∃ v, row = SubscriptionRow.ofSubscription v := by
    intro row hrow
    obtain ⟨v, hv, -⟩ := hs.subscription row hrow
    exact ⟨v, hv⟩
  obtain ⟨vs, hvs, hsorted⟩ := Table.select_map hs.made.subscriptions hrows
    (fun row => row.account = .text account && row.isActive) fun row => [row.service, row.id]
  have hvs : s.activeRows account = vs.map SubscriptionRow.ofSubscription := hvs
  have hascending : vs.Pairwise fun v w =>
      v.service < w.service ∨ v.service = w.service ∧ v.id < w.id := by
    refine hsorted.imp fun {v w} ⟨hle, hkey⟩ => Cell.listLe_texts hle fun hid => hkey ?_
    exact congrArg (fun id => [Cell.text id]) hid
  refine ⟨vs, ⟨fun row => ?_, hascending⟩, ?_⟩
  · rw [← hvs]
    exact mem_activeRows
  · unfold Store.activeSubscriptions
    rw [Table.naming_made hs.made.subscriptions, ok_bind]
    show readAll SubscriptionRow.read (s.activeRows account) = _
    rw [hvs]
    exact readAll_map fun v _ => SubscriptionRow.readOne_ofSubscription v

/-- No two of them are to one service. -/
theorem Listed.services (h : s.Listed account vs) (hone : OneActive s) :
    (vs.map Subscription.service).Nodup := by
  refine List.pairwise_map.2 (h.ascending.imp_of_mem fun {v w} hv hw hlt hservice => ?_)
  rcases hlt with hlt | ⟨-, hlt⟩
  · exact String.lt_irrefl _ (hservice ▸ hlt)
  · obtain ⟨hrow, haccount, hactive⟩ := h.mem hv
    obtain ⟨hrow', haccount', hactive'⟩ := h.mem hw
    rw [← SubscriptionRow.isActive_ofSubscription] at hactive hactive'
    have hsame : SubscriptionRow.ofSubscription v = .ofSubscription w :=
      hone.eq_of_rival hrow hrow' ⟨hactive, hactive',
        congrArg Cell.text (haccount.trans haccount'.symm), congrArg Cell.text hservice⟩
    have hid : v.id = w.id := Cell.text.inj (congrArg SubscriptionRow.id hsame)
    exact String.lt_irrefl _ (hid ▸ hlt)

/-- The one to a service is found in the list. -/
theorem Written.activeSubscription_listed (hs : Written s) (hone : OneActive s)
    (h : s.Listed account vs) (service : String) :
    s.activeSubscription account service
      = .ok ((vs.find? fun v => v.service = service).map Subscription.floorDates) := by
  unfold Store.activeSubscription
  rw [Table.naming_made hs.made.subscriptions, ok_bind]
  have hgives {row : SubscriptionRow} (hrow : row ∈ s.subscriptions.rows)
      (hyes : row.gives account service = true) :
      ∃ v ∈ vs, SubscriptionRow.ofSubscription v = row ∧ v.service = service := by
    simp only [SubscriptionRow.gives, Bool.and_eq_true, decide_eq_true_eq] at hyes
    obtain ⟨v, hv, rfl⟩ := List.mem_map.1 ((h.mem_iff row).2 ⟨hrow, hyes.1.1, hyes.2⟩)
    exact ⟨v, hv, rfl, Cell.text.inj hyes.1.2⟩
  split
  · next row hrow =>
    obtain ⟨v, hv, rfl, hservice⟩ :=
      hgives (List.mem_of_find?_eq_some hrow) (by simpa using List.find?_some hrow)
    have hfound : (vs.find? fun v => v.service = service) = some v :=
      find?_of_nodup (h.services hone) hv hservice
    rw [SubscriptionRow.readOne_ofSubscription, hfound]
    rfl
  · next hnone =>
    have hfound : (vs.find? fun v => v.service = service) = none := by
      refine List.find?_eq_none.2 fun v hv hservice => ?_
      obtain ⟨hrow, haccount, hactive⟩ := h.mem hv
      refine List.find?_eq_none.1 hnone _ hrow ?_
      have hservice : v.service = service := by simpa using hservice
      rw [SubscriptionRow.gives, SubscriptionRow.isActive_ofSubscription, hactive, ← hservice,
        ← haccount]
      simp [SubscriptionRow.ofSubscription]
    rw [hfound]
    rfl

end Store

/-! ## What is shown of it -/

/-- A descriptor stands before another one: by the bytes of its service, and then by those of its
id. -/
def SubscriptionDescriptor.Before (d e : SubscriptionDescriptor) : Prop :=
  Bytes.ofText d.service < Bytes.ofText e.service ∨
    d.service = e.service ∧ Bytes.ofText d.id < Bytes.ofText e.id

namespace Platform

open Store

variable {ctx : Context} {s : Store} {caller : Caller} {v : Subscription} {account : String}

/-- What is listed of an account that is there: all, or those to a service that is named. -/
theorem activeSubscriptions_view (ctx : Context) (hs : Written s) (hone : OneActive s)
    {vs : List Subscription} (hvs : s.Listed account vs)
    (hall : s.activeSubscriptions account = .ok (vs.map Subscription.floorDates))
    (haccount : s.hasAccount account = true) {there : RoleSet}
    (hthere : s.accountRoles account caller.user = .ok there)
    (hreads : caller.requireScoped there readers = .ok ()) :
    (∀ service, service.all String.isEmpty = true →
        Platform.activeSubscriptions ctx s caller account service
          = .ok (vs.map fun v => v.descriptor ctx.baseUrl caller there)) ∧
      ∀ service, service ≠ "" →
        Platform.activeSubscriptions ctx s caller account (some service)
          = .ok ((vs.filter fun v => v.service = service).map
              fun v => v.descriptor ctx.baseUrl caller there) := by
  have hfloored (vs : List Subscription) :
      (vs.map Subscription.floorDates).map (fun v => v.descriptor ctx.baseUrl caller there)
        = vs.map fun v => v.descriptor ctx.baseUrl caller there := by
    rw [List.map_map]
    exact List.map_congr_left fun v _ => v.descriptor_floorDates ctx.baseUrl there
  obtain ⟨a, ha⟩ := hs.account_found haccount
  refine ⟨fun service hservice => ?_, fun service hservice => ?_⟩
  · have hnone : (service.filter fun name => !name.isEmpty) = none := by
      cases service with
      | none => rfl
      | some name => simpa [Option.filter] using hservice
    unfold Platform.activeSubscriptions
    simp only [hthere, hreads, ha, hnone, hall, ok_bind, hfloored]
  · have hsome : ((some service).filter fun name => !name.isEmpty) = some service := by
      simp [Option.filter, hservice]
    rw [filter_eq_find? (hvs.services hone), ← hfloored]
    unfold Platform.activeSubscriptions
    simp only [hthere, hreads, ha, hsome, hs.activeSubscription_listed hone hvs, ok_bind,
      Option.toList_map]

end Platform

/-! ## The requests -/

namespace Http

open Store Platform

variable {ctx later : Context} {s t : Store} {caller : Caller} {r : Request}

/-- Somebody asks for the subscription with an id. -/
structure Request.Fetches (r : Request) (caller : Caller) (id : String) : Prop where
  method : r.method = "GET"
  path : ∃ raw, Resource.ofPath? r.path = some (.subscription raw) ∧
    parameter "subscription_id" raw = .ok id
  sent : Caller.ofHeaders r.headers = .ok caller

/-- Somebody asks for the active subscriptions of an account, and may name a service. -/
structure Request.Lists (r : Request) (caller : Caller) (account : String)
    (service : Option String) : Prop where
  method : r.method = "GET"
  path : ∃ raw, Resource.ofPath? r.path = some (.accountSubscriptions raw) ∧
    parameter "account_id" raw = .ok account
  query : r.field "service" = .ok service
  sent : Caller.ofHeaders r.headers = .ok caller

/-- A caller can ask for the subscription with an id, and is then shown a descriptor. -/
def Sees (ctx : Context) (s : Store) (caller : Caller) (id : String)
    (d : SubscriptionDescriptor) : Prop :=
  (∃ r : Request, r.Fetches caller id) ∧ ∀ r : Request, r.Fetches caller id →
    (respond ctx s r).response = ⟨200, .shown (.subscription d), none⟩

theorem Request.Fetches.respond {id : String} (h : r.Fetches caller id) :
    respond ctx s r = .shown s .subscription (Platform.subscription ctx s caller id) := by
  obtain ⟨raw, hpath, hid⟩ := h.path
  have hget : r.method = Method.get.text := h.method
  have hwanted : r.wanted (.subscription raw) .get = .ok (.showSubscription id) := by
    show (parameter "subscription_id" raw >>= _) = _
    rw [hid]
    rfl
  exact respond_asked hpath hget (by simp [Resource.methods]) (by simp) h.sent hwanted

theorem Request.Lists.respond {account : String} {service : Option String}
    (h : r.Lists caller account service) : respond ctx s r =
      .shown s .subscriptions (Platform.activeSubscriptions ctx s caller account service) := by
  obtain ⟨raw, hpath, hid⟩ := h.path
  have hget : r.method = Method.get.text := h.method
  have hwanted : r.wanted (.accountSubscriptions raw) .get
      = .ok (.listSubscriptions account service) := by
    show (parameter "account_id" raw >>= _) = _
    rw [hid, ok_bind, h.query]
    rfl
  exact respond_asked hpath hget (by simp [Resource.methods]) (by simp) h.sent hwanted

/-- What a caller who is entitled sees of a subscription. -/
theorem sees_iff (hs : Written s) {v : Subscription}
    (hv : .ofSubscription v ∈ s.subscriptions.rows) (hid : TameId v.id) {headers : Headers}
    (hsent : Caller.ofHeaders headers = .ok caller)
    (hplatform : caller.require Role.platform = .ok ())
    (hentitled : Entitled s caller v.account [Role.accountOwner, Role.accountMember])
    {there : RoleSet}
    (hthere : caller.isPrivileged = true ∨ s.accountRoles v.account caller.user = .ok there)
    {d : SubscriptionDescriptor} :
    Sees ctx s caller v.id d ↔ d = v.descriptor ctx.baseUrl caller there := by
  have hview : ∀ r : Request, r.Fetches caller v.id → (respond ctx s r).response
      = ⟨200, .shown (.subscription (v.descriptor ctx.baseUrl caller there)), none⟩ := by
    intro r hr
    rw [hr.respond, subscription_view hs hv hplatform hentitled hthere]
    rfl
  constructor
  · rintro ⟨⟨r, hr⟩, hshown⟩
    have hsame := (hshown r hr).symm.trans (hview r hr)
    simpa using hsame
  · rintro rfl
    let r : Request := ⟨"GET", subscriptionPath v.id, none, headers, []⟩
    exact ⟨⟨r, rfl, ⟨_, path_tame hid.1 hid.2, parameter_tame hid.1 _⟩, hsent⟩, hview⟩

/-- What a caller sees of the active subscriptions of an account, one by one and in order. -/
structure Catalogue (ctx : Context) (s : Store) (caller : Caller) (account : String)
    (ds : List SubscriptionDescriptor) : Prop where
  mem_iff : ∀ d, d ∈ ds ↔ ∃ v, .ofSubscription v ∈ s.subscriptions.rows ∧ v.account = account ∧
    v.isActive = true ∧ Sees ctx s caller v.id d
  ascending : ds.Pairwise SubscriptionDescriptor.Before
  /-- There is at most one for a service. -/
  single : ∀ service, (ds.filter fun d => d.service = service).length ≤ 1

/-- What is listed is what is seen one by one. -/
theorem Listed.catalogue (hs : Written s) (hone : OneActive s)
    (htame : ∀ v, .ofSubscription v ∈ s.subscriptions.rows → TameId v.id) {headers : Headers}
    (hsent : Caller.ofHeaders headers = .ok caller)
    (hplatform : caller.require Role.platform = .ok ()) {account : String}
    (hentitled : Entitled s caller account [Role.accountOwner, Role.accountMember])
    {there : RoleSet} (hthere : s.accountRoles account caller.user = .ok there)
    {vs : List Subscription} (hvs : s.Listed account vs) :
    Catalogue ctx s caller account (vs.map fun v => v.descriptor ctx.baseUrl caller there) where
  mem_iff := by
    have hsees {v : Subscription} (hv : .ofSubscription v ∈ s.subscriptions.rows)
        (haccount : v.account = account) {d : SubscriptionDescriptor} :
        Sees ctx s caller v.id d ↔ d = v.descriptor ctx.baseUrl caller there := by
      subst haccount
      exact sees_iff hs hv (htame v hv) hsent hplatform hentitled (Or.inr hthere)
    intro d
    constructor
    · intro hd
      obtain ⟨v, hv, rfl⟩ := List.mem_map.1 hd
      obtain ⟨hrow, haccount, hactive⟩ := hvs.mem hv
      exact ⟨v, hrow, haccount, hactive, (hsees hrow haccount).2 rfl⟩
    · rintro ⟨v, hrow, haccount, hactive, hd⟩
      obtain ⟨w, hw, hsame⟩ := hvs.all hrow haccount hactive
      refine List.mem_map.2 ⟨w, hw, ?_⟩
      -- the rows are the same, and so are the subscriptions but for parts of seconds
      rw [(hsees hrow haccount).1 hd, ← w.descriptor_floorDates,
        SubscriptionRow.floorDates_eq hsame, v.descriptor_floorDates]
  ascending := by
    refine List.pairwise_map.2 (hvs.ascending.imp fun {v w} h => ?_)
    exact h.imp Bytes.ofText_lt_ofText.2 (And.imp_right Bytes.ofText_lt_ofText.2)
  single := by
    intro service
    have hsame : ((vs.map fun v => v.descriptor ctx.baseUrl caller there).map
        SubscriptionDescriptor.service) = vs.map Subscription.service := by
      rw [List.map_map]
      rfl
    rw [filter_eq_find? (hsame ▸ hvs.services hone)]
    exact Option.length_toList_le

theorem Reached.oneActive {P : Context → Prop} (hs : Reached P s) : OneActive s := by
  induction hs with
  | empty => exact oneActive_empty
  | next _ ctx _ r ih => exact (respond_leads ctx _ r).keeps oneActive_write ih

section

variable {registry : Registry} (hplain : AllPlain registry)
include hplain

/-- The subscriptions that requests have made have ids that can stand in a path. -/
theorem Reached.tame (hs : Reached (·.registry = registry) s) {v : Subscription}
    (hv : .ofSubscription v ∈ s.subscriptions.rows) : TameId v.id :=
  orderly_tame (hs.mono fun _ hctx => plain_faithful hplain hctx).orderly hv

/-- Who makes a subscription sees it as it was shown to them. -/
theorem made_seen (hs : Reached (·.registry = registry) s) (hctx : ctx.registry = registry)
    (hplatform : caller.require Role.platform = .ok ()) (hmethod : r.method = "POST")
    (hpath : Resource.ofPath? r.path = some .subscriptions)
    (hsent : Caller.ofHeaders r.headers = .ok caller)
    (hstatus : (respond ctx s r).response.status = 201) :
    ∃ d, (respond ctx s r).response = ⟨201, .shown (.subscription d), none⟩ ∧
      ∀ later : Context, later.baseUrl = ctx.baseUrl →
        Sees later (respond ctx s r).store caller d.id d := by
  have ht : Reached (·.registry = registry) (respond ctx s r).store := hs.next ctx hctx r
  rcases respond_subscribing ctx s hmethod hpath with
    ⟨response, hreply, hwhy⟩ | ⟨caller', hsent', hreply⟩
  · rw [hreply] at hstatus
    rcases hwhy with rfl | ⟨text, rfl⟩
    · have hfailed : Failure.missingIdentity.status = 201 := hstatus
      exact absurd hfailed (by decide)
    · exact absurd hstatus (by simp [Reply.unchanged, Response.plain])
  · obtain rfl : caller' = caller := Except.ok.inj (hsent'.symm.trans hsent)
    rw [hreply] at hstatus ht ⊢
    cases hanswer : (subscribe ctx s caller' r.body).answer with
    | error f =>
      have hmade : (Response.failed f).status = 201 := by
        simpa [Reply.made, Reply.ofOutcome, hanswer] using hstatus
      have hfailed : 400 ≤ (Response.failed f).status := f.status_ge
      omega
    | ok d =>
      obtain ⟨v, there, hshows, howner⟩ := subscribe_shows (hctx ▸ hplain) hanswer
      have hentitled : Entitled (subscribe ctx s caller' r.body).store caller' v.account
          [Role.accountOwner, Role.accountMember] := by
        rcases howner with hpriv | hthere
        · exact Or.inl hpriv
        · exact hshows.entitled hthere List.mem_cons_self
      refine ⟨d, ?_, fun later hbase => ?_⟩
      · simp [Reply.made, Reply.ofOutcome, hanswer]
      · obtain rfl := hshows.descriptor
        refine (sees_iff ht.written hshows.stored (ht.tame hplain hshows.stored) hsent hplatform
          hentitled hshows.roles).2 ?_
        rw [hbase]

end

/-- **One subscription has one view.** With default services, in every store that requests have
made:

* who makes a subscription is shown what they see when they ask for it by its id right afterwards;
* who may see the subscriptions of an account is listed what they see of the active ones when they
  ask for each by its id, in the order of the services and the ids;
* when a service is named, the one to it is listed, if there is one. -/
theorem one_view {registry : Registry} (hplain : AllPlain registry)
    (hs : Reached (·.registry = registry) s) (hctx : ctx.registry = registry) {headers : Headers}
    (hsent : Caller.ofHeaders headers = .ok caller)
    (hplatform : caller.require Role.platform = .ok ()) :
    (∀ r : Request, r.method = "POST" → Resource.ofPath? r.path = some .subscriptions →
      Caller.ofHeaders r.headers = .ok caller → (respond ctx s r).response.status = 201 →
        ∃ d, (respond ctx s r).response = ⟨201, .shown (.subscription d), none⟩ ∧
          ∀ later : Context, later.baseUrl = ctx.baseUrl →
            Sees later (respond ctx s r).store caller d.id d) ∧
    ∀ account, Entitled s caller account [Role.accountOwner, Role.accountMember] →
      ∃ ds, Catalogue ctx s caller account ds ∧
        (s.hasAccount account = true →
          (∀ r : Request, r.Lists caller account none ∨ r.Lists caller account (some "") →
            (respond ctx s r).response = ⟨200, .shown (.subscriptions ds), none⟩) ∧
          ∀ (r : Request) (service : String), service ≠ "" →
            r.Lists caller account (some service) → (respond ctx s r).response
              = ⟨200, .shown (.subscriptions (ds.filter fun d => d.service = service)), none⟩) ∧
        (s.hasAccount account = false → ∀ (r : Request) service, r.Lists caller account service →
          (respond ctx s r).response = .failed (.accountNotFound account)) := by
  have hone : OneActive s := hs.oneActive
  refine ⟨fun r hmethod hpath hsent hstatus =>
    made_seen hplain hs hctx hplatform hmethod hpath hsent hstatus, fun account hentitled => ?_⟩
  obtain ⟨there, hthere⟩ := hs.written.accountRoles_ok account caller.user
  obtain ⟨vs, hvs, hall⟩ := hs.written.activeSubscriptions_listed account
  have hreads := hentitled.reads hs.written hthere
  refine ⟨_, Listed.catalogue hs.written hone (fun v hv => hs.tame hplain hv) hsent hplatform
    hentitled hthere hvs, fun haccount => ?_, fun hmissing r service hr => ?_⟩
  · obtain ⟨hwhole, hnamed⟩ :=
      activeSubscriptions_view ctx hs.written hone hvs hall haccount hthere hreads
    refine ⟨?_, fun r service hservice hr => ?_⟩
    · rintro r (hr | hr)
      · rw [hr.respond, hwhole none rfl]
        rfl
      · rw [hr.respond, hwhole (some "") rfl]
        rfl
    · rw [hr.respond, hnamed service hservice, List.filter_map]
      rfl
  · rw [hr.respond]
    unfold Platform.activeSubscriptions
    rw [hthere, ok_bind, hreads, ok_bind, hs.written.account_missing hmissing]
    rfl

/-- Ann, who uses the platform. -/
def ann : Caller := ⟨"ann", .ofList [Role.user]⟩

/-- What is left when Ann has taken the plan with the trial. -/
def trialTaken : Store := (respond mailOnly (trialOffered.store .empty) trialRequest).store

/-- Ann lists the subscriptions of her account. -/
def annLists (query : Option String) : Request :=
  { leaving with
    method := "GET", path := "/api/account/account/subscriptions", query, body := [] }

/-- Ann is shown one view of the subscription with a trial, wherever she looks. -/
theorem one_view_trial :
    ∃ d, (respond mailOnly (trialOffered.store .empty) trialRequest).response
        = ⟨201, .shown (.subscription d), none⟩ ∧
      d.dates.trialEnd = some "01/08/1970" ∧ Sees mailOnly trialTaken ann d.id d ∧
        Catalogue mailOnly trialTaken ann "account" [d] ∧
          (respond mailOnly trialTaken (annLists (some "service=mail"))).response
            = ⟨200, .shown (.subscriptions [d]), none⟩ := by
  have hplain : AllPlain mailOnly.registry := by
    intro service hservice
    cases List.mem_singleton.1 hservice
    rfl
  have hmail : mailOnly.registry = mailOnly.registry := rfl
  have hsent : Caller.ofHeaders trialRequest.headers = .ok ann := rfl
  have hoffered : Reached (·.registry = mailOnly.registry) (trialOffered.store .empty) := by
    refine History.reached .empty trialOffered fun e he => ?_
    simp only [trialOffered, List.mem_cons, List.not_mem_nil, or_false] at he
    rcases he with rfl | rfl <;> rfl
  have htaken : Reached (·.registry = mailOnly.registry) trialTaken :=
    hoffered.next mailOnly rfl trialRequest
  have hpath : Resource.ofPath? "/api/account/account/subscriptions"
      = some (.accountSubscriptions "account") := by decide +kernel
  obtain ⟨hstatus, hterms, hmember, haccount, hsame⟩ :
      (respond mailOnly (trialOffered.store .empty) trialRequest).response.status = 201 ∧
        (∀ d ∈ (respond mailOnly (trialOffered.store .empty)
          trialRequest).response.content.descriptors,
            d.dates.trialEnd = some "01/08/1970" ∧ d.service = "mail") ∧
        .ofMember ⟨"account", "ann", [Role.accountOwner]⟩ ∈ trialTaken.members.rows ∧
        trialTaken.hasAccount "account" = true ∧
        (respond mailOnly trialTaken (annLists none)).response.content.descriptors
          = (respond mailOnly (trialOffered.store .empty)
            trialRequest).response.content.descriptors := by
    decide +kernel
  obtain ⟨hmade, -⟩ := one_view hplain hoffered hmail hsent rfl
  obtain ⟨d, hd, hseen⟩ := hmade trialRequest rfl (by decide +kernel) hsent hstatus
  have howner : trialTaken.Gives "account" ann.user Role.accountOwner :=
    htaken.written.gives_iff.2 ⟨_, hmember, rfl, rfl, List.mem_singleton.2 rfl⟩
  obtain ⟨-, hlisted⟩ := one_view hplain htaken hmail hsent rfl
  obtain ⟨ds, hcatalogue, hshown, -⟩ :=
    hlisted "account" (Or.inr ⟨_, List.mem_cons_self, howner⟩)
  obtain ⟨hwhole, hnamed⟩ := hshown haccount
  have hlists (query : Option String) {service : Option String}
      (hquery : (annLists query).field "service" = .ok service) :
      (annLists query).Lists ann "account" service :=
    ⟨rfl, ⟨"account", hpath, rfl⟩, hquery, hsent⟩
  rw [hwhole _ (Or.inl (hlists none rfl)), hd] at hsame
  obtain rfl : ds = [d] := hsame
  rw [hd] at hterms
  obtain ⟨htrial, hservice⟩ := hterms d List.mem_cons_self
  refine ⟨d, hd, htrial, hseen mailOnly rfl, hcatalogue, ?_⟩
  rw [hnamed _ "mail" (by decide) (hlists (some "service=mail") rfl)]
  simp [hservice]

end Http

end CloudIde
