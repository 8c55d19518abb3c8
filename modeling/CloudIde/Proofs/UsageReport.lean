import CloudIde.Proofs.OneView
import CloudIde.Proofs.RowByRow

/-!
# What is used under the subscriptions of an account

What an account is subscribed to is shown in two ways. The list of its active subscriptions is one
look at the rows, sorted by service and id. The report of what is used goes through the registered
services, in the order of their ids, and looks for one active subscription to each. As an account
has at most one active subscription to a service, and as both orders are those of the services'
ids, the report goes through the list (`usage_report`): it has an entry for each subscription that
is listed and whose service is registered, in the order of the list, and none besides.
-/

namespace CloudIde

section

variable {α : Type} {key : α → String} {as : List α}

/-- Values of ascending keys have different ones. -/
theorem nodup_keys (h : as.Pairwise fun a b => key a < key b) : (as.map key).Nodup := by
  refine List.pairwise_map.2 (h.imp fun {a b} hlt he => ?_)
  rw [he] at hlt
  exact String.lt_irrefl _ hlt

/-- To look for ascending keys one by one in an ascending list is to pick what has one of them. -/
theorem filterMap_find?_eq_filter {ks : List String} (has : as.Pairwise fun a b => key a < key b)
    (hks : ks.Pairwise (· < ·)) :
    (ks.filterMap fun k => as.find? fun a => key a = k) = as.filter fun a => key a ∈ ks := by
  have hmem : ∀ a, a ∈ (ks.filterMap fun k => as.find? fun a => key a = k) ↔
      a ∈ as.filter fun a => key a ∈ ks := by
    intro a
    rw [List.mem_filterMap, List.mem_filter, decide_eq_true_eq]
    constructor
    · rintro ⟨k, hk, hfind⟩
      have hkey : key a = k := by simpa using List.find?_some hfind
      exact ⟨List.mem_of_find?_eq_some hfind, hkey ▸ hk⟩
    · rintro ⟨ha, hk⟩
      exact ⟨key a, hk, find?_of_nodup (nodup_keys has) ha rfl⟩
  have hleft : (ks.filterMap fun k => as.find? fun a => key a = k).Pairwise
      fun a b => key a < key b := by
    refine List.pairwise_filterMap.2 (hks.imp fun {k l} hlt a ha b hb => ?_)
    have hak : key a = k := by simpa using List.find?_some ha
    have hbl : key b = l := by simpa using List.find?_some hb
    rw [hak, hbl]
    exact hlt
  have hright : (as.filter fun a => key a ∈ ks).Pairwise fun a b => key a < key b :=
    has.sublist List.filter_sublist
  -- both lists ascend and have the same members
  have hperm := (List.perm_ext_iff_of_nodup ((nodup_keys hleft).of_map _)
    ((nodup_keys hright).of_map _)).2 hmem
  refine hperm.eq_of_pairwise (fun a b _ _ hab hba => ?_) hleft hright
  exact absurd (String.lt_trans hab hba) (String.lt_irrefl _)

end

/-- All services can tell what is used under any subscription. -/
def Registry.AllReport (registry : Registry) : Prop :=
  ∀ service ∈ registry.services, ∀ v, ∃ used, service.usage v = .ok used

namespace Platform

open Store

variable {ctx : Context} {s : Store} {caller : Caller} {v : Subscription} {u : SubscriptionUsage}
  {account : String}

/-- What is reported of a subscription: what its service says is used under it, and its
reference. -/
def Reports (ctx : Context) (v : Subscription) (u : SubscriptionUsage) : Prop :=
  ∃ service used, ctx.registry.get? v.service = some service ∧ service.usage v = .ok used ∧
    u = ⟨used.used, v.reference ctx.baseUrl⟩

theorem Reports.service (h : Reports ctx v u) : u.reference.service = v.service := by
  obtain ⟨_, _, -, -, rfl⟩ := h
  rfl

theorem reports_unique : Relator.RightUnique (Reports ctx) := by
  rintro v _ _ ⟨service, used, hservice, hused, rfl⟩ ⟨service', used', hservice', hused', rfl⟩
  obtain rfl := Option.some.inj (hservice.symm.trans hservice')
  obtain rfl := Except.ok.inj (hused.symm.trans hused')
  rfl

/-- Each service is asked for the subscription that is found for it. -/
theorem usagesOf_reports (hreport : ctx.registry.AllReport) {found : String → Option Subscription}
    (hfound : ∀ service, s.activeSubscription account service = .ok (found service))
    (hservice : ∀ service v, found service = some v → v.service = service)
    {services : List Service} (hregistered : ∀ service ∈ services, service ∈ ctx.registry.services) :
    ∃ us, (usagesOf ctx s account services).1 = .ok us ∧
      List.Forall₂ (Reports ctx) ((services.map Service.id).filterMap found) us := by
  induction services with
  | nil => exact ⟨[], rfl, .nil⟩
  | cons service rest ih =>
    obtain ⟨us, hus, hrelated⟩ := ih fun other hother =>
      hregistered other (List.mem_cons_of_mem service hother)
    have hmem := hregistered service List.mem_cons_self
    unfold usagesOf
    rw [hfound, List.map_cons]
    cases hv : found service.id with
    | none =>
      rw [List.filterMap_cons_none hv]
      exact ⟨us, hus, hrelated⟩
    | some v =>
      obtain ⟨used, hused⟩ := hreport service hmem v
      have hget : ctx.registry.get? v.service = some service := by
        rw [hservice _ v hv]
        exact Registry.get?_of_mem hmem
      rw [List.filterMap_cons_some hv]
      simp only [hused, hus]
      exact ⟨_, rfl, .cons ⟨service, used, hget, hused, rfl⟩ hrelated⟩

/-- A caller may see what an account is subscribed to. -/
def MayRead (s : Store) (caller : Caller) (account : String) : Prop :=
  ∃ there, s.accountRoles account caller.user = .ok there ∧
    caller.requireScoped there readers = .ok ()

theorem MayRead.reporting (h : MayRead s caller account) (ctx : Context) :
    reporting ctx s caller account none = .ok ctx.registry.services ∧
      ∀ id, reporting ctx s caller account (some id)
        = (ctx.registry.known id).map fun service => [service] := by
  obtain ⟨there, hthere, hreads⟩ := h
  unfold Platform.reporting
  simp only [hthere, hreads, ok_bind, true_and]
  intro id
  cases ctx.registry.known id <;> rfl

/-- The active subscriptions of an account, as they are listed and as they are found. -/
theorem found_in_list (hs : Written s) (hone : OneActive s) (account : String) :
    ∃ vs, s.activeSubscriptions account = .ok vs ∧
      (vs.Pairwise fun v w => v.service < w.service) ∧
      ∀ service, s.activeSubscription account service
        = .ok (vs.find? fun v => v.service = service) := by
  obtain ⟨vs, hvs, hall⟩ := hs.activeSubscriptions_listed account
  have hne : vs.Pairwise fun v w => v.service ≠ w.service :=
    List.pairwise_map.1 (hvs.services hone)
  refine ⟨_, hall, List.pairwise_map.2 ?_, fun service => ?_⟩
  · refine (hvs.ascending.and hne).imp fun {v w} ⟨hbefore, hservice⟩ => ?_
    rcases hbefore with hlt | ⟨hsame, -⟩
    · exact hlt
    · exact absurd hsame hservice
  · rw [hs.activeSubscription_listed hone hvs, List.find?_map]
    rfl

/-- What is reported goes through what is listed: when all services are asked, and when one is. -/
theorem usagesOf_listed (hs : Written s) (hone : OneActive s) (hreport : ctx.registry.AllReport)
    (account : String) : ∃ vs, s.activeSubscriptions account = .ok vs ∧
      (vs.map Subscription.service).Nodup ∧
      (∃ us, (usagesOf ctx s account ctx.registry.services).1 = .ok us ∧
        List.Forall₂ (Reports ctx) (vs.filter fun v => v.service ∈ ctx.registry.ids) us) ∧
      ∀ service ∈ ctx.registry.services, ∃ us, (usagesOf ctx s account [service]).1 = .ok us ∧
        List.Forall₂ (Reports ctx) (vs.filter fun v => v.service = service.id) us := by
  obtain ⟨vs, hvs, hascending, hfound⟩ := found_in_list hs hone account
  have hservice : ∀ service v, (vs.find? fun v => v.service = service) = some v →
      v.service = service := fun service v hv => by simpa using List.find?_some hv
  refine ⟨vs, hvs, nodup_keys hascending, ?_, fun service hmem => ?_⟩
  · have hids : ctx.registry.ids.Pairwise (· < ·) := List.pairwise_map.2 ctx.registry.ascending
    rw [← filterMap_find?_eq_filter hascending hids]
    exact usagesOf_reports hreport hfound hservice fun _ hmem => hmem
  · have hregistered : ∀ other ∈ [service], other ∈ ctx.registry.services := by simpa using hmem
    have hsingle : ([service].map Service.id).filterMap
        (fun service => vs.find? fun v => v.service = service)
          = vs.filter fun v => v.service = service.id := by
      rw [filter_eq_find? (nodup_keys hascending)]
      cases hv : vs.find? fun v => v.service = service.id with
      | none => simp [hv]
      | some v => simp [hv]
    rw [← hsingle]
    exact usagesOf_reports hreport hfound hservice hregistered

/-- The report to those who may read the account. -/
theorem usages_reports (hs : Written s) (hone : OneActive s) (hreport : ctx.registry.AllReport)
    (hmay : MayRead s caller account) :
    ∃ vs us, s.activeSubscriptions account = .ok vs ∧
      List.Forall₂ (Reports ctx) (vs.filter fun v => v.service ∈ ctx.registry.ids) us ∧
      (usages ctx s caller account none).answer = .ok us ∧
      ∀ x ∈ ctx.registry.ids, (us.filter fun u => u.reference.service = x).length ≤ 1 ∧
        (usages ctx s caller account (some x)).answer
          = .ok (us.filter fun u => u.reference.service = x) := by
  obtain ⟨hwhole, hnamed⟩ := hmay.reporting ctx
  obtain ⟨vs, hvs, hnodup, ⟨us, hus, hrelated⟩, hone⟩ := usagesOf_listed hs hone hreport account
  refine ⟨vs, us, hvs, hrelated, ?_, fun x hx => ?_⟩
  · unfold usages
    rw [hwhole]
    exact hus
  · obtain ⟨service, hget⟩ := Option.isSome_iff_exists.1 (Registry.get?_isSome.2 hx)
    obtain ⟨hmem, rfl⟩ := Registry.get?_mem hget
    obtain ⟨ws, hws, hreported⟩ := hone service hmem
    -- the part of the report that is about one service is about the one subscription to it
    have hpart : List.Forall₂ (Reports ctx) (vs.filter fun v => v.service = service.id)
        (us.filter fun u => u.reference.service = service.id) := by
      have hpicked : (vs.filter fun v => v.service ∈ ctx.registry.ids).filter
          (fun v => v.service = service.id) = vs.filter fun v => v.service = service.id := by
        rw [List.filter_filter]
        refine List.filter_congr fun v _ => ?_
        by_cases hv : v.service = service.id
        · simp [hv, hx]
        · simp [hv]
      rw [← hpicked]
      exact filter_of_forall₂ hrelated fun v u hvu => by rw [hvu.service]
    obtain rfl := reports_unique.forall₂ hreported hpart
    refine ⟨?_, ?_⟩
    · rw [← hpart.length_eq, filter_eq_find? hnodup]
      cases vs.find? fun v => v.service = service.id <;> simp
    · unfold usages
      rw [hnamed, Registry.known_of_get? hget]
      exact hws

end Platform

namespace Http

open Store Platform

variable {ctx : Context} {s : Store} {caller : Caller} {r : Request} {account : String}
  {service : Option String}

/-- Somebody asks what is used under the subscriptions of an account, and may name a service. -/
structure Request.AsksUsages (r : Request) (caller : Caller) (account : String)
    (service : Option String) : Prop where
  method : r.method = "GET"
  path : ∃ raw, Resource.ofPath? r.path = some (.resources raw) ∧
    parameter "account_id" raw = .ok account
  query : r.field "serviceId" = .ok service
  sent : Caller.ofHeaders r.headers = .ok caller

theorem Request.AsksUsages.respond (h : r.AsksUsages caller account service) :
    respond ctx s r = .done .usages (Platform.usages ctx s caller account service) := by
  obtain ⟨raw, hpath, hid⟩ := h.path
  have hget : r.method = Method.get.text := h.method
  have hwanted : r.wanted (.resources raw) .get = .ok (.reportUsages account service) := by
    show (parameter "account_id" raw >>= _) = _
    rw [hid, ok_bind, h.query]
    rfl
  exact respond_asked hpath hget (by simp [Resource.methods]) (by simp) h.sent hwanted

theorem Request.AsksUsages.response {us : List SubscriptionUsage}
    (h : r.AsksUsages caller account service)
    (hus : (Platform.usages ctx s caller account service).answer = .ok us) :
    (Http.respond ctx s r).response = ⟨200, .shown (.usages us), none⟩ := by
  rw [h.respond]
  unfold Reply.done Reply.ofOutcome
  rw [hus]

/-- A service that is not registered is refused whatever is stored. -/
theorem Request.AsksUsages.unregistered {x : String} (h : r.AsksUsages caller account (some x))
    (hx : x ∉ ctx.registry.ids) (hmay : MayRead s caller account) :
    (Http.respond ctx s r).response = .failed .unknownService := by
  obtain ⟨-, hnamed⟩ := hmay.reporting ctx
  have hnone : ctx.registry.get? x = none := by
    rw [← Option.not_isSome_iff_eq_none, Registry.get?_isSome]
    exact hx
  have hunknown : ctx.registry.known x = .error .unknownService := by
    unfold Registry.known
    rw [hnone]
  rw [h.respond]
  unfold Platform.usages
  rw [hnamed, hunknown]
  rfl

/-- **What is used is reported of what is listed.** Whatever has happened to a store, when all
services can tell what is used, whoever may read an account is answered

* without a service, one entry for each active subscription to a registered service, in the order
  in which these are listed;
* with a registered service, the entries to that service, of which there is at most one;
* with another service, a conflict, whatever is stored. -/
theorem usage_report {steps : List Step} (hs : Store.empty.run steps = s)
    (hreport : ctx.registry.AllReport) (hmay : MayRead s caller account) :
    (∃ vs us, s.activeSubscriptions account = .ok vs ∧
      List.Forall₂ (Reports ctx) (vs.filter fun v => v.service ∈ ctx.registry.ids) us ∧
      (∀ r : Request, r.AsksUsages caller account none →
        (respond ctx s r).response = ⟨200, .shown (.usages us), none⟩) ∧
      ∀ x ∈ ctx.registry.ids,
        (us.filter fun u => u.reference.service = x).length ≤ 1 ∧
        ∀ r : Request, r.AsksUsages caller account (some x) → (respond ctx s r).response
          = ⟨200, .shown (.usages (us.filter fun u => u.reference.service = x)), none⟩) ∧
    ∀ x, x ∉ ctx.registry.ids → ∀ t, MayRead t caller account → ∀ r : Request,
      r.AsksUsages caller account (some x) →
        (respond ctx t r).response = .failed .unknownService ∧
          (respond ctx t r).response.status = 409 := by
  have hwritten : Written s := hs ▸ written_run written_empty steps
  have hone : OneActive s := hs ▸ oneActive_run steps
  obtain ⟨vs, us, hvs, hrelated, hwhole, hnamed⟩ := usages_reports hwritten hone hreport hmay
  refine ⟨⟨vs, us, hvs, hrelated, fun r hr => hr.response hwhole, fun x hx => ?_⟩,
    fun x hx t ht r hr => ?_⟩
  · obtain ⟨hsingle, hanswer⟩ := hnamed x hx
    exact ⟨hsingle, fun r hr => hr.response hanswer⟩
  · rw [hr.unregistered hx ht]
    exact ⟨rfl, rfl⟩

/-- Mail tells what is used, the others have nothing to tell; games are not registered. -/
def metered : Context :=
  { mailOnly with
    registry := .ofList
      [.plain "wiki", { Service.plain "mail" with usage := fun v => .ok ⟨[⟨v.account, 0.5⟩]⟩ }] }

/-- What happens to an account that uses wiki, games and mail, and has used wiki before. -/
def subscribing : List Step :=
  [.call (.createAccount ⟨"acme", "Acme"⟩),
    .call (.addMember ⟨"acme", "ann", [Role.accountOwner]⟩),
    .call (.addSubscription (.bare "1" "acme" "wiki" .inactive)),
    .call (.addSubscription (.bare "2" "acme" "wiki" .active)),
    .call (.addSubscription (.bare "3" "acme" "games" .active)),
    .call (.addSubscription (.bare "4" "acme" "mail" .active))]

/-- Ann asks what her account uses. -/
def annAsksUsage (query : Option String) : Request :=
  { leaving with method := "GET", path := "/api/account/acme/resources", query, body := [] }

/-- Mail and wiki are reported, in this order; games cannot be asked for. -/
theorem usage_report_subscribing : ∃ us,
    (respond metered (Store.empty.run subscribing) (annAsksUsage none)).response
        = ⟨200, .shown (.usages us), none⟩ ∧
      us.map (fun u => u.reference.subscription) = ["4", "2"] ∧
      (respond metered (Store.empty.run subscribing)
        (annAsksUsage (some "serviceId=wiki"))).response
          = ⟨200, .shown (.usages (us.filter fun u => u.reference.service = "wiki")), none⟩ ∧
      (respond metered (Store.empty.run subscribing)
        (annAsksUsage (some "serviceId=games"))).response.status = 409 := by
  have hreport : metered.registry.AllReport := by
    have hservices : metered.registry.services
        = [{ Service.plain "mail" with usage := fun v => .ok ⟨[⟨v.account, 0.5⟩]⟩ },
          .plain "wiki"] := rfl
    intro service hservice v
    rw [hservices] at hservice
    rcases List.mem_cons.1 hservice with rfl | hservice
    · exact ⟨_, rfl⟩
    · cases List.mem_singleton.1 hservice
      exact ⟨_, rfl⟩
  have hmay : MayRead (Store.empty.run subscribing) ann "acme" :=
    ⟨RoleSet.ofList [Role.accountOwner], by decide +kernel, rfl⟩
  have hpath : Resource.ofPath? "/api/account/acme/resources" = some (.resources "acme") := by
    decide +kernel
  have hasks (query : Option String) {service : Option String}
      (hquery : (annAsksUsage query).field "serviceId" = .ok service) :
      (annAsksUsage query).AsksUsages ann "acme" service :=
    ⟨rfl, ⟨"acme", hpath, rfl⟩, hquery, rfl⟩
  obtain ⟨⟨vs, us, hvs, hrelated, hwhole, hnamed⟩, hunknown⟩ :=
    usage_report (Eq.refl (Store.empty.run subscribing)) hreport hmay
  have hids : metered.registry.ids = ["mail", "wiki"] := rfl
  refine ⟨us, hwhole _ (hasks none rfl), ?_, ?_, ?_⟩
  · obtain ⟨ws, hws, hascending, hfound⟩ :=
      found_in_list (written_run written_empty subscribing) (oneActive_run subscribing) "acme"
    obtain rfl := Except.ok.inj (hvs.symm.trans hws)
    have hfind {service : String} {v : Subscription}
        (h : (Store.empty.run subscribing).activeSubscription "acme" service = .ok (some v)) :
        (vs.find? fun v => v.service = service) = some v :=
      Except.ok.inj ((hfound service).symm.trans h)
    have hmail : (vs.find? fun v => v.service = "mail") = some (.bare "4" "acme" "mail" .active) :=
      hfind (by decide +kernel)
    have hwiki : (vs.find? fun v => v.service = "wiki") = some (.bare "2" "acme" "wiki" .active) :=
      hfind (by decide +kernel)
    have hpicked : List.Forall₂ (Reports metered)
        [.bare "4" "acme" "mail" .active, .bare "2" "acme" "wiki" .active] us := by
      have hsorted : metered.registry.ids.Pairwise (· < ·) :=
        List.pairwise_map.2 metered.registry.ascending
      rw [← filterMap_find?_eq_filter hascending hsorted, hids] at hrelated
      simpa [hmail, hwiki] using hrelated
    cases hpicked with
    | cons hmail hrest =>
      cases hrest with
      | cons hwiki hnil =>
        cases hnil
        obtain ⟨_, _, -, -, rfl⟩ := hmail
        obtain ⟨_, _, -, -, rfl⟩ := hwiki
        rfl
  · exact (hnamed "wiki" (by rw [hids]; decide)).2 _ (hasks _ rfl)
  · exact (hunknown "games" (by rw [hids]; decide) _ hmay _ (hasks _ rfl)).2

end Http

end CloudIde
