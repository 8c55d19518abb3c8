import CloudIde.Proofs.Acceptance
import CloudIde.Proofs.Unreadable

/-!
# Accounts that do not exist

A request names an account in its path or in the order that its body gives. Roles do not show
whether the account exists: privileged callers need no membership in it, and neither do those who
hold roles of accounts everywhere. So each operation has to look for the account itself, and one of
them does not.

`missing_account` says what comes of it. Whatever a request asks for an account that does not exist,
it fails, unless it asks what is used under the subscriptions of the account. That is reported to be
nothing at all, to whoever holds a role for it everywhere.
-/

namespace CloudIde

namespace Store

variable {s t : Store} {id : String}

theorem account_ne_ok (hno : s.hasAccount id = false) (a : Account) : s.account id ≠ .ok a := by
  intro h
  obtain ⟨_, _, h⟩ := bind_eq_ok.1 h
  rw [Table.find?_eq_none.2 hno] at h
  exact absurd h (by simp)

/-- Nothing is added to an account that does not exist. -/
theorem hasAccount_of_addSubscription {v : Subscription} (h : s.addSubscription v = .ok t) :
    s.hasAccount v.account = true := by
  obtain ⟨_, _, h⟩ := bind_eq_ok.1 h
  split at h
  · next haccount => exact haccount
  · exact absurd h (by simp)

theorem Written.activeSubscription_missing (hs : Written s) (hno : s.hasAccount id = false)
    (service : String) : s.activeSubscription id service = .ok none := by
  obtain ⟨-, -, hrows⟩ := hs.no_rows hno
  have hnone : s.subscriptions.rows.find? (fun row => row.gives id service) = none := by
    refine List.find?_eq_none.2 fun row hrow hgives => hrows row hrow ?_
    simp only [SubscriptionRow.gives, Bool.and_eq_true, decide_eq_true_eq] at hgives
    exact hgives.1.1
  unfold activeSubscription
  rw [Table.naming_made hs.made.subscriptions, ok_bind, hnone]

theorem Written.accountRoles_missing (hs : Written s) (hno : s.hasAccount id = false)
    (user : String) : s.accountRoles id user = .ok RoleSet.empty := by
  refine hs.accountRoles_nonmember fun hmember => ?_
  have hthere := hs.hasAccount_of_isMember hmember
  rw [hno] at hthere
  exact absurd hthere (by simp)

end Store

namespace Platform

open Store

variable {ctx : Context} {s : Store} {caller : Caller} {id : String}

/-- When no service finds a subscription, none is asked and nothing is reported. -/
theorem usagesOf_none (hnone : ∀ service, s.activeSubscription id service = .ok none)
    (services : List Service) : usagesOf ctx s id services = (.ok [], []) := by
  induction services with
  | nil => rfl
  | cons service rest ih =>
    unfold usagesOf
    rw [hnone]
    exact ih

/-- Whoever may read is given a report on an account without a row, of services that there are. -/
theorem reporting_missing (hs : Written s) (hno : s.hasAccount id = false)
    (service : Option String) :
    (∃ services, reporting ctx s caller id service = .ok services) ↔
      (∃ role ∈ readers, caller.hasRole role = true) ∧ ∀ x ∈ service, x ∈ ctx.registry.ids := by
  have hroles : s.accountRoles id caller.user = .ok RoleSet.empty :=
    hs.accountRoles_missing hno caller.user
  have hmay : caller.requireScoped RoleSet.empty readers = .ok () ↔
      ∃ role ∈ readers, caller.hasRole role = true := Caller.require_iff
  unfold reporting
  rw [hroles, ok_bind]
  constructor
  · rintro ⟨services, hreporting⟩
    obtain ⟨_, hallowed, hreporting⟩ := bind_eq_ok.1 hreporting
    refine ⟨hmay.1 hallowed, fun x hx => ?_⟩
    cases hx
    obtain ⟨found, hfound, -⟩ := bind_eq_ok.1 hreporting
    exact Registry.get?_isSome.1 (Option.isSome_of_eq_some (Registry.get?_of_known hfound))
  · rintro ⟨hallowed, hknown⟩
    rw [hmay.2 hallowed, ok_bind]
    cases service with
    | none => exact ⟨_, rfl⟩
    | some x =>
      obtain ⟨found, hfound⟩ := Option.isSome_iff_exists.1 (Registry.get?_isSome.2 (hknown x rfl))
      simp only [Registry.known_of_get? hfound, ok_bind]
      exact ⟨_, rfl⟩

/-- A report on an account that does not exist is given to whoever holds a role for it everywhere,
unless it is to be from a service that is not registered. -/
theorem usages_missing (hs : Written s) (hno : s.hasAccount id = false) (service : Option String)
    (list : List SubscriptionUsage) :
    (usages ctx s caller id service).answer = .ok list ↔
      list = [] ∧ (∃ role ∈ readers, caller.hasRole role = true) ∧
        ∀ x ∈ service, x ∈ ctx.registry.ids := by
  have hreport (services : List Service) : usagesOf ctx s id services = (.ok [], []) :=
    usagesOf_none (hs.activeSubscription_missing hno) services
  rw [← reporting_missing hs hno service]
  unfold usages
  cases reporting ctx s caller id service with
  | error f =>
    constructor
    · intro h
      exact absurd h (by simp [Outcome.refused])
    · rintro ⟨-, _, h⟩
      exact absurd h (by simp)
  | ok services =>
    simp only [hreport services]
    constructor
    · intro h
      exact ⟨(Except.ok.inj h).symm, services, rfl⟩
    · rintro ⟨rfl, -⟩
      rfl

end Platform

namespace Http

open Store Platform

variable {ctx : Context} {s : Store} {caller : Caller} {r : Request} {id : String}

/-! ## Operations -/

/-- The operation is for an account, and looks for it. -/
def Operation.LooksFor (id : String) : Operation → Prop
  | .showAccount a | .addMember a _ | .listMembers a | .listSubscriptions a _ => a = id
  | .subscribe body => ∀ order, Order.ofBody body = .ok order → order.account = id
  | _ => False

theorem ofOutcome_status_ge {α : Type} {status : Nat} {content : α → Content} {o : Outcome α}
    (h : ∀ a, o.answer ≠ .ok a) : 400 ≤ (Reply.ofOutcome status content o).response.status := by
  obtain ⟨answer, t, calls⟩ := o
  cases answer with
  | ok a => exact absurd rfl (h a)
  | error f => exact f.status_ge

/-- Services leave a subscription to the account that ordered it. -/
def KeepsAccounts (ctx : Context) : Prop :=
  ∀ service ∈ ctx.registry.services, ∀ v w, service.before v = .ok w → w.account = v.account

/-- **An operation that looks for the account does not find it.** -/
theorem perform_missing (hno : s.hasAccount id = false) {op : Operation} (hop : op.LooksFor id)
    (hkeeps : ∀ body, op = .subscribe body → KeepsAccounts ctx) :
    400 ≤ (op.perform ctx s caller).response.status := by
  cases op with
  | showAccount account =>
    obtain rfl : account = id := hop
    refine ofOutcome_status_ge fun a h => ?_
    obtain ⟨_, _, h⟩ := bind_eq_ok.1 h
    obtain ⟨_, _, h⟩ := bind_eq_ok.1 h
    exact account_ne_ok hno a h
  | addMember account new =>
    obtain rfl : account = id := hop
    refine ofOutcome_writing (P := fun reply => 400 ≤ reply.response.status)
      (fun f _ => f.status_ge) fun t m h => ?_
    obtain ⟨_, _, h⟩ := bind_eq_ok.1 h
    obtain ⟨_, _, h⟩ := bind_eq_ok.1 h
    obtain ⟨a, ha, -⟩ := bind_eq_ok.1 h
    exact absurd ha (account_ne_ok hno a)
  | listMembers account | listSubscriptions account service =>
    obtain rfl : account = id := hop
    refine ofOutcome_status_ge fun _ h => ?_
    obtain ⟨_, _, h⟩ := bind_eq_ok.1 h
    obtain ⟨_, _, h⟩ := bind_eq_ok.1 h
    obtain ⟨a, ha, -⟩ := bind_eq_ok.1 h
    exact account_ne_ok hno a ha
  | subscribe body =>
    refine ofOutcome_status_ge fun d h => ?_
    have houtcome := subscribe_outcome ctx s caller body
    generalize subscribe ctx s caller body = outcome at houtcome h
    cases houtcome with
    | unproposed | vetoed | unstored => exact absurd h (by simp)
    | @stored p v t hp hv ht =>
      -- what is stored is for the account of the order, as the service has left it
      obtain ⟨order, plan, hproposed⟩ := propose_ok hp
      have haccount : v.account = id := by
        rw [hkeeps body rfl p.service (known_mem hproposed.served).1 _ _ hv,
          (draft_ok hproposed.drafted).2.1]
        exact hop order hproposed.ordered
      have hthere := hasAccount_of_addSubscription ht
      rw [haccount, hno] at hthere
      exact absurd hthere (by simp)
  | createAccount | createPlan | showPlan | listPlans | showSubscription | unsubscribe
  | reportUsages | createCommand | showCommand | updateCommand | removeCommand | listCommands
  | addWorkspaceMember | listWorkspaceMembers => exact hop.elim

/-! ## Requests -/

/-- A request names an account. -/
inductive Request.Names (r : Request) (id : String) : Resource → Prop
  /-- A part of the path names it. -/
  | inPath {raw : String} {resource : Resource}
      (hresource : resource = .account raw ∨ resource = .members raw ∨
        resource = .accountSubscriptions raw ∨ resource = .resources raw)
      (hid : parameter "account_id" raw = .ok id) : Names r id resource
  /-- The body is an order for it. -/
  | inBody {new : NewSubscription} (hbody : Body.optional NewSubscription r.body = .ok (some new))
      (hid : new.account = some id) : Names r id .subscriptions

theorem Request.Names.not_health {resource : Resource} (h : r.Names id resource) :
    resource ≠ .health := by
  rintro rfl
  cases h with
  | inPath hresource _ => simp at hresource

/-- What asks for nothing is refused; whether the service is healthy is no matter of accounts. -/
theorem demand_status_ge {resource : Resource} {response : Response}
    (hpath : Resource.ofPath? r.path = some resource) (hhealth : resource ≠ .health)
    (h : r.demand = .error response) : 400 ≤ response.status := by
  have hoperation (method : Method) :
      FailsWith (fun response => 400 ≤ response.status) (r.operation resource method) := by
    unfold Request.operation
    rw [if_neg hhealth]
    refine FailsWith.bind ?_ fun _ _ => FailsWith.bind ?_ fun _ _ => .ok _
    · unfold Request.caller
      cases Caller.ofHeaders r.headers with
      | ok caller => exact .ok caller
      | error f => exact .error f.status_ge
    · exact (wanted_rejects r hhealth method).mono fun _ hrejects => hrejects.status_ge
  unfold Request.demand at h
  rw [hpath] at h
  simp only at h
  split at h
  · split at h
    · exact absurd h (by simp)
    · next failure hfails =>
      have hfailure := hoperation .get failure hfails
      cases h
      exact hfailure
  · split at h
    · next method _ =>
      split at h
      · exact hoperation method _ (map_eq_error.1 h)
      · cases h
        exact Nat.le_of_ble_eq_true rfl
    · cases h
      exact Nat.le_of_ble_eq_true rfl

/-- A request that names an account asks for an operation that looks for it, or for a report. -/
theorem Request.Names.wanted {resource : Resource} (h : r.Names id resource) {method : Method}
    {op : Operation} (hop : op.AskedAt r resource method) :
    op.LooksFor id ∨ ∃ service, op = .reportUsages id service := by
  cases h with
  | @inPath raw _ hresource hid =>
    -- the raw segment says one account only
    have hsame {account raw' : String} (hraw : raw' = raw)
        (haccount : parameter "account_id" raw' = .ok account) : account = id := by
      rw [hraw, hid] at haccount
      exact (Except.ok.inj haccount).symm
    rcases hresource with rfl | rfl | rfl | rfl <;> cases op <;>
      simp only [Operation.AskedAt, Resource.account.injEq, Resource.members.injEq,
        Resource.accountSubscriptions.injEq, Resource.resources.injEq, reduceCtorEq, false_and,
        and_false, exists_false] at hop
    · obtain ⟨-, raw', hraw, haccount⟩ := hop
      exact Or.inl (hsame hraw.symm haccount)
    · obtain ⟨-, -, raw', hraw, haccount⟩ := hop
      exact Or.inl (hsame hraw.symm haccount)
    · obtain ⟨-, raw', hraw, haccount⟩ := hop
      exact Or.inl (hsame hraw.symm haccount)
    · obtain ⟨-, -, raw', hraw, haccount⟩ := hop
      exact Or.inl (hsame hraw.symm haccount)
    · obtain ⟨-, -, raw', hraw, haccount⟩ := hop
      exact Or.inr ⟨_, by rw [hsame hraw.symm haccount]⟩
  | @inBody new hbody hid =>
    cases op <;>
      simp only [Operation.AskedAt, reduceCtorEq, false_and, and_false, exists_false] at hop
    obtain ⟨-, -, rfl⟩ := hop
    refine Or.inl fun order horder => ?_
    obtain ⟨given, hgiven, horders⟩ := ofBody_iff.1 horder
    rw [hbody] at hgiven
    cases hgiven
    exact Option.some.inj (horders.account.symm.trans hid)

/-- A request for a report, by whoever may have the reports of all accounts. Nothing in it shows
that the account exists. -/
structure Request.Overlooks (r : Request) (ctx : Context) : Prop where
  method : r.method = "GET" ∨ r.method = "HEAD"
  reader : ∃ caller, Caller.ofHeaders r.headers = .ok caller ∧
    ∃ role ∈ readers, caller.hasRole role = true
  registered : ∃ service, r.field "serviceId" = .ok service ∧ ∀ x ∈ service, x ∈ ctx.registry.ids

/-- The report is asked for. -/
theorem Request.Overlooks.demand (h : r.Overlooks ctx) {raw : String}
    (hpath : Resource.ofPath? r.path = some (.resources raw))
    (hid : Request.parameter "account_id" raw = .ok id) :
    ∃ caller service, r.demand = .ok ⟨caller, .reportUsages id service, r.method = "HEAD"⟩ ∧
      (∃ role ∈ readers, caller.hasRole role = true) ∧ ∀ x ∈ service, x ∈ ctx.registry.ids := by
  obtain ⟨caller, hcaller, hreader⟩ := h.reader
  obtain ⟨service, hservice, hregistered⟩ := h.registered
  refine ⟨caller, service, ?_, hreader, hregistered⟩
  have hwanted : r.wanted (.resources raw) .get = .ok (.reportUsages id service) := by
    show (Request.parameter "account_id" raw >>= _) = _
    rw [hid, ok_bind, hservice]
    rfl
  have hoperation : r.operation (.resources raw) .get = .ok (caller, .reportUsages id service) := by
    unfold Request.operation Request.caller
    rw [if_neg (by simp), hcaller, mapError_ok, ok_bind, hwanted]
    rfl
  have hknown : Method.get ∈ (Resource.resources raw).methods := List.mem_cons_self
  rcases h.method with hget | hhead
  · have hmethod : r.method = Method.get.text := hget
    rw [Request.demand_eq hpath hmethod hknown, hoperation, hget]
    rfl
  · unfold Request.demand
    rw [hpath]
    simp only [hhead, true_and]
    rw [if_pos hknown, hoperation]
    simp

/-- The report on an account that does not exist is empty. -/
theorem Request.Overlooks.response (h : r.Overlooks ctx) (hs : Written s)
    (hno : s.hasAccount id = false) {raw : String}
    (hpath : Resource.ofPath? r.path = some (.resources raw))
    (hid : Request.parameter "account_id" raw = .ok id) :
    (respond ctx s r).response
      = ⟨200, if r.method = "HEAD" then .nothing else .shown (.usages []), none⟩ := by
  obtain ⟨caller, service, hdemand, hreader, hregistered⟩ := h.demand hpath hid
  have hnothing : (usages ctx s caller id service).answer = .ok [] :=
    (usages_missing hs hno service []).2 ⟨rfl, hreader, hregistered⟩
  have hperform : ((Operation.reportUsages id service).perform ctx s caller).response
      = ⟨200, .shown (.usages []), none⟩ := by
    show (Reply.ofOutcome 200 _ _).response = _
    unfold Reply.ofOutcome
    rw [hnothing]
  rw [respond_of_demand hdemand]
  unfold Demand.reply
  by_cases hhead : r.method = "HEAD"
  · simp [hhead, Reply.withoutContent, hperform]
  · simp [hhead, hperform]

/-- What is asked for an account that does not exist fails, or is a report. -/
theorem missing_cases (hno : s.hasAccount id = false) {resource : Resource}
    (hpath : Resource.ofPath? r.path = some resource) (hnames : r.Names id resource)
    (hkeeps : resource = .subscriptions → r.method = "POST" → KeepsAccounts ctx) :
    400 ≤ (respond ctx s r).response.status ∨
      ∃ d raw service, r.demand = .ok d ∧ resource = .resources raw ∧ Asks r d resource .get ∧
        d.operation = .reportUsages id service := by
  cases hdemand : r.demand with
  | error response =>
    rw [respond_of_no_demand hdemand]
    exact Or.inl (demand_status_ge hpath hnames.not_health hdemand)
  | ok d =>
    obtain ⟨other, method, hasks⟩ := Request.demand_ok hdemand
    obtain rfl : other = resource := Option.some.inj (hasks.path.symm.trans hpath)
    rw [respond_of_demand hdemand, Demand.reply_status]
    rcases hnames.wanted hasks.askedAt with hlooks | ⟨service, hreport⟩
    · refine Or.inl (perform_missing hno hlooks fun body hbody => ?_)
      have hordered := hasks.askedAt
      rw [hbody] at hordered
      obtain ⟨rfl, rfl, -⟩ := hordered
      exact hkeeps rfl ((hasks.named.resolve_right fun hhead => by simp at hhead).1)
    · have hasked := hasks.askedAt
      rw [hreport] at hasked
      obtain ⟨rfl, -, raw, hraw, -⟩ := hasked
      exact Or.inr ⟨d, raw, service, rfl, hraw, hasks, hreport⟩

/-- **No account, no success, with one exception.** A request that names an account fails when the
account does not exist, whatever is stored otherwise and whoever asks. For an order services have to
leave the subscription to the account that ordered it; no other request depends on them.

A report on what is used is the exception. It is asked for without a look for the account, and so
it is empty for whoever may have the reports of all accounts; everybody else fails. -/
theorem missing_account (hno : s.hasAccount id = false) {resource : Resource}
    (hpath : Resource.ofPath? r.path = some resource) (hnames : r.Names id resource)
    (hkeeps : resource = .subscriptions → r.method = "POST" → KeepsAccounts ctx) :
    ((∀ raw, resource ≠ .resources raw) → 400 ≤ (respond ctx s r).response.status) ∧
    (Written s → ∀ raw, resource = .resources raw →
      (r.Overlooks ctx → (respond ctx s r).response
        = ⟨200, if r.method = "HEAD" then .nothing else .shown (.usages []), none⟩) ∧
      (¬ r.Overlooks ctx → 400 ≤ (respond ctx s r).response.status)) := by
  have hcases := missing_cases hno hpath hnames hkeeps
  refine ⟨fun hother => ?_, fun hs raw hraw => ⟨fun hover => ?_, fun hnot => ?_⟩⟩
  · rcases hcases with hfails | ⟨-, raw, -, -, hraw, -⟩
    · exact hfails
    · exact absurd hraw (hother raw)
  · subst hraw
    cases hnames with
    | @inPath raw' _ hresource hid =>
      have hsame : raw' = raw := by simpa [eq_comm] using hresource
      exact hover.response hs hno hpath (hsame ▸ hid)
  · rcases hcases with hfails | ⟨d, -, service, hdemand, -, hasks, hreport⟩
    · exact hfails
    · -- an answer would show that the account was overlooked
      have hasked := hasks.askedAt
      rw [hreport] at hasked
      rw [respond_of_demand hdemand, Demand.reply_status, hreport]
      refine ofOutcome_status_ge fun list hlist => hnot ?_
      obtain ⟨-, hreader, hregistered⟩ := (usages_missing hs hno service list).1 hlist
      exact ⟨hasks.named.imp And.left And.left, ⟨d.caller, hasks.caller, hreader⟩,
        ⟨service, hasked.2.1, hregistered⟩⟩

/-- An administrator orders a plan for an account that was never opened. -/
def orderingNowhere : Request :=
  administering "POST" "/api/account/subscriptions"
    "\x7b\"accountId\":\"nowhere\",\"planId\":\"basic\"\x7d"

/-- An administrator looks for an account that was never opened: its members are not shown, and
nothing is ordered for it, but the report on what it uses is. -/
theorem missing_account_nowhere :
    400 ≤ (respond mailOnly Store.empty
        (administering "GET" "/api/account/nowhere/members" "")).response.status ∧
      400 ≤ (respond mailOnly Store.empty orderingNowhere).response.status ∧
      (respond mailOnly Store.empty
        (administering "GET" "/api/account/nowhere/resources" "")).response
          = ⟨200, .shown (.usages []), none⟩ := by
  have hno : Store.empty.hasAccount "nowhere" = false := by decide
  have hkeeps : KeepsAccounts mailOnly := by
    intro service hservice v w h
    cases List.mem_singleton.1 hservice
    cases h
    rfl
  have hid : Request.parameter "account_id" "nowhere" = .ok "nowhere" := rfl
  have hmembers := missing_account (r := administering "GET" "/api/account/nowhere/members" "")
    hno (show Resource.ofPath? _ = some (.members "nowhere") by decide +kernel)
    (.inPath (by simp) hid) (show _ → _ → KeepsAccounts mailOnly from nofun)
  have horder := missing_account (r := orderingNowhere) hno
    (show Resource.ofPath? _ = some .subscriptions by decide +kernel)
    (.inBody (show Body.optional NewSubscription _
      = .ok (some ⟨some "nowhere", some "basic", none, none, Dict.empty⟩) from rfl) rfl)
    (fun _ _ => hkeeps)
  have hresources := missing_account
    (r := administering "GET" "/api/account/nowhere/resources" "") hno
    (show Resource.ofPath? _ = some (.resources "nowhere") by decide +kernel)
    (.inPath (by simp) hid) (show _ → _ → KeepsAccounts mailOnly from nofun)
  refine ⟨hmembers.1 (by simp), horder.1 (by simp), ?_⟩
  exact (hresources.2 written_empty _ rfl).1
    ⟨Or.inl rfl, ⟨⟨"root", .ofList [Role.systemAdmin]⟩, rfl, by decide⟩, ⟨none, rfl, by simp⟩⟩

/-- A report is given on an account that does not exist, though the same caller finds no
subscriptions of it. -/
theorem report_of_no_account :
    Store.empty.hasAccount "nowhere" = false ∧
      (respond mailOnly Store.empty
        (administering "GET" "/api/account/nowhere/resources" "")).response.status = 200 ∧
      (respond mailOnly Store.empty
        (administering "GET" "/api/account/nowhere/subscriptions" "")).response.status = 404 := by
  decide +kernel

end Http

end CloudIde
