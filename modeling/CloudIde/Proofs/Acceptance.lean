import CloudIde.Proofs.Links
import CloudIde.Proofs.WriteOutcomes

/-!
# When a subscription is accepted

What has to be so for a subscription to be stored is checked in many places: by the reader of the
body, by the operation, when the trial is reckoned, and in the store. `Acceptable` lists it all, and
`subscribed_iff` says that nothing is missing from the list and nothing on it is too much, as long
as services take every subscription as it is. Then one row is added, and `Drawn` says what it holds.
-/

namespace CloudIde

/-! ## What a new row needs -/

namespace Store

variable {s : Store} {v : Subscription}

/-- **An active subscription can be added** to an account that is there and does not use the
service, under an id that is free. -/
theorem Written.addSubscription_iff (hs : Written s) (hactive : v.isActive = true) :
    (∃ t, s.addSubscription v = .ok t) ↔ s.hasAccount v.account = true ∧
      (∀ row ∈ s.subscriptions.rows, row.gives v.account v.service = false) ∧
      s.subscriptions.hasKey [.text v.id] = false := by
  have hfree : ¬ (s.Contested v ∨ s.hasSubscription v.id = true) ↔
      (∀ row ∈ s.subscriptions.rows, row.gives v.account v.service = false) ∧
        s.subscriptions.hasKey [.text v.id] = false := by
    rw [← clashes_iff, not_or]
    simp [SubscriptionRow.clashesWith_ofSubscription, hactive, hasSubscription]
  rw [← hfree]
  constructor
  · rintro ⟨t, ht⟩
    have haccount := (insertSubscription_ok (addSubscription_ok ht)).account hs.made.subscriptions
    refine ⟨haccount, fun htaken => ?_⟩
    rw [hs.addSubscription_eq haccount, (hs.insertSubscription_eq haccount).1 htaken] at ht
    exact absurd ht (by simp)
  · rintro ⟨haccount, hfree⟩
    obtain ⟨T, -, hok⟩ := (hs.insertSubscription_eq haccount).2 hfree
    exact ⟨_, (hs.addSubscription_eq haccount).trans hok⟩

end Store

namespace Platform

open Store

variable {ctx : Context} {s : Store} {caller : Caller} {order : Order} {plan : Plan}

/-- A request for a subscription has all parts that an order has. -/
structure Orders (new : NewSubscription) (order : Order) : Prop where
  account : new.account = some order.account
  plan : new.plan = some order.plan
  usePaymentSystem : new.usePaymentSystem = some order.usePaymentSystem
  /-- No days of trial are no trial. -/
  trial : order.trial = new.trialDuration.filter (· ≠ 0)
  properties : order.properties = new.properties

theorem ofBody_iff {body : Bytes} : Order.ofBody body = .ok order ↔
    ∃ new, Body.optional NewSubscription body = .ok (some new) ∧ Orders new order := by
  have hrequired {α : Type} {value : Option α} {part : String} {a : α} :
      Body.required value part = .ok a ↔ value = some a := by
    cases value <;> simp [Body.required]
  constructor
  · intro h
    obtain ⟨given, hgiven, h⟩ := bind_eq_ok.1 h
    obtain ⟨new, hnew, h⟩ := bind_eq_ok.1 h
    obtain ⟨account, haccount, h⟩ := bind_eq_ok.1 h
    obtain ⟨plan, hplan, h⟩ := bind_eq_ok.1 h
    obtain ⟨payment, hpayment, h⟩ := bind_eq_ok.1 h
    cases h
    rw [hrequired.1 hnew] at hgiven
    exact ⟨new, hgiven, hrequired.1 haccount, hrequired.1 hplan, hrequired.1 hpayment, rfl, rfl⟩
  · rintro ⟨new, hgiven, h⟩
    unfold Order.ofBody
    rw [hgiven, ok_bind, hrequired.2 rfl, ok_bind, hrequired.2 h.account, ok_bind,
      hrequired.2 h.plan, ok_bind, hrequired.2 h.usePaymentSystem, ok_bind, ← h.trial,
      ← h.properties]

/-- What an owner may order who is not privileged: the plan as it is offered. -/
structure AsOffered (order : Order) (plan : Plan) : Prop where
  forAll : plan.salesOnly = false
  payment : order.usePaymentSystem = plan.paid
  trial : ∀ days, order.trial = some days → days = plan.trialDuration
  properties : order.properties = Dict.empty

theorem checkTerms_iff : order.checkTerms plan = .ok () ↔ AsOffered order plan := by
  have htrial : order.trial.any (· ≠ plan.trialDuration) = false ↔
      ∀ days, order.trial = some days → days = plan.trialDuration := by
    cases order.trial <;> simp
  constructor
  · intro h
    unfold Order.checkTerms at h
    split at h
    · exact absurd h (by simp)
    · next hsales =>
      split at h
      · exact absurd h (by simp)
      · next hpayment =>
        split at h
        · exact absurd h (by simp)
        · next hdays =>
          split at h
          · exact absurd h (by simp)
          · next hcustom =>
            exact ⟨Bool.eq_false_iff.2 hsales, Decidable.not_not.1 hpayment,
              htrial.1 (Bool.eq_false_iff.2 hdays), Dict.isEmpty_iff.1 (by simpa using hcustom)⟩
  · rintro ⟨hsales, hpayment, hdays, hcustom⟩
    unfold Order.checkTerms
    rw [if_neg (by simp [hsales]), if_neg (Decidable.not_not.2 hpayment),
      if_neg (Bool.eq_false_iff.1 (htrial.2 hdays)), if_neg (by simp [Dict.isEmpty_iff.2 hcustom])]

/-! ## The draft -/

/-- The subscription that an order of a plan draws up, when it is drawn up now. -/
structure Drawn (ctx : Context) (order : Order) (p : Plan) (v : Subscription) : Prop where
  id : v.id = ctx.newId "subscription"
  account : v.account = order.account
  service : v.service = p.service
  plan : v.plan = p.id
  state : v.state = .active
  description : v.description = p.description
  billingCycle : v.billingCycle = p.billingCycle
  billingCycleType : v.billingCycleType = p.billingCycleType
  billingContractTerm : v.billingContractTerm = p.billingContractTerm
  /-- The properties are those of the plan, and the order gives the value where it names one. -/
  keys : v.properties.keys = p.properties.keys
  values : ∀ key, v.properties.get? key
    = (order.properties.get? key).or (p.properties.get? key)
  /-- Only what is charged is paid for. -/
  payment : v.usePaymentSystem = (order.usePaymentSystem && p.paid)
  /-- A trial starts now, and lasts as many days as were ordered. -/
  trialStart : v.dates.trialStart = order.trial.map fun _ => ctx.now
  trialEnd : v.dates.trialEnd.map Instant.seconds
    = order.trial.map fun days => ctx.now.seconds + days.toInt * daySeconds
  others : v.dates.start = none ∧ v.dates.stop = none ∧ v.dates.billingStart = none ∧
    v.dates.billingEnd = none ∧ v.dates.nextBilling = none

/-- The days of a trial reach forwards, and not beyond the last instant. -/
def TrialFits (ctx : Context) (days : Int32) : Prop :=
  0 < days.toInt ∧ ctx.now.seconds + days.toInt * daySeconds ≤ lastSecond

/-- An order is drawn up when it names no properties of its own and its trial has an end. -/
theorem draft_iff (hforwards : ∀ days, order.trial = some days → 0 < days.toInt) :
    (∃ v, draft ctx order plan = .ok v) ↔
      (∀ key ∈ order.properties.keys, key ∈ plan.properties.keys) ∧
        ∀ days, order.trial = some days → TrialFits ctx days := by
  rw [← overridden_iff]
  constructor
  · rintro ⟨v, h⟩
    obtain ⟨properties, hproperties, h⟩ := bind_eq_ok.1 h
    refine ⟨⟨properties, hproperties⟩, fun days hdays => ⟨hforwards days hdays, ?_⟩⟩
    rw [hdays] at h
    obtain ⟨stop, hstop, -⟩ := startTrial_ok h
    exact (Instant.addDays?_isSome (hforwards days hdays)).1 (Option.isSome_of_eq_some hstop)
  · rintro ⟨⟨properties, hproperties⟩, hfits⟩
    unfold draft
    rw [hproperties]
    cases htrial : order.trial with
    | none => exact ⟨_, rfl⟩
    | some days =>
      obtain ⟨hpositive, hlast⟩ := hfits days htrial
      obtain ⟨stop, hstop⟩ := Option.isSome_iff_exists.1
        ((Instant.addDays?_isSome hpositive).2 hlast)
      have hend : Subscription.trialEnd? ctx.now days = some stop := hstop
      simp only [ok_bind, Subscription.startTrial, hend]
      exact ⟨_, rfl⟩

theorem draft_drawn {v : Subscription} (h : draft ctx order plan = .ok v)
    (hforwards : ∀ days, order.trial = some days → 0 < days.toInt) : Drawn ctx order plan v := by
  obtain ⟨properties, hproperties, h⟩ := bind_eq_ok.1 h
  have hkeys := overridden_keys hproperties
  have hvalues := overridden_get? hproperties
  cases htrial : order.trial with
  | none =>
    rw [htrial] at h
    cases h
    exact ⟨rfl, rfl, rfl, rfl, rfl, rfl, rfl, rfl, rfl, hkeys, hvalues, rfl, by rw [htrial]; rfl,
      by rw [htrial]; rfl, rfl, rfl, rfl, rfl, rfl⟩
  | some days =>
    rw [htrial] at h
    obtain ⟨stop, hstop, rfl⟩ := startTrial_ok h
    have hseconds := Instant.addDays?_seconds hstop (hforwards days htrial)
    refine ⟨rfl, rfl, rfl, rfl, rfl, rfl, rfl, rfl, rfl, hkeys, hvalues, rfl, by rw [htrial]; rfl,
      ?_, rfl, rfl, rfl, rfl, rfl⟩
    rw [htrial]
    exact congrArg some hseconds

/-! ## The order as a whole -/

/-- All that has to be so for an order of a caller to be accepted. -/
structure Acceptable (ctx : Context) (s : Store) (caller : Caller) (order : Order) (p : Plan) :
    Prop where
  role : ∃ role ∈ Role.platform, caller.hasRole role = true
  trial : ∀ days, order.trial = some days → TrialFits ctx days
  planned : .ofPlan p ∈ s.plans.rows ∧ p.id = order.plan
  served : p.service ∈ ctx.registry.ids
  properties : ∀ key ∈ order.properties.keys, key ∈ p.properties.keys
  account : s.hasAccount order.account = true
  /-- The account does not use the service. -/
  unused : ∀ row ∈ s.subscriptions.rows, row.gives order.account p.service = false
  fresh : s.subscriptions.hasKey [.text (ctx.newId "subscription")] = false
  /-- Who is not privileged owns the account, and takes the plan as it is offered. -/
  terms : caller.isPrivileged = true ∨
    s.Gives order.account caller.user Role.accountOwner ∧ AsOffered order p

theorem forwards_iff (hzero : order.trial ≠ some 0) : order.trial.any (· < 0) = false ↔
    ∀ days, order.trial = some days → 0 < days.toInt := by
  cases htrial : order.trial with
  | none => simp
  | some days =>
    have hne : days.toInt ≠ 0 := fun h0 =>
      hzero (htrial.trans (congrArg some (Int32.toInt_inj.1 h0)))
    simp only [Option.any_some, decide_eq_false_iff_not, Int32.lt_iff_toInt_lt, Option.some.injEq]
    refine ⟨fun h days' hdays => ?_, fun h => ?_⟩
    · have hnot : ¬ days.toInt < 0 := h
      rw [← hdays]
      omega
    · have hpositive := h days rfl
      show ¬ days.toInt < 0
      omega

/-- What was proposed and could be added was acceptable. -/
theorem Proposed.acceptable (hs : Written s) {body : Bytes} {p : Proposal}
    (h : Proposed ctx s caller body p order plan) {t : Store}
    (ht : s.addSubscription p.subscription = .ok t) : Acceptable ctx s caller order plan := by
  have hforwards := (forwards_iff (ofBody_trial h.ordered)).1 h.forwards
  have hdrawn := draft_drawn h.drafted hforwards
  have hactive : p.subscription.isActive = true := by
    simp [Subscription.isActive, hdrawn.state]
  obtain ⟨haccount, hunused, hfresh⟩ := (hs.addSubscription_iff hactive).1 ⟨t, ht⟩
  obtain ⟨hproperties, hfits⟩ := (draft_iff hforwards).1 ⟨_, h.drafted⟩
  obtain ⟨hstored, hid, -⟩ := plan_stored (Q := fun _ => True)
    (fun row hrow => (hs.plan row hrow).imp fun _ hp => ⟨hp, trivial⟩) h.planned
  rw [hdrawn.account, hdrawn.service] at hunused
  rw [hdrawn.account] at haccount
  rw [hdrawn.id] at hfresh
  refine {
    role := Caller.require_iff.1 h.platform
    trial := hfits
    planned := ⟨hstored, hid⟩
    served := Registry.get?_isSome.1 (Option.isSome_of_eq_some (Registry.get?_of_known h.served))
    properties := hproperties
    account := haccount
    unused := hunused
    fresh := hfresh
    terms := ?_ }
  cases hpriv : caller.isPrivileged with
  | true => exact Or.inl rfl
  | false => exact Or.inr ⟨rolesFor_owner hpriv h.entitled, checkTerms_iff.1 (h.agreed hpriv)⟩

/-- What is acceptable is proposed. -/
theorem Acceptable.proposed (hs : Written s) (h : Acceptable ctx s caller order plan)
    {body : Bytes} (hbody : Order.ofBody body = .ok order) :
    ∃ p, propose ctx s caller body = .ok p ∧ Drawn ctx order plan p.subscription := by
  have hpositive : ∀ days, order.trial = some days → 0 < days.toInt :=
    fun days hdays => (h.trial days hdays).1
  obtain ⟨v, hdraft⟩ := (draft_iff hpositive).2 ⟨h.properties, h.trial⟩
  have hentitled : Entitled s caller order.account [Role.accountOwner] :=
    h.terms.imp_right fun hterms => ⟨_, List.mem_singleton.2 rfl, hterms.1⟩
  obtain ⟨there, hthere⟩ := rolesFor_entitled hs hentitled
  obtain ⟨service, hservice⟩ := Option.isSome_iff_exists.1 (Registry.get?_isSome.2 h.served)
  have hplan : s.plan order.plan = .ok plan := h.planned.2 ▸ hs.plan_found h.planned.1
  have hforwards := (forwards_iff (ofBody_trial hbody)).2 hpositive
  refine ⟨⟨v, service, there⟩, ?_, draft_drawn hdraft hpositive⟩
  unfold propose
  rw [Caller.require_iff.2 h.role, hbody]
  simp only [ok_bind, hthere, hforwards, Bool.false_eq_true, if_false, hplan,
    Registry.known_of_get? hservice, hdraft]
  split
  · rfl
  · next hpriv => rw [checkTerms_iff.2 (h.terms.resolve_left hpriv).2, ok_bind]

end Platform

namespace Http

open Store Platform

variable {ctx : Context} {s : Store} {caller : Caller} {r : Request}

/-- Services that take every subscription as it is, and take note of it. -/
def Obliging (registry : Registry) : Prop :=
  ∀ service ∈ registry.services, ∀ v, service.before v = .ok v ∧ service.after v = .ok ()

/-- The request gives an order that is acceptable. -/
def Accepts (ctx : Context) (s : Store) (caller : Caller) (body : Bytes) (new : NewSubscription)
    (order : Order) (p : Plan) : Prop :=
  Body.optional NewSubscription body = .ok (some new) ∧ Orders new order ∧
    Acceptable ctx s caller order p

/-- What is acceptable is answered by the subscription that was drawn up, and its row is added. -/
theorem subscribe_accepted (hs : Written s) (hobliging : Obliging ctx.registry) {body : Bytes}
    {new : NewSubscription} {order : Order} {p : Plan}
    (h : Accepts ctx s caller body new order p) :
    ∃ v T there, Drawn ctx order p v ∧ s.subscriptions.Inserted (.ofSubscription v) T ∧
      (subscribe ctx s caller body).answer = .ok (v.descriptor ctx.baseUrl caller there) ∧
      (subscribe ctx s caller body).store = { s with subscriptions := T } := by
  obtain ⟨hgiven, horders, hacceptable⟩ := h
  obtain ⟨proposal, hpropose, hdrawn⟩ :=
    hacceptable.proposed hs (ofBody_iff.2 ⟨new, hgiven, horders⟩)
  have hactive : proposal.subscription.isActive = true := by
    simp [Subscription.isActive, hdrawn.state]
  obtain ⟨t, ht⟩ := (hs.addSubscription_iff hactive).2 (by
    rw [hdrawn.account, hdrawn.service, hdrawn.id]
    exact ⟨hacceptable.account, hacceptable.unused, hacceptable.fresh⟩)
  obtain ⟨T, hT, rfl⟩ := (insertSubscription_ok (addSubscription_ok ht)).only
  obtain ⟨_, _, hproposed⟩ := propose_ok hpropose
  obtain ⟨hbefore, hafter⟩ :=
    hobliging proposal.service (known_mem hproposed.served).1 proposal.subscription
  refine ⟨proposal.subscription, T, proposal.roles, hdrawn, hT, ?_, ?_⟩
  · unfold subscribe
    simp only [hpropose, hbefore, ht, hafter]
    rfl
  · unfold subscribe
    simp only [hpropose, hbefore, ht]

/-- What is not acceptable is refused, and nothing is stored. -/
theorem subscribe_refused (hs : Written s) (hobliging : Obliging ctx.registry) {body : Bytes}
    (h : ¬ ∃ new order p, Accepts ctx s caller body new order p) :
    (∃ f, (subscribe ctx s caller body).answer = .error f) ∧
      (subscribe ctx s caller body).store = s := by
  have houtcome := subscribe_outcome ctx s caller body
  generalize subscribe ctx s caller body = outcome at houtcome ⊢
  cases houtcome with
  | unproposed | vetoed | unstored => exact ⟨⟨_, rfl⟩, rfl⟩
  | @stored proposal v t hpropose hbefore ht =>
    obtain ⟨order, plan, hproposed⟩ := propose_ok hpropose
    rw [(hobliging proposal.service (known_mem hproposed.served).1 proposal.subscription).1]
      at hbefore
    obtain rfl := Except.ok.inj hbefore
    obtain ⟨new, hgiven, horders⟩ := ofBody_iff.1 hproposed.ordered
    exact absurd ⟨new, order, plan, hgiven, horders, hproposed.acceptable hs ht⟩ h

/-- **Exactly what is acceptable is accepted.** A request for a subscription by somebody who names
themselves, with a body that is not too long, is answered by 201 if and only if its body gives an
order that is acceptable; then the row of the subscription that was ordered is added, and otherwise
nothing is. -/
theorem subscribed_iff (hs : Written s) (hobliging : Obliging ctx.registry)
    (hmethod : r.method = "POST") (hpath : Resource.ofPath? r.path = some .subscriptions)
    (hcaller : Caller.ofHeaders r.headers = .ok caller) (hsize : r.body.length ≤ bodyLimit) :
    ((respond ctx s r).response.status = 201 ↔
        ∃ new order p, Accepts ctx s caller r.body new order p) ∧
      (∀ new order p, Accepts ctx s caller r.body new order p → ∃ v T there,
        Drawn ctx order p v ∧ s.subscriptions.Inserted (.ofSubscription v) T ∧
          (respond ctx s r).store = { s with subscriptions := T } ∧
          (respond ctx s r).response
            = ⟨201, .shown (.subscription (v.descriptor ctx.baseUrl caller there)), none⟩) ∧
      ((respond ctx s r).response.status ≠ 201 → (respond ctx s r).store = s) := by
  have hpost : r.method = Method.post.text := hmethod
  have hwanted : r.wanted .subscriptions .post = .ok (.subscribe r.body) := by
    have hcontent : r.content = .ok r.body := if_neg (by omega)
    show (r.content >>= _) = _
    rw [hcontent]
    rfl
  have hanswer : respond ctx s r = .made .subscription (subscribe ctx s caller r.body) :=
    respond_asked hpath hpost (by decide) (by simp) hcaller hwanted
  have haccepted : ∀ new order p, Accepts ctx s caller r.body new order p → ∃ v T there,
      Drawn ctx order p v ∧ s.subscriptions.Inserted (.ofSubscription v) T ∧
        (respond ctx s r).store = { s with subscriptions := T } ∧
        (respond ctx s r).response
          = ⟨201, .shown (.subscription (v.descriptor ctx.baseUrl caller there)), none⟩ := by
    intro new order p h
    obtain ⟨v, T, there, hdrawn, hT, hok, hstore⟩ := subscribe_accepted hs hobliging h
    refine ⟨v, T, there, hdrawn, hT, ?_, ?_⟩
    · rw [hanswer, ← hstore]
      rfl
    · rw [hanswer]
      unfold Reply.made Reply.ofOutcome
      rw [hok]
  have hrefused (h : ¬ ∃ new order p, Accepts ctx s caller r.body new order p) :
      (respond ctx s r).response.status ≠ 201 ∧ (respond ctx s r).store = s := by
    obtain ⟨⟨f, hf⟩, hstore⟩ := subscribe_refused hs hobliging h
    rw [hanswer]
    refine ⟨?_, hstore⟩
    unfold Reply.made Reply.ofOutcome
    rw [hf]
    have hfailed := f.status_ge
    show f.status ≠ 201
    omega
  by_cases h : ∃ new order p, Accepts ctx s caller r.body new order p
  · obtain ⟨new, order, p, haccepts⟩ := h
    obtain ⟨v, T, there, -, -, -, hresponse⟩ := haccepted new order p haccepts
    have hstatus : (respond ctx s r).response.status = 201 := by rw [hresponse]
    exact ⟨⟨fun _ => ⟨new, order, p, haccepts⟩, fun _ => hstatus⟩, haccepted,
      fun hne => absurd hstatus hne⟩
  · obtain ⟨hstatus, hstore⟩ := hrefused h
    exact ⟨⟨fun h201 => absurd h201 hstatus, fun hyes => absurd hyes h⟩, haccepted, fun _ => hstore⟩

/-- An administrator offers a plan with a trial, and Ann opens an account. -/
def trialOffered : History :=
  [(mailOnly, administering "POST" "/api/account/plans"
      "\x7b\"id\":\"basic\",\"serviceId\":\"mail\",\"paid\":true,\"trialDuration\":7\x7d"),
    (mailOnly, { administering "POST" "/api/account" "\x7b\"name\":\"Acme\"\x7d" with
      headers := [("x-user-id", Bytes.ofText "ann"), ("x-user-roles", Bytes.ofText "user"),
        ("content-type", Bytes.ofText "application/json")] })]

/-- The plan with the trial. -/
def trialPlan : Plan where
  id := "basic"
  service := "mail"
  description := ""
  paid := true
  salesOnly := false
  trialDuration := 7
  properties := Dict.empty
  billingCycle := 0
  billingCycleType := .autoRenew
  billingContractTerm := 0

/-- Ann's request for the plan, with the trial. -/
def trialWanted : NewSubscription := ⟨some "account", some "basic", some true, some 7, Dict.empty⟩

def trialRequest : Request :=
  { leaving with
    method := "POST", path := "/api/account/subscriptions"
    body := Bytes.ofText ("\x7b\"accountId\":\"account\",\"planId\":\"basic\"," ++
      "\"usePaymentSystem\":true,\"trialDuration\":7\x7d") }

/-- Ann is accepted, as she owns the account and takes the plan as it is offered. -/
theorem subscribed_iff_trial :
    (respond mailOnly (trialOffered.store .empty) trialRequest).response.status = 201 ∧
      ∃ v, .ofSubscription v ∈
          (respond mailOnly (trialOffered.store .empty) trialRequest).store.subscriptions.rows ∧
        v.isActive = true ∧ v.dates.trialEnd.map Instant.seconds = some 604800 := by
  have hwritten := History.written written_empty trialOffered
  have hobliging : Obliging mailOnly.registry := by
    intro service hservice v
    cases List.mem_singleton.1 hservice
    exact ⟨rfl, rfl⟩
  have howner : (trialOffered.store .empty).Gives "account" "ann" Role.accountOwner := by
    refine hwritten.gives_iff.2 ⟨⟨"account", "ann", [Role.accountOwner]⟩, ?_, rfl, rfl, by decide⟩
    decide +kernel
  have haccepts : Accepts mailOnly (trialOffered.store .empty) ⟨"ann", .ofList [Role.user]⟩
      trialRequest.body trialWanted ⟨"account", "basic", true, some 7, Dict.empty⟩ trialPlan := by
    refine ⟨rfl, ⟨rfl, rfl, rfl, by decide, rfl⟩, {
      role := by decide
      trial := fun days hdays => ?_
      planned := by decide +kernel
      served := by decide
      properties := by decide
      account := by decide +kernel
      unused := by decide +kernel
      fresh := by decide +kernel
      terms := Or.inr ⟨howner, rfl, rfl, fun days hdays => ?_, rfl⟩ }⟩
    · cases hdays
      exact ⟨by decide, by decide⟩
    · exact (Option.some.inj hdays).symm
  obtain ⟨hiff, hadded, -⟩ := subscribed_iff (r := trialRequest) hwritten hobliging rfl
    (by decide +kernel) (show Caller.ofHeaders trialRequest.headers = .ok _ from rfl)
    (by decide +kernel)
  obtain ⟨v, T, there, hdrawn, hT, hstore, -⟩ := hadded _ _ _ haccepts
  refine ⟨hiff.2 ⟨_, _, _, haccepts⟩, v, ?_, ?_, ?_⟩
  · rw [hstore]
    exact hT.mem_iff.2 (Or.inl rfl)
  · simp [Subscription.isActive, hdrawn.state]
  · exact hdrawn.trialEnd

end Http

end CloudIde
