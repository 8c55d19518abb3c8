import CloudIde.Proofs.InternalProperties
import CloudIde.Proofs.JsonFields
import CloudIde.Proofs.Links

/-!
# Where internal properties are shown

Wherever a subscription is shown, its internal properties are left out for callers who are not
privileged. Plans are shown as they are stored, to everybody known to the platform, and
subscriptions take their properties from plans. `internal_shown` says where a caller who is not
privileged gets to see an internal property: when plans are listed or one is shown, each that a
stored plan has, and nowhere else. So what is left out of a subscription can be read in its plan
(`tariff_listed`).

Responses are JSON values, and it is in these that properties are looked for, in the fields named
`properties` at any depth. Their shapes tell what can stand there: the properties of descriptors and
of plans.
-/

namespace CloudIde

open Json

variable {entries : List (String × Json)}

/-- The one object in the field of a descriptor is that of its properties. -/
theorem SubscriptionDescriptor.under_properties {d : SubscriptionDescriptor}
    (h : Under "properties" (.object entries) (Wire.toJson d)) :
    .object entries = ofDict d.properties := by
  obtain ⟨part, hpart, heq⟩ := Wire.under_toJson h
  have hdict : part = ⟨.dict, d.properties⟩ := by
    simpa [Wire.shape, Wire.toVal, Shape.held, Fields.held] using hpart
  rw [← heq, hdict]
  simp only [Shape.toJson]

theorem Plan.under_properties {p : Plan} :
    Under "properties" (.object entries) (Wire.toJson p) ↔
      .object entries = ofDict p.properties := by
  constructor
  · intro h
    obtain ⟨part, hpart, heq⟩ := Wire.under_toJson h
    obtain rfl : part = ⟨.dict, p.properties⟩ := List.mem_singleton.1 hpart
    rw [← heq]
    simp only [Shape.toJson]
  · intro h
    simp only [h, Wire.toJson, Wire.shape, Wire.toVal, Shape.toJson, Fields.toJson]
    exact .field (by simp)

namespace Http

open Store Platform

variable {ctx : Context} {s : Store} {caller : Caller}

/-- The plans in a content. -/
def Content.plans : Content → List Plan
  | .shown (.plan p) => [p]
  | .shown (.plans ps) => ps
  | _ => []

/-- Only descriptors and plans have properties. -/
theorem Content.under_properties {content : Content} {json : Json}
    (hjson : content.json? = some json) (h : Under "properties" (.object entries) json) :
    (∃ d ∈ content.descriptors, .object entries = ofDict d.properties) ∨
      ∃ p ∈ content.plans, .object entries = ofDict p.properties := by
  cases content with
  | text | nothing => exact absurd hjson (by simp [json?])
  | failure f =>
    cases hjson
    obtain ⟨field, hfield, h⟩ := under_object.1 h
    simp only [List.mem_cons, List.not_mem_nil, or_false] at hfield
    rcases hfield with rfl | rfl <;> exact False.elim (h.elim (by simp) nofun)
  | shown payload =>
    cases hjson
    cases payload with
    | subscription d =>
      exact .inl ⟨d, List.mem_singleton.2 rfl, SubscriptionDescriptor.under_properties h⟩
    | subscriptions ds =>
      obtain ⟨d, hd, h⟩ := Wire.under_toJson_list.1 h
      exact .inl ⟨d, hd, SubscriptionDescriptor.under_properties h⟩
    | plan p => exact .inr ⟨p, List.mem_singleton.2 rfl, Plan.under_properties.1 h⟩
    | plans ps =>
      obtain ⟨p, hp, h⟩ := Wire.under_toJson_list.1 h
      exact .inr ⟨p, hp, Plan.under_properties.1 h⟩
    | health =>
      obtain ⟨field, hfield, h⟩ := under_object.1 h
      simp only [List.mem_cons, List.not_mem_nil, or_false] at hfield
      rcases hfield with rfl | rfl | rfl <;> exact False.elim (h.elim (by simp) nofun)
    | _ => exact absurd h (Wire.not_under (by decide))

/-- The properties of plans in a content stand in its JSON form. -/
theorem Content.under_plan {content : Content} {p : Plan} (hp : p ∈ content.plans) :
    ∃ json, content.json? = some json ∧ Under "properties" (ofDict p.properties) json := by
  unfold plans at hp
  split at hp
  · obtain rfl := List.mem_singleton.1 hp
    exact ⟨_, rfl, Plan.under_properties.2 rfl⟩
  · exact ⟨_, rfl, Wire.under_toJson_list.2 ⟨p, hp, Plan.under_properties.2 rfl⟩⟩
  · exact absurd hp List.not_mem_nil

/-- Somewhere in the JSON form of a response there are properties with a name among them. -/
def Response.ShowsProperty (response : Response) (property : String) : Prop :=
  ∃ json entries, response.content.json? = some json ∧ Under "properties" (.object entries) json ∧
    ∃ value, (property, value) ∈ entries

theorem mem_keys_of_ofDict {d : Dict} {property : String} {value : Json}
    (h : .object entries = ofDict d) (hmem : (property, value) ∈ entries) : property ∈ d.keys := by
  obtain rfl := Json.object.inj h
  obtain ⟨e, he, heq⟩ := List.mem_map.1 hmem
  exact List.mem_map.2 ⟨e, he, congrArg Prod.fst heq⟩

theorem Response.ShowsProperty.shown {response : Response} {property : String}
    (h : response.ShowsProperty property) :
    (∃ d ∈ response.content.descriptors, property ∈ d.properties.keys) ∨
      ∃ p ∈ response.content.plans, property ∈ p.properties.keys := by
  obtain ⟨json, entries, hjson, hunder, value, hmem⟩ := h
  rcases Content.under_properties hjson hunder with ⟨d, hd, heq⟩ | ⟨p, hp, heq⟩
  · exact .inl ⟨d, hd, mem_keys_of_ofDict heq hmem⟩
  · exact .inr ⟨p, hp, mem_keys_of_ofDict heq hmem⟩

theorem Response.showsProperty_of_plan {response : Response} {p : Plan} {property : String}
    (hp : p ∈ response.content.plans) (hproperty : property ∈ p.properties.keys) :
    response.ShowsProperty property := by
  obtain ⟨json, hjson, hunder⟩ := Content.under_plan hp
  obtain ⟨e, he, rfl⟩ := List.mem_map.1 hproperty
  exact ⟨json, _, hjson, hunder, _, List.mem_map_of_mem he⟩

theorem Bare.plans {response : Response} (h : Bare response) : response.content.plans = [] := by
  unfold Content.plans
  split
  · next hshown => exact absurd (h.payload hshown) Payload.noConfusion
  · next hshown => exact absurd (h.payload hshown) Payload.noConfusion
  · rfl

/-! ## What operations show -/

/-- Subscriptions are shown by their descriptors. -/
theorem perform_descriptors (hs : Written s) {op : Operation} {d : SubscriptionDescriptor}
    (h : d ∈ (op.perform ctx s caller).response.content.descriptors) :
    ∃ (v : Subscription) (there : RoleSet), d = v.descriptor ctx.baseUrl caller there := by
  cases op with
  | subscribe body =>
    obtain ⟨a, ha, hd⟩ := ofOutcome_descriptors h
    obtain rfl : d = a := List.mem_singleton.1 hd
    have houtcome := subscribe_outcome ctx s caller body
    generalize subscribe ctx s caller body = outcome at houtcome ha
    cases houtcome with
    | unproposed | vetoed | unstored => exact absurd ha (by simp)
    | @stored p v t =>
      obtain ⟨_, _, hd⟩ := map_eq_ok.1 ha
      exact ⟨v, p.roles, hd.symm⟩
  | showSubscription id =>
    obtain ⟨a, ha, hd⟩ := ofOutcome_descriptors h
    obtain rfl : d = a := List.mem_singleton.1 hd
    obtain ⟨v, there, hshows⟩ := subscription_shows hs ha
    exact ⟨v, there, hshows.descriptor⟩
  | listSubscriptions account service =>
    obtain ⟨ds, hds, hd⟩ := ofOutcome_descriptors h
    obtain ⟨there, -, -, hfound⟩ := activeSubscriptions_found hs hds
    obtain ⟨v, hv, -⟩ := hfound d hd
    exact ⟨v, there, hv⟩
  | _ =>
    obtain ⟨a, -, hd⟩ := ofOutcome_descriptors h
    exact absurd hd List.not_mem_nil

/-- The plans that are listed are those that are stored. -/
theorem allPlans_ok (hs : Written s) :
    ∃ ps, s.allPlans = .ok ps ∧ ∀ p, p ∈ ps ↔ .ofPlan p ∈ s.plans.rows := by
  have hread {row : PlanRow} (hrow : row ∈ s.plans.rows) :
      ∃ p, row = .ofPlan p ∧ readOne PlanRow.read row = .ok p := by
    obtain ⟨p, rfl⟩ := hs.plan row hrow
    exact ⟨p, rfl, PlanRow.readOne_ofPlan p⟩
  unfold Store.allPlans
  rw [Table.naming_made hs.made.plans, ok_bind]
  obtain ⟨ps, hps⟩ := readAll_ok fun row hrow =>
    (hread (Table.mem_select.1 hrow).1).imp fun _ => And.right
  refine ⟨ps, hps, fun p => ⟨fun hp => ?_, fun hp => ?_⟩⟩
  · obtain ⟨row, hrow, hp⟩ := readAll_mem hps p hp
    obtain ⟨hrow, -⟩ := Table.mem_select.1 hrow
    obtain ⟨q, rfl, hq⟩ := hread hrow
    rw [hq] at hp
    cases hp
    exact hrow
  · obtain ⟨q, hq, hread⟩ := readAll_all hps _ (Table.mem_select.2 ⟨hp, rfl⟩)
    rw [PlanRow.readOne_ofPlan] at hread
    cases hread
    exact hq

/-- An operation lists plans, or shows one of an id. -/
inductive ShowsPlan (id : String) : Operation → Prop
  | listed : ShowsPlan id .listPlans
  | shown : ShowsPlan id (.showPlan id)

/-- Administrators are privileged. -/
theorem require_admin_ok (h : caller.require [Role.systemAdmin] = .ok ()) :
    caller.isPrivileged = true := by
  obtain ⟨role, hrole, hadmin⟩ := Caller.require_iff.1 h
  obtain rfl := List.mem_singleton.1 hrole
  exact Bool.or_eq_true_iff.2 (Or.inl hadmin)

/-- A caller who is not privileged sees stored plans and no others, given a role of the platform. -/
theorem perform_plans (hs : Written s) (hc : caller.isPrivileged = false) {op : Operation}
    {p : Plan} :
    p ∈ (op.perform ctx s caller).response.content.plans ↔
      caller.require Role.platform = .ok () ∧ .ofPlan p ∈ s.plans.rows ∧ ShowsPlan p.id op := by
  constructor
  · intro h
    cases op with
    | listPlans =>
      obtain ⟨ps, hps, hp⟩ := ofOutcome_parts (fun _ => rfl) h
      obtain ⟨_, hcaller, hps⟩ := bind_eq_ok.1 hps
      obtain ⟨ps', hps', hmem⟩ := allPlans_ok hs
      obtain rfl : ps = ps' := Except.ok.inj (hps.symm.trans hps')
      exact ⟨hcaller, (hmem p).1 hp, .listed⟩
    | showPlan id =>
      obtain ⟨q, hq, hp⟩ := ofOutcome_parts (fun _ => rfl) h
      obtain rfl : p = q := List.mem_singleton.1 hp
      obtain ⟨_, hcaller, hq⟩ := bind_eq_ok.1 hq
      have hplan (row : PlanRow) (hrow : row ∈ s.plans.rows) :
          ∃ p, row = .ofPlan p ∧ True := (hs.plan row hrow).imp fun _ h => ⟨h, trivial⟩
      obtain ⟨hstored, rfl, -⟩ := plan_stored hplan hq
      exact ⟨hcaller, hstored, .shown⟩
    | createPlan plan =>
      have heffect : Effect ctx s caller (.createPlan plan)
        (Operation.perform ctx s caller (.createPlan plan)) := perform_effect _
      generalize Operation.perform ctx s caller (.createPlan plan) = reply at heffect h
      cases heffect with
      | refused => exact absurd h List.not_mem_nil
      | looked hlooks => exact absurd hlooks Bool.false_ne_true
      | planMade hrole => exact absurd (require_admin_ok hrole) (by simp [hc])
    | _ =>
      obtain ⟨a, -, hp⟩ := ofOutcome_parts (fun _ => rfl) h
      exact absurd hp List.not_mem_nil
  · rintro ⟨hcaller, hp, hop⟩
    cases hop with
    | listed =>
      obtain ⟨ps, hps, hmem⟩ := allPlans_ok hs
      have hanswer : Platform.plans s caller = .ok ps := by
        unfold Platform.plans
        rw [hcaller, ok_bind, hps]
      simp only [Operation.perform, hanswer]
      exact (hmem p).2 hp
    | shown =>
      have hanswer : Platform.plan s caller p.id = .ok p := by
        unfold Platform.plan
        rw [hcaller, ok_bind, hs.plan_found hp]
      simp only [Operation.perform, hanswer]
      exact List.mem_singleton.2 rfl

/-! ## What requests show -/

/-- A plan is read by a request: it is stored, and all plans or this one are asked for by somebody
known to the platform. -/
structure Request.Reads (r : Request) (s : Store) (p : Plan) : Prop where
  method : r.method = "GET"
  path : Resource.ofPath? r.path = some .plans ∨
    ∃ raw, Resource.ofPath? r.path = some (.plan raw) ∧ Request.parameter "plan_id" raw = .ok p.id
  caller : ∃ caller, Caller.ofHeaders r.headers = .ok caller ∧ caller.require Role.platform = .ok ()
  stored : .ofPlan p ∈ s.plans.rows

/-- Plans are shown in two places. -/
theorem Asks.showsPlan {r : Request} {d : Demand} {resource : Resource} {method : Method}
    {id : String} (h : Asks r d resource method) (hop : ShowsPlan id d.operation) :
    method = .get ∧ (resource = .plans ∨
      ∃ raw, resource = .plan raw ∧ Request.parameter "plan_id" raw = .ok id) := by
  have hasked := h.askedAt
  generalize d.operation = op at hasked hop
  cases hop with
  | listed => exact ⟨hasked.2, .inl hasked.1⟩
  | shown => exact ⟨hasked.1, .inr hasked.2⟩

variable {r : Request}

theorem reply_descriptors (hs : Written s) {d : Demand} {v : SubscriptionDescriptor}
    (hc : d.caller.isPrivileged = false)
    (hv : v ∈ (d.reply ctx s).response.content.descriptors) :
    ∀ property ∈ v.properties.keys, Subscription.isInternal property = false := by
  obtain ⟨w, there, rfl⟩ := perform_descriptors hs (mem_reply rfl hv).2
  intro property hproperty
  obtain ⟨e, he, rfl⟩ := List.mem_map.1 hproperty
  have hshown := (List.mem_filter.1 he).2
  simpa [hc] using hshown

theorem reply_plans (hs : Written s) {d : Demand} {p : Plan}
    (hc : d.caller.isPrivileged = false) (hd : r.demand = .ok d)
    (hp : p ∈ (d.reply ctx s).response.content.plans) : r.Reads s p := by
  obtain ⟨resource, method, hasks⟩ := Request.demand_ok hd
  obtain ⟨hbare, hp⟩ := mem_reply rfl hp
  obtain ⟨hrole, hstored, hop⟩ := (perform_plans hs hc).1 hp
  obtain ⟨rfl, hresource⟩ := hasks.showsPlan hop
  have hnamed := hasks.named.resolve_right fun hhead => by simp [hhead.2.2] at hbare
  refine ⟨hnamed.1, ?_, ⟨d.caller, hasks.caller, hrole⟩, hstored⟩
  have hpath := hasks.path
  rcases hresource with rfl | ⟨raw, rfl, hid⟩
  · exact .inl hpath
  · exact .inr ⟨raw, hpath, hid⟩

theorem respond_reads (hs : Written s) (hr : r.FromUnprivileged) {p : Plan} (h : r.Reads s p) :
    p ∈ (respond ctx s r).response.content.plans := by
  obtain ⟨caller, hcaller, hrole⟩ := h.caller
  have hmethod : r.method = Method.get.text := h.method
  have hplans {op : Operation} (hop : ShowsPlan p.id op) :
      p ∈ (op.perform ctx s caller).response.content.plans :=
    (perform_plans hs (hr caller hcaller)).2 ⟨hrole, h.stored, hop⟩
  rcases h.path with hpath | ⟨raw, hpath, hid⟩
  · rw [respond_asked hpath hmethod (by decide) (by simp) hcaller rfl]
    exact hplans .listed
  · have hwanted : r.wanted (.plan raw) .get = .ok (.showPlan p.id) := by
      rw [Request.wanted, hid, ok_bind]
    rw [respond_asked hpath hmethod (List.mem_singleton.2 rfl) (by simp) hcaller hwanted]
    exact hplans .shown

/-- **Where internal properties are shown.** A caller who is not privileged is shown an internal
property exactly where plans are read, and there each that one of them has. -/
theorem internal_shown {P : Context → Prop} (hs : Reached P s) (hr : r.FromUnprivileged)
    {property : String} (hinternal : Subscription.isInternal property = true) :
    (respond ctx s r).response.ShowsProperty property ↔
      ∃ p, r.Reads s p ∧ property ∈ p.properties.keys := by
  have hw := hs.written
  constructor
  · intro h
    cases hd : r.demand with
    | error response =>
      rw [respond_of_no_demand hd] at h
      have hbare : Bare response := demand_fails r response hd
      rcases h.shown with ⟨d, hmem, -⟩ | ⟨p, hmem, -⟩
      · exact absurd (hbare.descriptors ▸ hmem) List.not_mem_nil
      · exact absurd (hbare.plans ▸ hmem) List.not_mem_nil
    | ok d =>
      rw [respond_of_demand hd] at h
      obtain ⟨_, _, hasks⟩ := Request.demand_ok hd
      have hc := hr d.caller hasks.caller
      rcases h.shown with ⟨v, hmem, hproperty⟩ | ⟨p, hmem, hproperty⟩
      · have hnot := reply_descriptors hw hc hmem property hproperty
        exact absurd hinternal (by simp [hnot])
      · exact ⟨p, reply_plans hw hc hd hmem, hproperty⟩
  · rintro ⟨p, hreads, hproperty⟩
    exact Response.showsProperty_of_plan (respond_reads hw hr hreads) hproperty

/-- A plan for mail with an internal property. -/
def tariffPlan : Plan where
  id := "basic"
  service := "mail"
  description := ""
  paid := false
  salesOnly := false
  trialDuration := 0
  properties := .ofList [("codenvy:tariff", "basic")]
  billingCycle := 0
  billingCycleType := .autoRenew
  billingContractTerm := 0

/-- The plan is added. -/
def tariffAdded : History :=
  [(mailOnly, administering "POST" "/api/account/plans"
    ("\x7b\"id\":\"basic\",\"serviceId\":\"mail\"," ++
      "\"properties\":\x7b\"codenvy:tariff\":\"basic\"\x7d\x7d"))]

/-- Somebody who is not privileged looks at something. -/
def visiting (path : String) : Request := { leaving with method := "GET", path }

theorem visiting_unprivileged (path : String) : (visiting path).FromUnprivileged := by
  intro caller hcaller
  obtain rfl : ⟨"ann", RoleSet.ofList [Role.user]⟩ = caller := Except.ok.inj hcaller
  decide

theorem tariffAdded_reached : Reached (· = mailOnly) (tariffAdded.store .empty) := by
  refine History.reached .empty tariffAdded fun e he => ?_
  rw [List.mem_singleton.1 he]

/-- In the plan the internal property is shown. -/
theorem internal_shown_tariff :
    (respond mailOnly (tariffAdded.store .empty)
      (visiting "/api/account/plans/basic")).response.ShowsProperty "codenvy:tariff" := by
  have hreads :
      (visiting "/api/account/plans/basic").Reads (tariffAdded.store .empty) tariffPlan := by
    refine ⟨rfl, .inr ⟨"basic", by decide +kernel, by decide +kernel⟩, ?_, by decide +kernel⟩
    exact ⟨⟨"ann", RoleSet.ofList [Role.user]⟩, rfl, rfl⟩
  refine (internal_shown tariffAdded_reached (visiting_unprivileged _) (by decide)).2 ?_
  exact ⟨tariffPlan, hreads, by decide⟩

/-- An internal property can be shown to a caller who is not privileged: it stands in the list of
plans. -/
theorem tariff_listed :
    Reached (· = mailOnly) (tariffAdded.store .empty) ∧
      (visiting "/api/account/plans").FromUnprivileged ∧
      Subscription.isInternal "codenvy:tariff" = true ∧
      (respond mailOnly (tariffAdded.store .empty)
        (visiting "/api/account/plans")).response.ShowsProperty "codenvy:tariff" := by
  refine ⟨tariffAdded_reached, visiting_unprivileged _, by decide, ?_⟩
  have hcontent : (respond mailOnly (tariffAdded.store .empty)
      (visiting "/api/account/plans")).response.content = .shown (.plans [tariffPlan]) := by
    decide +kernel
  have hplan : tariffPlan ∈ (respond mailOnly (tariffAdded.store .empty)
      (visiting "/api/account/plans")).response.content.plans := by
    rw [hcontent]
    exact List.mem_singleton.2 rfl
  exact Response.showsProperty_of_plan hplan (by decide)

end Http

end CloudIde
