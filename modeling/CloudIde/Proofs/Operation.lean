import CloudIde.Http.Router
import CloudIde.Proofs.Fallible

/-!
# What a request asks for

A request is answered in two parts. The first looks at the request alone: it ends in a response
whatever the store holds, or it comes to a **demand**, which is an operation together with the
caller who asks for it and all that the request says about it. The second carries the operation out.

`respond_eq` says that this is how requests are answered. What is to be shown of every request can
then be shown operation by operation, and two stores are compared after the same first part.
-/

namespace CloudIde.Http

/-- What a caller asks for. -/
inductive Operation where
  | createAccount (new : NewAccount)
  | showAccount (id : String)
  | addMember (account : String) (new : NewMember)
  | listMembers (account : String)
  | createPlan (plan : Plan)
  | showPlan (id : String)
  | listPlans
  | subscribe (body : Bytes)
  | showSubscription (id : String)
  | unsubscribe (id : String)
  | listSubscriptions (account : String) (service : Option String)
  | reportUsages (account : String) (service : Option String)
  | createCommand (workspace : String) (body : Bytes)
  | showCommand (id : String)
  | updateCommand (body : Bytes)
  | removeCommand (id : String)
  | listCommands (workspace : String)
  | addWorkspaceMember (workspace : String) (new : NewWorkspaceMember)
  | listWorkspaceMembers (workspace : String)

namespace Operation

/-- What comes of an operation. -/
def perform (ctx : Context) (s : Store) (caller : Caller) : Operation → Reply
  | createAccount new => .made .account (Platform.createAccount ctx s caller new)
  | showAccount id => .shown s .account (Platform.account s caller id)
  | addMember account new => .made .member (Platform.addMember s caller account new)
  | listMembers account => .shown s .members (Platform.members s caller account)
  | createPlan plan => .made .plan (Platform.createPlan ctx s caller plan)
  | showPlan id => .shown s .plan (Platform.plan s caller id)
  | listPlans => .shown s .plans (Platform.plans s caller)
  | subscribe body => .made .subscription (Platform.subscribe ctx s caller body)
  | showSubscription id => .shown s .subscription (Platform.subscription ctx s caller id)
  | unsubscribe id => .removed (Platform.unsubscribe ctx s caller id)
  | listSubscriptions account service =>
    .shown s .subscriptions (Platform.activeSubscriptions ctx s caller account service)
  | reportUsages account service => .done .usages (Platform.usages ctx s caller account service)
  | createCommand workspace body =>
    .made .command (Platform.createCommand ctx s caller workspace body)
  | showCommand id => .shown s .command (Platform.command ctx s caller id)
  | updateCommand body => .done .command (Platform.updateCommand ctx s caller body)
  | removeCommand id => .removed (Platform.removeCommand s caller id)
  | listCommands workspace => .shown s .commands (Platform.commands ctx s caller workspace)
  | addWorkspaceMember workspace new =>
    .made .workspaceMember (Platform.addWorkspaceMember s caller workspace new)
  | listWorkspaceMembers workspace =>
    .shown s .workspaceMembers (Platform.workspaceMembers s caller workspace)

/-- Whether an operation only looks at what is stored. -/
def looks : Operation → Bool
  | showAccount _ | listMembers _ | showPlan _ | listPlans | showSubscription _
  | listSubscriptions .. | reportUsages .. | showCommand _ | listCommands _
  | listWorkspaceMembers _ => true
  | _ => false

end Operation

/-- An operation and who asks for it. -/
structure Demand where
  caller : Caller
  operation : Operation
  /-- Whether the answer is wanted without its content. -/
  bare : Bool

/-- What comes of a demand. -/
def Demand.reply (ctx : Context) (s : Store) (d : Demand) : Reply :=
  let reply := d.operation.perform ctx s d.caller
  if d.bare then reply.withoutContent else reply

namespace Request

/-- The operation that a request for a resource by one of its methods asks for. -/
def wanted (r : Request) : Resource → Method → Except Response Operation
  | .health, _ => .error ⟨200, .shown .health, none⟩
  | .accounts, _ => do .ok (.createAccount (← r.value NewAccount))
  | .plans, .post => do .ok (.createPlan (← r.value Plan))
  | .plans, _ => .ok .listPlans
  | .plan id, _ => do .ok (.showPlan (← parameter "plan_id" id))
  | .subscriptions, _ => do .ok (.subscribe (← r.content))
  | .subscription id, .delete => do .ok (.unsubscribe (← parameter "subscription_id" id))
  | .subscription id, _ => do .ok (.showSubscription (← parameter "subscription_id" id))
  | .account id, _ => do .ok (.showAccount (← parameter "account_id" id))
  | .members id, .post => do
    let id ← parameter "account_id" id
    .ok (.addMember id (← r.value NewMember))
  | .members id, _ => do .ok (.listMembers (← parameter "account_id" id))
  | .accountSubscriptions id, _ => do
    let id ← parameter "account_id" id
    .ok (.listSubscriptions id (← r.field "service"))
  | .resources id, _ => do
    let id ← parameter "account_id" id
    .ok (.reportUsages id (← r.field "serviceId"))
  | .commands, _ => do .ok (.updateCommand (← r.content))
  | .command id, .post => do
    let id ← parameter "id" id
    .ok (.createCommand id (← r.content))
  | .command id, .delete => do .ok (.removeCommand (← parameter "id" id))
  | .command id, _ => do .ok (.showCommand (← parameter "id" id))
  | .workspaceCommands id, _ => do .ok (.listCommands (← parameter "id" id))
  | .workspaceMembers id, .post => do
    let id ← parameter "workspace_id" id
    .ok (.addWorkspaceMember id (← r.value NewWorkspaceMember))
  | .workspaceMembers id, _ => do .ok (.listWorkspaceMembers (← parameter "workspace_id" id))

/-- The operation with its caller, or the response that needs no operation. Whether the service is
healthy may be asked by anybody. -/
def operation (r : Request) (resource : Resource) (method : Method) :
    Except Response (Caller × Operation) :=
  if resource = .health then .error ⟨200, .shown .health, none⟩
  else do
    let caller ← r.caller
    .ok (caller, ← r.wanted resource method)

/-- What a request asks for, or the response that it gets whatever is stored. -/
def demand (r : Request) : Except Response Demand :=
  match Resource.ofPath? r.path with
  | none => .error (.bare 404)
  | some resource =>
    if r.method = "HEAD" ∧ .get ∈ resource.methods then
      match r.operation resource .get with
      | .ok (caller, operation) => .ok ⟨caller, operation, true⟩
      | .error response => .error { response with content := .nothing }
    else match Method.ofText? r.method with
      | some method =>
        if method ∈ resource.methods then
          (r.operation resource method).map fun (caller, operation) => ⟨caller, operation, false⟩
        else .error { Response.bare 405 with allow := some resource.allowed }
      | none => .error { Response.bare 405 with allow := some resource.allowed }

end Request

/-- A resource is served by carrying out the operation that is asked for. -/
theorem serve_eq (ctx : Context) (s : Store) (r : Request) (resource : Resource) (method : Method)
    (h : resource ≠ .health) :
    serve ctx s r resource method =
      (r.operation resource method).map fun d => d.2.perform ctx s d.1 := by
  rw [Request.operation, if_neg h, map_bind]
  cases resource with
  | health => exact absurd rfl h
  | plans | members | workspaceMembers | subscription | command =>
    cases method <;> simp only [serve, Request.wanted, map_bind, bind_assoc, ok_bind] <;> rfl
  | _ =>
    simp only [serve, Request.wanted, map_bind, bind_assoc, ok_bind]
    rfl

theorem reply_eq (ctx : Context) (s : Store) (r : Request) (resource : Resource)
    (method : Method) :
    reply ctx s r resource method =
      match r.operation resource method with
      | .ok (caller, operation) => operation.perform ctx s caller
      | .error response => .unchanged s response := by
  by_cases h : resource = .health
  · subst h
    rfl
  · unfold reply
    rw [serve_eq ctx s r resource method h]
    cases r.operation resource method <;> rfl

/-- **A request is answered by what it asks for.** -/
theorem respond_eq (ctx : Context) (s : Store) (r : Request) :
    respond ctx s r =
      match r.demand with
      | .ok d => d.reply ctx s
      | .error response => .unchanged s response := by
  unfold respond Request.demand
  cases Resource.ofPath? r.path with
  | none => rfl
  | some resource =>
    by_cases hhead : r.method = "HEAD" ∧ .get ∈ resource.methods
    · -- the content is taken off the response, be there an operation or not
      simp only [if_pos hhead, reply_eq]
      cases r.operation resource .get <;> rfl
    · simp only [if_neg hhead]
      cases Method.ofText? r.method with
      | none => rfl
      | some method =>
        by_cases hmethod : method ∈ resource.methods
        · simp only [if_pos hmethod, reply_eq]
          cases r.operation resource method <;> rfl
        · simp only [if_neg hmethod]

/-! ## What the first part settles -/

section

variable {ctx : Context} {s : Store} {r : Request} {d : Demand}

theorem respond_of_demand (h : r.demand = .ok d) : respond ctx s r = d.reply ctx s := by
  rw [respond_eq, h]

theorem respond_of_no_demand {response : Response} (h : r.demand = .error response) :
    respond ctx s r = .unchanged s response := by
  rw [respond_eq, h]

@[simp] theorem Demand.reply_store :
    (d.reply ctx s).store = (d.operation.perform ctx s d.caller).store := by
  unfold Demand.reply
  split <;> rfl

@[simp] theorem Demand.reply_calls :
    (d.reply ctx s).calls = (d.operation.perform ctx s d.caller).calls := by
  unfold Demand.reply
  split <;> rfl

@[simp] theorem Demand.reply_status :
    (d.reply ctx s).response.status = (d.operation.perform ctx s d.caller).response.status := by
  unfold Demand.reply
  split <;> rfl

theorem Request.operation_ok {resource : Resource} {method : Method} {caller : Caller}
    {operation : Operation} (h : r.operation resource method = .ok (caller, operation)) :
    r.caller = .ok caller ∧ r.wanted resource method = .ok operation := by
  unfold Request.operation at h
  split at h
  · exact absurd h (by simp)
  · obtain ⟨other, hc, h⟩ := bind_eq_ok.1 h
    obtain ⟨wanted, hw, h⟩ := bind_eq_ok.1 h
    cases h
    exact ⟨hc, hw⟩

theorem Method.ofText?_text (method : Method) : Method.ofText? method.text = some method := by
  cases method <;> rfl

theorem Method.text_of_ofText? {text : String} {method : Method}
    (h : Method.ofText? text = some method) : method.text = text := by
  simpa using List.find?_some h

/-- A resource is asked for by one of its methods. -/
theorem Request.demand_eq {resource : Resource} {method : Method}
    (hpath : Resource.ofPath? r.path = some resource) (hmethod : r.method = method.text)
    (hknown : method ∈ resource.methods) :
    r.demand = (r.operation resource method).map
      fun (caller, operation) => ⟨caller, operation, false⟩ := by
  have hhead : method.text ≠ "HEAD" := by cases method <;> decide
  unfold Request.demand
  rw [hpath]
  simp only [hmethod, hhead, false_and, if_false, Method.ofText?_text, if_pos hknown]

theorem respond_asked {resource : Resource} {method : Method} {caller : Caller}
    {operation : Operation} (hpath : Resource.ofPath? r.path = some resource)
    (hmethod : r.method = method.text) (hknown : method ∈ resource.methods)
    (hhealth : resource ≠ .health) (hcaller : Caller.ofHeaders r.headers = .ok caller)
    (hwanted : r.wanted resource method = .ok operation) :
    respond ctx s r = operation.perform ctx s caller := by
  have hdemand : r.demand = .ok ⟨caller, operation, false⟩ := by
    rw [Request.demand_eq hpath hmethod hknown, Request.operation, if_neg hhealth, Request.caller,
      hcaller, mapError_ok, ok_bind, hwanted]
    rfl
  rw [respond_of_demand hdemand]
  rfl

/-- The way from a request to what it asks for. -/
structure Asks (r : Request) (d : Demand) (resource : Resource) (method : Method) : Prop where
  path : Resource.ofPath? r.path = some resource
  named : r.method = method.text ∧ d.bare = false ∨
    r.method = "HEAD" ∧ method = .get ∧ d.bare = true
  known : method ∈ resource.methods
  caller : Caller.ofHeaders r.headers = .ok d.caller
  wanted : r.wanted resource method = .ok d.operation

theorem Request.demand_ok (h : r.demand = .ok d) : ∃ resource method, Asks r d resource method := by
  unfold Request.demand at h
  split at h
  · exact absurd h (by simp)
  · next resource hpath =>
    split at h
    · next hhead =>
      split at h
      · next caller operation hop =>
        cases h
        obtain ⟨hc, hw⟩ := operation_ok hop
        exact ⟨resource, .get, hpath, Or.inr ⟨hhead.1, rfl, rfl⟩, hhead.2, mapError_eq_ok.1 hc, hw⟩
      · exact absurd h (by simp)
    · split at h
      · next method hmethod =>
        split at h
        · next hknown =>
          obtain ⟨⟨caller, operation⟩, hop, hd⟩ := map_eq_ok.1 h
          cases hd
          obtain ⟨hc, hw⟩ := operation_ok hop
          refine ⟨resource, method, hpath, Or.inl ⟨?_, rfl⟩, hknown, mapError_eq_ok.1 hc, hw⟩
          exact (Method.text_of_ofText? hmethod).symm
        · exact absurd h (by simp)
      · exact absurd h (by simp)

theorem Asks.named_eq {resource : Resource} {method : Method} (h : Asks r d resource method)
    (hmethod : method ≠ .get) : r.method = method.text ∧ d.bare = false := by
  rcases h.named with hnamed | ⟨-, hget, -⟩
  · exact hnamed
  · exact absurd hget hmethod

/-- Two methods do not have one name. -/
theorem Asks.method_eq {resource : Resource} {method other : Method}
    (h : Asks r d resource method) (hother : r.method = other.text) : method = other := by
  rcases h.named with ⟨hnamed, -⟩ | ⟨hnamed, -⟩
  · have hsame := congrArg Method.ofText? (hnamed.symm.trans hother)
    rw [Method.ofText?_text, Method.ofText?_text] at hsame
    exact Option.some.inj hsame
  · rw [hnamed] at hother
    cases other <;> exact absurd hother (by decide)

/-- What is asked for by another method than to be shown something is answered whole. -/
theorem Asks.whole {resource : Resource} {method : Method} (h : Asks r d resource method)
    (hmethod : method ≠ .get) :
    r.method = method.text ∧ d.reply ctx s = d.operation.perform ctx s d.caller := by
  obtain ⟨hnamed, hbare⟩ := h.named_eq hmethod
  unfold Demand.reply
  rw [hbare]
  exact ⟨hnamed, rfl⟩

theorem Asks.get {resource : Resource} {method : Method} (h : Asks r d resource method)
    (hmethod : r.method = "GET" ∨ r.method = "HEAD") : method = .get := by
  rcases h.named with ⟨hnamed, -⟩ | ⟨-, hget, -⟩
  · rw [hnamed] at hmethod
    cases method with
    | get => rfl
    | _ => exact absurd hmethod (by decide)
  · exact hget

/-- Requests by one method for resources with the same methods demand alike, when their operations
do. -/
theorem Request.demand_matches {N : Caller × Operation → Caller × Operation → Prop}
    {r' : Request} {a a' : Resource} (hpath : Resource.ofPath? r.path = some a)
    (hpath' : Resource.ofPath? r'.path = some a') (hmethod : r'.method = r.method)
    (hmethods : a'.methods = a.methods)
    (hop : ∀ method, Matches N (r.operation a method) (r'.operation a' method)) :
    Matches (fun d d' : Demand => N (d.caller, d.operation) (d'.caller, d'.operation)
      ∧ d.bare = d'.bare) r.demand r'.demand := by
  unfold Request.demand Resource.allowed
  simp only [hpath, hpath', hmethod, hmethods]
  split
  · have hget := hop .get
    generalize r.operation a .get = x at hget ⊢
    generalize r'.operation a' .get = y at hget ⊢
    cases hget with
    | error response => exact .error _
    | ok h => exact .ok ⟨h, rfl⟩
  · split
    · next method _ =>
      split
      · have hmethod := hop method
        generalize r.operation a method = x at hmethod ⊢
        generalize r'.operation a' method = y at hmethod ⊢
        cases hmethod with
        | error response => exact .error _
        | ok h => exact .ok ⟨h, rfl⟩
      · exact .error _
    · exact .error _

theorem Request.wanted_get {resource : Resource} {operation : Operation}
    (h : r.wanted resource .get = .ok operation) (hget : .get ∈ resource.methods) :
    operation.looks = true := by
  cases resource with
  | health => exact absurd h (by simp [wanted])
  | accounts | subscriptions | commands => exact absurd hget (by simp [Resource.methods])
  | plans =>
    cases h
    rfl
  | accountSubscriptions id | resources id =>
    obtain ⟨_, _, h⟩ := bind_eq_ok.1 h
    obtain ⟨_, _, h⟩ := bind_eq_ok.1 h
    cases h
    rfl
  | _ =>
    obtain ⟨_, _, h⟩ := bind_eq_ok.1 h
    cases h
    rfl

/-- A body is taken whole or not at all. -/
theorem Request.content_ok {body : Bytes} (h : r.content = .ok body) : body = r.body := by
  unfold content at h
  split at h
  · exact absurd h (by simp)
  · cases h
    rfl

/-- Where an operation is asked for, and what the request gives for it. -/
def Operation.AskedAt (r : Request) (resource : Resource) (method : Method) : Operation → Prop
  | createAccount new => resource = .accounts ∧ method = .post ∧ r.value NewAccount = .ok new
  | showAccount id => method = .get ∧
    ∃ raw, resource = .account raw ∧ Request.parameter "account_id" raw = .ok id
  | addMember account new => method = .post ∧ r.value NewMember = .ok new ∧
    ∃ raw, resource = .members raw ∧ Request.parameter "account_id" raw = .ok account
  | listMembers account => method = .get ∧
    ∃ raw, resource = .members raw ∧ Request.parameter "account_id" raw = .ok account
  | createPlan plan => resource = .plans ∧ method = .post ∧ r.value Plan = .ok plan
  | showPlan id => method = .get ∧
    ∃ raw, resource = .plan raw ∧ Request.parameter "plan_id" raw = .ok id
  | listPlans => resource = .plans ∧ method = .get
  | subscribe body => resource = .subscriptions ∧ method = .post ∧ body = r.body
  | showSubscription id => method = .get ∧
    ∃ raw, resource = .subscription raw ∧ Request.parameter "subscription_id" raw = .ok id
  | unsubscribe id => method = .delete ∧
    ∃ raw, resource = .subscription raw ∧ Request.parameter "subscription_id" raw = .ok id
  | listSubscriptions account service => method = .get ∧ r.field "service" = .ok service ∧
    ∃ raw, resource = .accountSubscriptions raw ∧
      Request.parameter "account_id" raw = .ok account
  | reportUsages account service => method = .get ∧ r.field "serviceId" = .ok service ∧
    ∃ raw, resource = .resources raw ∧ Request.parameter "account_id" raw = .ok account
  | createCommand workspace body => method = .post ∧ body = r.body ∧
    ∃ raw, resource = .command raw ∧ Request.parameter "id" raw = .ok workspace
  | showCommand id => method = .get ∧
    ∃ raw, resource = .command raw ∧ Request.parameter "id" raw = .ok id
  | updateCommand body => resource = .commands ∧ method = .put ∧ body = r.body
  | removeCommand id => method = .delete ∧
    ∃ raw, resource = .command raw ∧ Request.parameter "id" raw = .ok id
  | listCommands workspace => method = .get ∧
    ∃ raw, resource = .workspaceCommands raw ∧ Request.parameter "id" raw = .ok workspace
  | addWorkspaceMember workspace new => method = .post ∧ r.value NewWorkspaceMember = .ok new ∧
    ∃ raw, resource = .workspaceMembers raw ∧ Request.parameter "workspace_id" raw = .ok workspace
  | listWorkspaceMembers workspace => method = .get ∧
    ∃ raw, resource = .workspaceMembers raw ∧ Request.parameter "workspace_id" raw = .ok workspace

/-- **Every operation is asked for in one place.** The same segment of a path may name one thing for
one method and another thing for another. -/
theorem Request.wanted_askedAt {resource : Resource} {method : Method} {op : Operation}
    (h : r.wanted resource method = .ok op) (hknown : method ∈ resource.methods) :
    op.AskedAt r resource method := by
  cases resource with
  | health => exact absurd h (by simp [wanted])
  | accounts =>
    obtain ⟨new, hnew, h⟩ := bind_eq_ok.1 h
    cases h
    exact ⟨rfl, List.mem_singleton.1 hknown, hnew⟩
  | subscriptions | commands =>
    obtain ⟨body, hbody, h⟩ := bind_eq_ok.1 h
    cases h
    exact ⟨rfl, List.mem_singleton.1 hknown, content_ok hbody⟩
  | plan raw | account raw | workspaceCommands raw =>
    obtain ⟨id, hid, h⟩ := bind_eq_ok.1 h
    cases h
    exact ⟨List.mem_singleton.1 hknown, raw, rfl, hid⟩
  | accountSubscriptions raw | resources raw =>
    obtain ⟨id, hid, h⟩ := bind_eq_ok.1 h
    obtain ⟨service, hservice, h⟩ := bind_eq_ok.1 h
    cases h
    exact ⟨List.mem_singleton.1 hknown, hservice, raw, rfl, hid⟩
  | plans =>
    cases method with
    | get => cases h; exact ⟨rfl, rfl⟩
    | post =>
      obtain ⟨plan, hplan, h⟩ := bind_eq_ok.1 h
      cases h
      exact ⟨rfl, rfl, hplan⟩
    | _ => exact absurd hknown (by simp [Resource.methods])
  | subscription raw =>
    cases method with
    | get | delete =>
      obtain ⟨id, hid, h⟩ := bind_eq_ok.1 h
      cases h
      exact ⟨rfl, raw, rfl, hid⟩
    | _ => exact absurd hknown (by simp [Resource.methods])
  | members raw | workspaceMembers raw =>
    cases method with
    | get =>
      obtain ⟨id, hid, h⟩ := bind_eq_ok.1 h
      cases h
      exact ⟨rfl, raw, rfl, hid⟩
    | post =>
      obtain ⟨id, hid, h⟩ := bind_eq_ok.1 h
      obtain ⟨new, hnew, h⟩ := bind_eq_ok.1 h
      cases h
      exact ⟨rfl, hnew, raw, rfl, hid⟩
    | _ => exact absurd hknown (by simp [Resource.methods])
  | command raw =>
    cases method with
    | get | delete =>
      obtain ⟨id, hid, h⟩ := bind_eq_ok.1 h
      cases h
      exact ⟨rfl, raw, rfl, hid⟩
    | post =>
      obtain ⟨id, hid, h⟩ := bind_eq_ok.1 h
      obtain ⟨body, hbody, h⟩ := bind_eq_ok.1 h
      cases h
      exact ⟨rfl, content_ok hbody, raw, rfl, hid⟩
    | put => exact absurd hknown (by simp [Resource.methods])

theorem Asks.askedAt {resource : Resource} {method : Method} (h : Asks r d resource method) :
    d.operation.AskedAt r resource method := Request.wanted_askedAt h.wanted h.known

end

end CloudIde.Http
