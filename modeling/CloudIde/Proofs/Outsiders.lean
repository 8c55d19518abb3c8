import CloudIde.Proofs.Isolation

/-!
# Accounts of others and accounts that are not there

Where a request names an account, a user who is no member of it is denied before anything else is
looked at (`perform_foreign`). So it makes no difference to them whether the account is there.

To say this of requests, a request is readdressed: it asks for the same, but names another account,
in its path or in its body (`Readdressed`). What does not get as far as naming the account is
answered the same anyway.
-/

namespace CloudIde.Http

open Store Platform

/-- The account that an operation names. -/
def Operation.account? : Operation → Option String
  | showAccount id | addMember id _ | listMembers id | listSubscriptions id _
  | reportUsages id _ => some id
  | subscribe body => (Order.ofBody body).toOption.map Order.account
  | _ => none

variable {ctx : Context} {s : Store} {caller : Caller} {user id id' : String}

/-- **Who is no member of the account is denied.** -/
theorem perform_foreign (hs : Written s) (hc : caller.Unranked) {op : Operation}
    (hop : op.account? = some id) (hno : ¬ s.IsMember caller.user id) :
    op.perform ctx s caller = ⟨.failed .accessDenied, s, []⟩ := by
  have hroles := hs.accountRoles_nonmember hno
  have hdenied (allowed : List String) (hsub : ∀ role ∈ allowed, role ∈ Caller.ranks) :
      caller.requireScoped RoleSet.empty allowed = .error .accessDenied := hc.denied hsub
  cases op with
  | showAccount account =>
    cases hop
    have hno := hdenied [Role.accountOwner, Role.accountMember, Role.systemAdmin,
      Role.systemManager] (by decide)
    simp only [Operation.perform, Platform.account, hroles, ok_bind, hno]
    rfl
  | addMember account new =>
    cases hop
    have hno := hdenied [Role.accountOwner, Role.systemAdmin] (by decide)
    simp only [Operation.perform, Platform.addMember, hroles, ok_bind, hno]
    rfl
  | listMembers account =>
    cases hop
    have hno := hdenied [Role.accountOwner, Role.systemAdmin, Role.systemManager] (by decide)
    simp only [Operation.perform, Platform.members, hroles, ok_bind, hno]
    rfl
  | listSubscriptions account service =>
    cases hop
    simp only [Operation.perform, Platform.activeSubscriptions, hroles, ok_bind,
      hdenied readers (by decide)]
    rfl
  | reportUsages account service =>
    cases hop
    simp only [Operation.perform, usages, reporting, hroles, ok_bind, hdenied readers (by decide)]
    rfl
  | subscribe body =>
    have hpropose : propose ctx s caller body = .error .accessDenied := by
      unfold propose Caller.require
      -- who has no role of the platform is denied even before the order is read
      rcases caller.requireScoped_cases RoleSet.empty Role.platform with hok | hfail
      · cases horder : Order.ofBody body with
        | error f => exact absurd hop (by simp [Operation.account?, horder, Except.toOption])
        | ok order =>
          have haccount : order.account = id := by
            simpa [Operation.account?, horder, Except.toOption] using hop
          rw [hok, ok_bind, ok_bind, rolesFor_nonmember hs hc (haccount ▸ hno)]
          rfl
      · rw [hfail]
        rfl
    simp only [Operation.perform, subscribe, hpropose]
    rfl
  | createAccount | createPlan | showPlan | listPlans | showSubscription | unsubscribe
  | createCommand | showCommand | updateCommand | removeCommand | listCommands
  | addWorkspaceMember | listWorkspaceMembers => exact absurd hop (by simp [Operation.account?])

/-! ## The same request for another account -/

/-- The resources of an account, given how the account is written in the path. -/
def accountResources : List (String → Resource) :=
  [.account, .members, .accountSubscriptions, .resources]

/-- A request for an account and the same request for another one. -/
inductive Readdressed (id id' : String) (r : Request) : Request → Prop
  /-- The path names the account. -/
  | path {of : String → Resource} {raw raw' path' : String} (hof : of ∈ accountResources)
      (hpath : Resource.ofPath? r.path = some (of raw))
      (hpath' : Resource.ofPath? path' = some (of raw'))
      (hid : Request.parameter "account_id" raw = .ok id)
      (hid' : Request.parameter "account_id" raw' = .ok id') :
      Readdressed id id' r { r with path := path' }
  /-- The body names the account, which is to be subscribed. -/
  | body {order order' : Order} {body' : Bytes}
      (hpath : Resource.ofPath? r.path = some .subscriptions)
      (hsize : r.body.length ≤ bodyLimit) (hsize' : body'.length ≤ bodyLimit)
      (horder : Order.ofBody r.body = .ok order) (horder' : Order.ofBody body' = .ok order')
      (hid : order.account = id) (hid' : order'.account = id') :
      Readdressed id id' r { r with body := body' }

/-- Two operations are asked for by the same caller and name two accounts. -/
def NameTwo (id id' : String) (a b : Caller × Operation) : Prop :=
  a.1 = b.1 ∧ a.2.account? = some id ∧ b.2.account? = some id'

/-- Where the path names the account, the same is asked for, but for the account. -/
theorem operation_path {r : Request} {of : String → Resource} {raw raw' path' : String}
    (hof : of ∈ accountResources) (hid : Request.parameter "account_id" raw = .ok id)
    (hid' : Request.parameter "account_id" raw' = .ok id') (method : Method) :
    Matches (NameTwo id id') (r.operation (of raw) method)
      (({ r with path := path' } : Request).operation (of raw') method) := by
  have hwanted : Matches (fun a b : Operation => a.account? = some id ∧ b.account? = some id')
      (r.wanted (of raw) method)
      (({ r with path := path' } : Request).wanted (of raw') method) := by
    simp only [accountResources, List.mem_cons, List.not_mem_nil, or_false] at hof
    rcases hof with rfl | rfl | rfl | rfl
    · simp only [Request.wanted, hid, hid', ok_bind]
      exact .ok ⟨rfl, rfl⟩
    · cases method with
      | post =>
        simp only [Request.wanted, hid, hid', ok_bind]
        exact bind_matches rfl fun _ _ => .ok ⟨rfl, rfl⟩
      | get | put | delete =>
        simp only [Request.wanted, hid, hid', ok_bind]
        exact .ok ⟨rfl, rfl⟩
    · simp only [Request.wanted, hid, hid', ok_bind]
      exact bind_matches rfl fun _ _ => .ok ⟨rfl, rfl⟩
    · simp only [Request.wanted, hid, hid', ok_bind]
      exact bind_matches rfl fun _ _ => .ok ⟨rfl, rfl⟩
  -- the one resource that is served without a caller is not among them
  have hhealth : of raw ≠ .health ∧ of raw' ≠ .health := by
    simp only [accountResources, List.mem_cons, List.not_mem_nil, or_false] at hof
    rcases hof with rfl | rfl | rfl | rfl <;> exact ⟨Resource.noConfusion, Resource.noConfusion⟩
  unfold Request.operation
  rw [if_neg hhealth.1, if_neg hhealth.2]
  refine bind_matches rfl fun caller _ => ?_
  exact hwanted.bind fun a b hab => .ok ⟨rfl, hab⟩

/-- Where the body names the account, the same is asked for, but for the account. -/
theorem operation_body {r : Request} {order order' : Order} {body' : Bytes}
    (hsize : r.body.length ≤ bodyLimit) (hsize' : body'.length ≤ bodyLimit)
    (horder : Order.ofBody r.body = .ok order) (horder' : Order.ofBody body' = .ok order')
    (method : Method) :
    Matches (NameTwo order.account order'.account) (r.operation .subscriptions method)
      (({ r with body := body' } : Request).operation .subscriptions method) := by
  have hcontent : r.content = .ok r.body := by
    rw [Request.content, if_neg (Nat.not_lt.2 hsize)]
  have hcontent' : ({ r with body := body' } : Request).content = .ok body' := by
    rw [Request.content, if_neg (Nat.not_lt.2 hsize')]
  refine bind_matches rfl fun caller _ => ?_
  simp only [Request.wanted, hcontent, hcontent', ok_bind]
  refine .ok ⟨rfl, ?_, ?_⟩
  · simp [Operation.account?, horder, Except.toOption]
  · simp [Operation.account?, horder', Except.toOption]

theorem Readdressed.demand {r r' : Request} (h : Readdressed id id' r r') :
    Matches (fun d d' : Demand => NameTwo id id' (d.caller, d.operation) (d'.caller, d'.operation)
      ∧ d.bare = d'.bare) r.demand r'.demand := by
  cases h with
  | @path of raw raw' path' hof hpath hpath' hid hid' =>
    refine Request.demand_matches hpath hpath' rfl ?_ (operation_path hof hid hid')
    simp only [accountResources, List.mem_cons, List.not_mem_nil, or_false] at hof
    rcases hof with rfl | rfl | rfl | rfl <;> rfl
  | body hpath hsize hsize' horder horder' hid hid' =>
    subst hid hid'
    exact Request.demand_matches hpath hpath rfl rfl (operation_body hsize hsize' horder horder')

/-- A request for an account of others is answered like one for any other account that the user is
no member of. -/
theorem respond_readdressed {s t : Store} (hs : Written s) (ht : Written t) {r r' : Request}
    (hr : r.FromUnranked user) (h : Readdressed id id' r r') (hno : ¬ s.IsMember user id)
    (hno' : ¬ t.IsMember user id') :
    (respond ctx s r).response = (respond ctx t r').response := by
  rw [respond_eq, respond_eq]
  cases hd : r.demand with
  | error response =>
    -- the requests end alike before anything is asked for
    have hd' := h.demand
    rw [hd] at hd'
    generalize r'.demand = y at hd' ⊢
    cases hd'
    rfl
  | ok d =>
    obtain ⟨resource, method, hasks⟩ := Request.demand_ok hd
    obtain ⟨rfl, hc⟩ := hr d.caller hasks.caller
    have hd' := h.demand
    rw [hd] at hd'
    generalize r'.demand = y at hd' ⊢
    cases hd' with
    | @ok _ d' htwo =>
      obtain ⟨⟨hcaller, hop, hop'⟩, hbare⟩ := htwo
      have hcaller : d.caller = d'.caller := hcaller
      have hforeign : d.operation.perform ctx s d.caller = ⟨.failed .accessDenied, s, []⟩ :=
        perform_foreign hs hc hop hno
      have hforeign' : d'.operation.perform ctx t d'.caller = ⟨.failed .accessDenied, t, []⟩ :=
        perform_foreign ht (hcaller ▸ hc) hop' (hcaller ▸ hno')
      simp only [Demand.reply, hforeign, hforeign', hbare]
      split
      · rfl
      · rfl

/-- **What is stored for accounts that a user is no member of does not show.** In two stores that
requests have made and that are alike to the user, every request of theirs gets the same response,
and the stores are alike again. A request for an account of others is answered like the same request
for an account that is not there. -/
theorem isolated {registry : Registry} (hplain : AllPlain registry) {s t : Store}
    (hs : Reached (·.registry = registry) s) (ht : Reached (·.registry = registry) t)
    (h : Alike user s t) {ctx : Context} (hctx : ctx.registry = registry)
    (hnew : s.hasAccount (ctx.newId "account") = false)
    (hnew' : t.hasAccount (ctx.newId "account") = false) {r : Request}
    (hr : r.FromUnranked user) :
    ((respond ctx s r).response = (respond ctx t r).response ∧
        Reached (·.registry = registry) (respond ctx s r).store ∧
          Reached (·.registry = registry) (respond ctx t r).store ∧
            Alike user (respond ctx s r).store (respond ctx t r).store) ∧
      ∀ id id' r', Readdressed id id' r r' → ¬ s.IsMember user id → s.hasAccount id' = false →
        (respond ctx s r).response = (respond ctx s r').response := by
  have htwins := respond_twins hs.written ht.written h (hctx ▸ hplain) hnew hnew' hr
  refine ⟨⟨htwins.response, hs.next ctx hctx r, ht.next ctx hctx r, htwins.stores⟩, ?_⟩
  intro id id' r' hreaddressed hno hmissing
  have hno' : ¬ s.IsMember user id' := fun hmember => by
    rw [hs.written.hasAccount_of_isMember hmember] at hmissing
    exact absurd hmissing (by simp)
  exact respond_readdressed hs.written hs.written hr hreaddressed hno hno'

/-! ## An account that somebody else has opened -/

/-- The circumstances in which the id of a new thing has some digits. -/
def handing (digits : HexDigits) : Context :=
  ⟨"http://host/api", .ofList [.plain "mail"], .epoch, digits⟩

/-- Bob opens an account. -/
def opening : Request where
  method := "POST"
  path := "/api/account"
  query := none
  headers := [("x-user-id", Bytes.ofText "bob"), ("x-user-roles", Bytes.ofText "user"),
    ("content-type", Bytes.ofText "application/json")]
  body := Bytes.ofText "\x7b\"name\":\"Bob\"\x7d"

/-- The store with Bob's account. -/
def opened : Store := (respond (handing [1]) Store.empty opening).store

/-- Eve asks for what is at a path. -/
def visit (path : String) : Request where
  method := "GET"
  path := path
  query := none
  headers := [("x-user-id", Bytes.ofText "eve"), ("x-user-roles", Bytes.ofText "user")]
  body := []

theorem visit_fromUnranked (path : String) : (visit path).FromUnranked "eve" := by
  intro caller hcaller
  have heve : Caller.ofHeaders (visit path).headers = .ok ⟨"eve", RoleSet.ofList [Role.user]⟩ := rfl
  rw [heve] at hcaller
  cases hcaller
  exact ⟨rfl, by decide⟩

theorem eve_not_member (id : String) : ¬ opened.IsMember "eve" id := by
  have hrows : opened.members.rows = [.ofMember ⟨"account1", "bob", [Role.accountOwner]⟩] := rfl
  rintro ⟨row, hrow, -, huser⟩
  rw [hrows] at hrow
  cases List.mem_singleton.1 hrow
  exact absurd (Cell.text.inj huser) (by decide)

theorem alike_opened : Alike "eve" opened Store.empty where
  plans := rfl
  commands := rfl
  workspaceMembers := rfl
  member id := ⟨fun h => absurd h (eve_not_member id), fun ⟨_, hrow, _⟩ => nomatch hrow⟩
  same id h := absurd h (eve_not_member id)
  ids _ := rfl

/-- Eve sees no difference between Bob's account and none, be it a store without it or another
account. -/
theorem isolated_opened :
    (respond (handing [2]) opened (visit "/api/account/account1")).response
        = (respond (handing [2]) Store.empty (visit "/api/account/account1")).response ∧
      (respond (handing [2]) opened (visit "/api/account/account1")).response
        = (respond (handing [2]) opened (visit "/api/account/other")).response := by
  have hplain : AllPlain (handing []).registry := by
    intro service hservice
    cases List.mem_singleton.1 hservice
    rfl
  have hopened : Reached (·.registry = (handing []).registry) opened :=
    .next (P := (·.registry = (handing []).registry)) .empty (handing [1]) rfl opening
  have hregistry : (handing [2]).registry = (handing []).registry := rfl
  obtain ⟨⟨hresponse, -⟩, hmissing⟩ := isolated hplain hopened .empty alike_opened hregistry rfl rfl
    (visit_fromUnranked "/api/account/account1")
  refine ⟨hresponse, hmissing "account1" "other" _ ?_ (eve_not_member "account1") rfl⟩
  have hof : Resource.account ∈ accountResources := List.mem_cons_self
  exact .path hof rfl rfl rfl rfl

end CloudIde.Http
