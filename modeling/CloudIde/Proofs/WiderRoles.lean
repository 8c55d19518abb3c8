import CloudIde.Proofs.Lifecycle
import CloudIde.Proofs.MoreRoles
import CloudIde.Proofs.ServiceCalls

/-!
# Global roles only widen what a user may do

A request that succeeds with some roles in its headers succeeds with more: the status is the same,
so is the store that it leaves and so are the calls of services, and the answer shows at least as
much (`roles_widen`).

What is asked for does not depend on the roles. So the first part of answering, which looks at the
request alone, ends in the same response or comes to the same operation, for callers of whom one has
at least the roles of the other.
-/

namespace CloudIde.Http

/-! ## Replies -/

/-- A content that shows at least as much: descriptors with more properties and links. -/
inductive Content.Within : Content → Content → Prop
  | same (content : Content) : Within content content
  | subscription {d e : SubscriptionDescriptor} (h : d.Within e) :
    Within (.shown (.subscription d)) (.shown (.subscription e))
  | subscriptions {ds es : List SubscriptionDescriptor}
      (h : List.Forall₂ SubscriptionDescriptor.Within ds es) :
    Within (.shown (.subscriptions ds)) (.shown (.subscriptions es))
  | command {d e : CommandDescriptor} (h : d.Within e) :
    Within (.shown (.command d)) (.shown (.command e))
  | commands {ds es : List CommandDescriptor} (h : List.Forall₂ CommandDescriptor.Within ds es) :
    Within (.shown (.commands ds)) (.shown (.commands es))

/-- Whether a response reports success. -/
def Response.succeeds (r : Response) : Prop := 200 ≤ r.status ∧ r.status < 300

/-- A reply with the same status, the same store and the same calls of services, which shows at
least as much. -/
structure Reply.Within (a b : Reply) : Prop where
  status : b.response.status = a.response.status
  store : b.store = a.store
  calls : b.calls = a.calls
  content : a.response.content.Within b.response.content

theorem Reply.Within.refl (a : Reply) : a.Within a := ⟨rfl, rfl, rfl, .same _⟩

/-- A reply reports success when the operation has succeeded. -/
theorem Reply.ofOutcome_within {α : Type} {R : α → α → Prop} {o o' : Outcome α}
    (h : Outcome.Covers R o o') {status : Nat} {content : α → Content}
    (hcontent : ∀ a b, R a b → (content a).Within (content b))
    (hok : (Reply.ofOutcome status content o).response.succeeds) :
    (Reply.ofOutcome status content o).Within (.ofOutcome status content o') := by
  obtain ⟨answer, store, calls⟩ := o
  cases answer with
  | error f =>
    have hstatus : f.status < 300 := hok.2
    have hge := f.status_ge
    omega
  | ok a =>
    obtain ⟨b, hb, hab, hstore, hcalls⟩ := h a rfl
    refine ⟨?_, hstore, hcalls, ?_⟩
    · simp only [Reply.ofOutcome, hb]
    · simp only [Reply.ofOutcome, hb]
      exact hcontent a b hab

section

variable {α : Type} {R : α → α → Prop} {s : Store}

theorem Reply.shown_within {x y : Except Failure α} (h : Covers R x y) {payload : α → Payload}
    (hpayload : ∀ a b, R a b → Content.Within (.shown (payload a)) (.shown (payload b)))
    (hok : (Reply.shown s payload x).response.succeeds) :
    (Reply.shown s payload x).Within (.shown s payload y) :=
  Reply.ofOutcome_within (.reading h) hpayload hok

/-- What is the same is shown the same. -/
theorem Content.Within.of_eq (content : α → Content) (a b : α) (h : a = b) :
    (content a).Within (content b) := by
  subst h
  exact .same _

end

variable {ctx : Context} {s : Store} {c c' : Caller}

/-- **Whatever succeeds, succeeds with more roles.** -/
theorem perform_within (h : c.Within c') {op : Operation}
    (hok : (op.perform ctx s c).response.succeeds) :
    (op.perform ctx s c).Within (op.perform ctx s c') := by
  cases op with
  | createAccount new =>
    exact Reply.ofOutcome_within (Platform.createAccount_covers h new) (Content.Within.of_eq _) hok
  | showAccount id =>
    exact Reply.shown_within (Platform.account_covers h id) (Content.Within.of_eq _) hok
  | addMember id new =>
    exact Reply.ofOutcome_within (Platform.addMember_covers h id new) (Content.Within.of_eq _) hok
  | listMembers id =>
    exact Reply.shown_within (Platform.members_covers h id) (Content.Within.of_eq _) hok
  | createPlan plan =>
    exact Reply.ofOutcome_within (Platform.createPlan_covers h plan) (Content.Within.of_eq _) hok
  | showPlan id =>
    exact Reply.shown_within (Platform.plan_covers h id) (Content.Within.of_eq _) hok
  | listPlans =>
    exact Reply.shown_within (Platform.plans_covers h) (Content.Within.of_eq _) hok
  | subscribe body =>
    exact Reply.ofOutcome_within (Platform.subscribe_covers h body)
      (fun _ _ => .subscription) hok
  | showSubscription id =>
    exact Reply.shown_within (Platform.subscription_covers h id) (fun _ _ => .subscription) hok
  | unsubscribe id =>
    exact Reply.ofOutcome_within (Platform.unsubscribe_covers h id) (Content.Within.of_eq _) hok
  | listSubscriptions id service =>
    exact Reply.shown_within (Platform.activeSubscriptions_covers h id service)
      (fun _ _ => .subscriptions) hok
  | reportUsages id service =>
    exact Reply.ofOutcome_within (Platform.usages_covers h id service) (Content.Within.of_eq _) hok
  | createCommand workspace body =>
    exact Reply.ofOutcome_within (Platform.createCommand_covers h workspace body)
      (fun _ _ => .command) hok
  | showCommand id =>
    exact Reply.shown_within (Platform.command_covers h id) (fun _ _ => .command) hok
  | updateCommand body =>
    exact Reply.ofOutcome_within (Platform.updateCommand_covers h body) (fun _ _ => .command) hok
  | removeCommand id =>
    exact Reply.ofOutcome_within (Platform.removeCommand_covers h id) (Content.Within.of_eq _) hok
  | listCommands workspace =>
    exact Reply.shown_within (Platform.commands_covers h workspace) (fun _ _ => .commands) hok
  | addWorkspaceMember workspace new =>
    exact Reply.ofOutcome_within (Platform.addWorkspaceMember_covers h workspace new)
      (Content.Within.of_eq _) hok
  | listWorkspaceMembers workspace =>
    exact Reply.shown_within (Platform.workspaceMembers_covers h workspace)
      (Content.Within.of_eq _) hok

/-! ## Requests -/

/-- The same request with at least the same roles in its headers. -/
structure Request.Within (r r' : Request) : Prop where
  method : r'.method = r.method
  path : r'.path = r.path
  query : r'.query = r.query
  body : r'.body = r.body
  headers : ∀ name, lowerName name ≠ lowerName Caller.rolesHeader →
    r'.headers.first? name = r.headers.first? name
  roles : ∀ c c', Caller.ofHeaders r.headers = .ok c → Caller.ofHeaders r'.headers = .ok c' →
    ∀ role ∈ c.roles.names, role ∈ c'.roles.names

namespace Request.Within

variable {r r' : Request} (h : r.Within r')
include h

/-- Who sends a request is known from another header than the roles. -/
theorem caller : Matches Caller.Within r.caller r'.caller := by
  have huser : r'.headers.text? Caller.userHeader = r.headers.text? Caller.userHeader := by
    unfold Headers.text?
    rw [h.headers _ (by decide)]
  have hroles := h.roles
  unfold Request.caller
  unfold Caller.ofHeaders at hroles ⊢
  rw [huser] at hroles ⊢
  cases hname : (r.headers.text? Caller.userHeader).map trim with
  | none => exact .error _
  | some user =>
    simp only [hname] at hroles ⊢
    split
    · exact .error _
    · next hempty =>
      exact .ok ⟨rfl, hroles _ _ (if_neg hempty) (if_neg hempty)⟩

theorem wanted_eq (resource : Resource) (method : Method) :
    r'.wanted resource method = r.wanted resource method := by
  have hcontent : r'.content = r.content := by
    unfold content
    rw [h.body]
  have hfield (name : String) : r'.field name = r.field name := by
    unfold field
    rw [h.query]
  have hannounces : r'.announcesJson = r.announcesJson := by
    unfold announcesJson Headers.text?
    rw [h.headers _ (by decide)]
  have hvalue (α : Type) [Wire α] : r'.value α = r.value α := by
    unfold value
    rw [hannounces, hcontent]
  cases resource with
  | plans | members | workspaceMembers | subscription | command =>
    cases method <;> simp only [wanted, hcontent, hvalue]
  | health | plan | account | workspaceCommands => rfl
  | accounts => simp only [wanted, hvalue]
  | accountSubscriptions | resources => simp only [wanted, hfield]
  | subscriptions | commands => simp only [wanted, hcontent]

theorem demand : Matches (fun d d' : Demand => (d.caller.Within d'.caller
    ∧ d'.operation = d.operation) ∧ d.bare = d'.bare) r.demand r'.demand := by
  cases hpath : Resource.ofPath? r.path with
  | none =>
    unfold Request.demand
    rw [h.path, hpath]
    exact .error _
  | some resource =>
    refine Request.demand_matches (N := fun a b => a.1.Within b.1 ∧ b.2 = a.2) hpath
      (h.path ▸ hpath) h.method rfl fun method => ?_
    unfold Request.operation
    split
    · exact .error _
    · refine h.caller.bind fun c c' hc => ?_
      rw [h.wanted_eq]
      exact bind_matches rfl fun op _ => .ok ⟨hc, rfl⟩

end Request.Within

/-- **Global roles only widen what a user may do.** A request that succeeds with some roles succeeds
with more, with the same status; it leaves the same store, with the same calls of services, and its
answer shows at least the same properties and links. -/
theorem roles_widen (ctx : Context) (s : Store) {r r' : Request} (h : r.Within r')
    (hok : (respond ctx s r).response.succeeds) :
    (respond ctx s r).Within (respond ctx s r') := by
  have hdemand := h.demand
  rw [respond_eq] at hok ⊢
  rw [respond_eq]
  generalize r.demand = x at hdemand hok ⊢
  generalize r'.demand = y at hdemand ⊢
  cases hdemand with
  | error response => exact .refl _
  | @ok d d' hd =>
    obtain ⟨⟨hcaller, hop⟩, hbare⟩ := hd
    have hperformed : (d.operation.perform ctx s d.caller).response.succeeds := by
      simpa [Response.succeeds] using hok
    have hwithin := perform_within hcaller hperformed
    simp only [Demand.reply, hop, hbare]
    split
    · exact ⟨hwithin.status, hwithin.store, hwithin.calls, .same _⟩
    · exact hwithin

/-- The owner gives up mail, being an administrator of the platform as well. -/
def leavingAsAdmin : Request :=
  { leaving with
    headers := [("x-user-id", Bytes.ofText "ann"),
      ("x-user-roles", Bytes.ofText "user,system/admin")] }

theorem leavingAsAdmin_within : leaving.Within leavingAsAdmin where
  method := rfl
  path := rfl
  query := rfl
  body := rfl
  headers := by
    intro name hname
    have hroles : ¬ lowerName "x-user-roles" = lowerName name := fun h => hname h.symm
    simp [Headers.first?, leaving, leavingAsAdmin, List.find?, hroles]
  roles := by
    intro c c' hc hc'
    obtain rfl : ⟨"ann", RoleSet.ofList [Role.user]⟩ = c := Except.ok.inj hc
    obtain rfl : ⟨"ann", RoleSet.ofList [Role.user, Role.systemAdmin]⟩ = c' := Except.ok.inj hc'
    decide

/-- The administrator makes the same of it. -/
theorem roles_widen_leaving :
    (respond mailOnly settled leavingAsAdmin).response.status = 204 ∧
      (respond mailOnly settled leaving).Within (respond mailOnly settled leavingAsAdmin) := by
  have hstatus : (respond mailOnly settled leaving).response.status = 204 := by decide +kernel
  have hok : (respond mailOnly settled leaving).response.succeeds := by
    unfold Response.succeeds
    rw [hstatus]
    decide
  have hwithin := roles_widen mailOnly settled leavingAsAdmin_within hok
  exact ⟨hwithin.status.trans hstatus, hwithin⟩

end CloudIde.Http
