import CloudIde.Proofs.Agreement
import CloudIde.Proofs.Alike
import CloudIde.Proofs.Reached
import CloudIde.Proofs.Subscribing

/-!
# What a user learns of the accounts of others

A user whose global roles say nothing about accounts gets the same responses from two stores that
are alike to them, and the stores stay alike. So whatever the user asks for, in any order, tells
nothing of what is stored for accounts that they are no member of.

The services are those that take every subscription as it is: another one could tell a caller
anything it has kept of the subscriptions of others.
-/

namespace CloudIde

namespace Caller

/-- The roles that count in accounts. -/
def ranks : List String :=
  [Role.systemAdmin, Role.systemManager, Role.accountOwner, Role.accountMember]

/-- A caller without any of the global roles that count in accounts. -/
def Unranked (caller : Caller) : Prop := ∀ role ∈ ranks, caller.hasRole role = false

instance (caller : Caller) : Decidable caller.Unranked :=
  inferInstanceAs (Decidable (∀ role ∈ ranks, caller.hasRole role = false))

theorem Unranked.unprivileged {caller : Caller} (h : caller.Unranked) :
    caller.isPrivileged = false := by
  have hadmin := h Role.systemAdmin (by decide)
  have hmanager := h Role.systemManager (by decide)
  simp [isPrivileged, hadmin, hmanager]

/-- Such a caller has what is asked for from a membership. -/
theorem Unranked.there {caller : Caller} (h : caller.Unranked) {there : RoleSet}
    {allowed : List String} (hsub : ∀ role ∈ allowed, role ∈ ranks)
    (hok : caller.requireScoped there allowed = .ok ()) : ∃ role ∈ allowed, role ∈ there := by
  obtain ⟨role, hrole, hholds⟩ := requireScoped_iff.1 hok
  refine ⟨role, hrole, hholds.resolve_left ?_⟩
  simp [h role (hsub role hrole)]

theorem Unranked.denied {caller : Caller} (h : caller.Unranked) {allowed : List String}
    (hsub : ∀ role ∈ allowed, role ∈ ranks) :
    caller.requireScoped RoleSet.empty allowed = .error .accessDenied := by
  rcases caller.requireScoped_cases RoleSet.empty allowed with hok | hdenied
  · obtain ⟨role, -, hthere⟩ := h.there hsub hok
    exact absurd hthere RoleSet.not_mem_empty
  · exact hdenied

end Caller

open Store

section

variable {s t : Store} {caller : Caller}

/-- Where such a caller is let in, they are a member. -/
theorem Caller.Unranked.isMember {id : String} (hs : Written s) (hc : caller.Unranked)
    {there : RoleSet} (hthere : s.accountRoles id caller.user = .ok there) {allowed : List String}
    (hsub : ∀ role ∈ allowed, role ∈ Caller.ranks)
    (hok : caller.requireScoped there allowed = .ok ()) : s.IsMember caller.user id := by
  obtain ⟨role, -, hrole⟩ := hc.there hsub hok
  exact hs.isMember_of_roles hthere hrole

namespace Platform

theorem rolesFor_nonmember (hs : Written s) (hc : caller.Unranked) {id : String}
    {needed : List String} (hno : ¬ s.IsMember caller.user id) :
    rolesFor s caller id needed = .error .accessDenied := by
  unfold rolesFor
  rw [hc.unprivileged, hs.accountRoles_nonmember hno]
  simp

theorem rolesFor_member (hs : Written s) (hc : caller.Unranked) {id : String}
    {needed : List String} {there : RoleSet} (h : rolesFor s caller id needed = .ok there) :
    s.IsMember caller.user id := by
  rcases rolesFor_ok h with ⟨hpriv, -⟩ | ⟨hthere, role, -, hrole⟩
  · rw [hc.unprivileged] at hpriv
    exact absurd hpriv (by simp)
  · exact hs.isMember_of_roles hthere hrole

end Platform

/-- A subscription is looked for in two alike stores: it is missing in both, or it is the same one
of an account of the user, or in neither store it is one of theirs. -/
theorem Store.Alike.subscription_cases {user : String} (hs : Written s) (ht : Written t)
    (h : Alike user s t) (id : String) :
    (s.subscription id = .error (.subscriptionNotFound id)
        ∧ t.subscription id = .error (.subscriptionNotFound id)) ∨
      (∃ v, s.subscription id = .ok v ∧ t.subscription id = .ok v ∧ s.IsMember user v.account) ∨
        ∃ v w, s.subscription id = .ok v ∧ t.subscription id = .ok w
          ∧ ¬ s.IsMember user v.account ∧ ¬ t.IsMember user w.account := by
  cases hid : s.subscriptions.hasKey [.text id] with
  | false =>
    have hid' := (h.ids id).symm.trans hid
    exact Or.inl ⟨hs.subscription_missing hid, ht.subscription_missing hid'⟩
  | true =>
    obtain ⟨v, hv, rfl⟩ := hs.exists_subscription hid
    obtain ⟨w, hw, hwid⟩ := ht.exists_subscription ((h.ids v.id).symm.trans hid)
    have hfound := ht.subscription_found hw
    rw [hwid] at hfound
    refine Or.inr ?_
    by_cases hmember : s.IsMember user v.account
    · have hv' := ((h.same _ hmember).mem_subscription rfl).1 hv
      exact Or.inl ⟨_, hs.subscription_found hv, ht.subscription_found hv', hmember⟩
    · refine Or.inr ⟨_, _, hs.subscription_found hv, hfound, hmember, fun hmember' => ?_⟩
      -- the row of the other store would be in this one, and its key makes it the same
      have hw' := ((h.symm.same _ hmember').mem_subscription rfl).1 hw
      have hrow := Table.eq_of_key hs.made.subscriptions hv hw'
        (by simp [Row.key, SubscriptionRow.ofSubscription, hwid])
      have haccount : v.account = w.account := by
        simpa [SubscriptionRow.ofSubscription] using congrArg SubscriptionRow.account hrow
      exact hmember (haccount ▸ (h.member _).2 hmember')

end

/-! ## Looks -/

namespace Platform

variable {ctx : Context} {s t : Store} {caller : Caller}

theorem usagesOf_same (hs : AllMade s) (ht : AllMade t) {id : String} (hid : SameAccount s t id)
    (services : List Service) : usagesOf ctx s id services = usagesOf ctx t id services := by
  induction services with
  | nil => rfl
  | cons service rest ih =>
    unfold usagesOf
    rw [hid.activeSubscription_eq hs ht, ih]

theorem propose_member (hs : Written s) (hc : caller.Unranked) {body : Bytes} {p : Proposal}
    (hp : propose ctx s caller body = .ok p) : s.IsMember caller.user p.subscription.account := by
  obtain ⟨order, plan, hproposed⟩ := propose_ok hp
  rw [(draft_ok hproposed.drafted).2.1]
  exact rolesFor_member hs hc hproposed.entitled

theorem removable_member (hs : Written s) (hc : caller.Unranked) {id : String} {v : Subscription}
    (hv : removable s caller id = .ok v) : s.IsMember caller.user v.account := by
  obtain ⟨-, -, ⟨there, hthere⟩, -⟩ := removable_ok hv
  exact rolesFor_member hs hc hthere

variable (hs : Written s) (ht : Written t) (h : Alike caller.user s t)
include hs ht h

theorem rolesFor_alike (id : String) (needed : List String) :
    rolesFor s caller id needed = rolesFor t caller id needed := by
  unfold rolesFor
  split
  · rfl
  · exact bind_eq_bind (h.accountRoles_eq hs ht id) fun _ _ => rfl

theorem propose_alike (body : Bytes) : propose ctx s caller body = propose ctx t caller body := by
  refine bind_eq_bind rfl fun _ _ => ?_
  refine bind_eq_bind rfl fun order _ => ?_
  refine bind_eq_bind (rolesFor_alike hs ht h _ _) fun _ _ => ?_
  split
  · rfl
  · exact bind_eq_bind (h.plan_eq _) fun _ _ => rfl

variable (hc : caller.Unranked)
include hc

theorem account_alike (id : String) : account s caller id = account t caller id := by
  refine bind_eq_bind (h.accountRoles_eq hs ht id) fun there hthere => ?_
  refine bind_eq_bind rfl fun _ hok => ?_
  exact (h.same id (hc.isMember hs hthere (by decide) hok)).account_eq hs.made ht.made

theorem members_alike (id : String) : members s caller id = members t caller id := by
  refine bind_eq_bind (h.accountRoles_eq hs ht id) fun there hthere => ?_
  refine bind_eq_bind rfl fun _ hok => ?_
  have hsame := h.same id (hc.isMember hs hthere (by decide) hok)
  refine bind_eq_bind (hsame.account_eq hs.made ht.made) fun _ _ => ?_
  exact hsame.membersOf_eq hs.made ht.made

theorem activeSubscriptions_alike (id : String) (service : Option String) :
    activeSubscriptions ctx s caller id service = activeSubscriptions ctx t caller id service := by
  refine bind_eq_bind (h.accountRoles_eq hs ht id) fun there hthere => ?_
  refine bind_eq_bind rfl fun _ hok => ?_
  have hsame := h.same id (hc.isMember hs hthere (by decide) hok)
  refine bind_eq_bind (hsame.account_eq hs.made ht.made) fun _ _ => ?_
  simp only
  split
  · exact bind_eq_bind (hsame.activeSubscriptions_eq hs.made ht.made) fun _ _ => rfl
  · exact bind_eq_bind (hsame.activeSubscription_eq hs.made ht.made _) fun _ _ => rfl

theorem usages_alike (id : String) (service : Option String) :
    (usages ctx s caller id service).answer = (usages ctx t caller id service).answer := by
  have hreporting : reporting ctx s caller id service = reporting ctx t caller id service :=
    bind_eq_bind (h.accountRoles_eq hs ht id) fun _ _ => rfl
  unfold usages
  rw [← hreporting]
  cases hservices : reporting ctx s caller id service with
  | error f => rfl
  | ok services =>
    -- whoever gets this far is a member
    obtain ⟨there, hthere, hrest⟩ := bind_eq_ok.1 hservices
    obtain ⟨_, hok, -⟩ := bind_eq_ok.1 hrest
    have hsame := h.same id (hc.isMember hs hthere (by decide) hok)
    simp only [usagesOf_same hs.made ht.made hsame]

/-- What is done with a subscription and the roles in its account comes to the same. -/
theorem subscription_roles_alike {α : Type} (id : String) (needed : List String)
    (f : Subscription → RoleSet → Except Failure α) :
    (s.subscription id >>= fun v => rolesFor s caller v.account needed >>= f v)
      = (t.subscription id >>= fun v => rolesFor t caller v.account needed >>= f v) := by
  rcases h.subscription_cases hs ht id with ⟨hv, hw⟩ | ⟨v, hv, hw, -⟩ | ⟨v, w, hv, hw, hno, hno'⟩
  · rw [hv, hw]
    rfl
  · rw [hv, hw, ok_bind, ok_bind]
    exact bind_eq_bind (rolesFor_alike hs ht h _ _) fun _ _ => rfl
  · -- two subscriptions of others under one id, and both are denied
    rw [hv, hw, ok_bind, ok_bind, rolesFor_nonmember hs hc hno, rolesFor_nonmember ht hc hno']
    rfl

theorem subscription_alike (id : String) :
    subscription ctx s caller id = subscription ctx t caller id :=
  bind_eq_bind rfl fun _ _ => subscription_roles_alike hs ht h hc id _ _

theorem removable_alike (id : String) : removable s caller id = removable t caller id :=
  bind_eq_bind rfl fun _ _ => subscription_roles_alike hs ht h hc id _ _

end Platform

/-! ## Operations -/

namespace Http

/-- Two replies say the same and leave stores that are alike to a user. -/
structure Twins (user : String) (a b : Reply) : Prop where
  response : a.response = b.response
  stores : Alike user a.store b.store

variable {ctx : Context} {s t : Store} {caller : Caller} {user : String}

theorem Agree.twins {a b : Reply} (h : Agree (Alike user) a b) : Twins user a b :=
  ⟨h.response, h.stores⟩

theorem Twins.refused (h : Alike user s t) {f : Failure} {c d : List ServiceCall} :
    Twins user ⟨.failed f, s, c⟩ ⟨.failed f, t, d⟩ := (Agree.refused h).twins

theorem Twins.shown (h : Alike user s t) {α : Type} {payload : α → Payload}
    {x y : Except Failure α} (hxy : x = y) :
    Twins user (.shown s payload x) (.shown t payload y) := (Agree.shown h hxy).twins

/-- Operations with one write at their end. -/
theorem Twins.writing (h : Alike user s t) {α : Type} {status : Nat} {content : α → Content}
    {m n : Except Failure (Store × α)}
    (hmn : Matches (fun a b => Alike user a.1 b.1 ∧ a.2 = b.2) m n) :
    Twins user (.ofOutcome status content (.writing s m))
      (.ofOutcome status content (.writing t n)) := (Agree.writing h hmn).twins

/-- Workspaces are nobody's account. -/
theorem alike_workspaces (user : String) : SharesWorkspaces (Alike user) :=
  ⟨Alike.workspaceMembers, fun T h => h.with_workspaceMembers T⟩

theorem alike_commands (user : String) : SharesCommands (Alike user) :=
  ⟨Alike.commands, fun T h => h.with_commands T⟩

/-- The services take every subscription as it is, and do nothing. -/
def AllPlain (registry : Registry) : Prop :=
  ∀ service ∈ registry.services, service = Service.plain service.id

section

variable (hs : Written s) (ht : Written t) (h : Alike caller.user s t)
include hs ht h

theorem createAccount_twins (new : NewAccount) (hnew : s.hasAccount (ctx.newId "account") = false)
    (hnew' : t.hasAccount (ctx.newId "account") = false) :
    Twins caller.user (.made .account (Platform.createAccount ctx s caller new))
      (.made .account (Platform.createAccount ctx t caller new)) := by
  obtain ⟨s', t', hs', ht', halike, hsame⟩ :=
    h.createAccount hs ht (a := ⟨ctx.newId "account", new.name⟩) hnew hnew'
  have hmade := made_write (w := .createAccount _) hs.made hs'
  have hmade' := made_write (w := .createAccount _) ht.made ht'
  unfold Platform.createAccount
  cases caller.require Role.platform with
  | error f => exact .refused h
  | ok _ =>
    by_cases hname : (trim new.name).isEmpty = true
    · simp only [if_pos hname]
      exact .refused h
    · simp only [if_neg hname, hs', ht']
      refine .writing halike ?_
      refine (halike.addMember hmade hmade' (m := ⟨_, _, _⟩) hsame).bind fun _ _ hstores => ?_
      exact .ok ⟨hstores, rfl⟩

variable (hc : caller.Unranked)
include hc

theorem addMember_twins (id : String) (new : NewMember) :
    Twins caller.user (.made .member (Platform.addMember s caller id new))
      (.made .member (Platform.addMember t caller id new)) := by
  refine .writing h ?_
  refine bind_matches (h.accountRoles_eq hs ht id) fun there hthere => ?_
  refine bind_matches rfl fun _ hok => ?_
  have hsame := h.same id (hc.isMember hs hthere (by decide) hok)
  refine bind_matches (hsame.account_eq hs.made ht.made) fun _ _ => ?_
  refine bind_matches rfl fun _ _ => ?_
  refine (h.addMember hs.made ht.made (m := ⟨id, new.user, new.roles⟩) hsame).bind ?_
  exact fun _ _ hstores => .ok ⟨hstores, rfl⟩

theorem subscribe_twins (hplain : AllPlain ctx.registry) (body : Bytes) :
    Twins caller.user (.made .subscription (Platform.subscribe ctx s caller body))
      (.made .subscription (Platform.subscribe ctx t caller body)) := by
  unfold Platform.subscribe
  rw [← Platform.propose_alike hs ht h body]
  cases hp : Platform.propose ctx s caller body with
  | error f => exact .refused h
  | ok p =>
    obtain ⟨order, plan, hproposed⟩ := Platform.propose_ok hp
    have hservice := hplain p.service (Platform.known_mem hproposed.served).1
    -- the draft is stored as it is, and the service has nothing to say about it
    have hbefore : p.service.before p.subscription = .ok p.subscription := by
      rw [hservice]
      rfl
    have hadd := h.addSubscription hs ht (h.same _ (Platform.propose_member hs hc hp))
    simp only [hbefore]
    generalize s.addSubscription p.subscription = x at hadd ⊢
    generalize t.addSubscription p.subscription = y at hadd ⊢
    cases hadd with
    | error f => exact .refused h
    | ok hstores => exact ⟨rfl, hstores⟩

theorem unsubscribe_twins (id : String) :
    Twins caller.user (.removed (Platform.unsubscribe ctx s caller id))
      (.removed (Platform.unsubscribe ctx t caller id)) := by
  unfold Platform.unsubscribe
  rw [← Platform.removable_alike hs ht h hc id]
  cases hv : Platform.removable s caller id with
  | error f => exact .refused h
  | ok v =>
    have hsame := h.same _ (Platform.removable_member hs hc hv)
    have hupdate := h.updateSubscription (v := { v with state := .inactive }) hs ht hsame rfl
    simp only
    generalize s.updateSubscription { v with state := .inactive } = x at hupdate ⊢
    generalize t.updateSubscription { v with state := .inactive } = y at hupdate ⊢
    cases hupdate with
    | error f => exact .refused h
    | ok hstores =>
      simp only
      split
      · exact ⟨rfl, hstores⟩
      · exact ⟨rfl, hstores⟩

end

/-- **Every operation says the same and keeps the stores alike.** -/
theorem perform_twins (hs : Written s) (ht : Written t) (h : Alike caller.user s t)
    (hc : caller.Unranked) (hplain : AllPlain ctx.registry)
    (hnew : s.hasAccount (ctx.newId "account") = false)
    (hnew' : t.hasAccount (ctx.newId "account") = false) (op : Operation) :
    Twins caller.user (op.perform ctx s caller) (op.perform ctx t caller) := by
  cases op with
  | createAccount new => exact createAccount_twins hs ht h new hnew hnew'
  | addMember id new => exact addMember_twins hs ht h hc id new
  | subscribe body => exact subscribe_twins hs ht h hc hplain body
  | unsubscribe id => exact unsubscribe_twins hs ht h hc id
  | createCommand workspace body =>
    exact ((alike_commands _).createCommand h (alike_workspaces _) workspace body).twins
  | updateCommand body => exact ((alike_commands _).updateCommand h body).twins
  | removeCommand id => exact ((alike_commands _).removeCommand h id).twins
  | addWorkspaceMember workspace new =>
    exact ((alike_workspaces _).addWorkspaceMember h workspace new).twins
  | createPlan plan =>
    refine .writing h ?_
    -- plans are for administrators
    rw [Caller.require, hc.denied (by decide)]
    exact .error _
  | showAccount id => exact .shown h (Platform.account_alike hs ht h hc id)
  | listMembers id => exact .shown h (Platform.members_alike hs ht h hc id)
  | showPlan id => exact .shown h (bind_eq_bind rfl fun _ _ => h.plan_eq id)
  | listPlans => exact .shown h (bind_eq_bind rfl fun _ _ => h.allPlans_eq)
  | showSubscription id => exact .shown h (Platform.subscription_alike hs ht h hc id)
  | listSubscriptions id service =>
    exact .shown h (Platform.activeSubscriptions_alike hs ht h hc id service)
  | reportUsages id service =>
    have hanswer : (Platform.usages ctx s caller id service).answer
        = (Platform.usages ctx t caller id service).answer :=
      Platform.usages_alike hs ht h hc id service
    refine ⟨?_, ?_⟩
    · simp only [Operation.perform, Reply.done, Reply.ofOutcome, hanswer]
    · simp only [Operation.perform, Reply.done, Reply.ofOutcome, Platform.usages_store]
      exact h
  | showCommand id => exact ((alike_commands _).showCommand h id).twins
  | listCommands workspace => exact ((alike_commands _).listCommands h workspace).twins
  | listWorkspaceMembers workspace =>
    exact ((alike_workspaces _).listWorkspaceMembers h workspace).twins

/-- A request by a user whose global roles say nothing about accounts, or by nobody. -/
def Request.FromUnranked (r : Request) (user : String) : Prop :=
  ∀ caller, Caller.ofHeaders r.headers = .ok caller → caller.user = user ∧ caller.Unranked

theorem respond_twins (hs : Written s) (ht : Written t) (h : Alike user s t)
    (hplain : AllPlain ctx.registry) (hnew : s.hasAccount (ctx.newId "account") = false)
    (hnew' : t.hasAccount (ctx.newId "account") = false) {r : Request}
    (hr : r.FromUnranked user) : Twins user (respond ctx s r) (respond ctx t r) := by
  refine (respond_agree h fun d hd => ?_).twins
  obtain ⟨resource, method, hasks⟩ := Request.demand_ok hd
  obtain ⟨rfl, hc⟩ := hr d.caller hasks.caller
  have htwins := perform_twins hs ht h hc hplain hnew hnew' d.operation
  exact ⟨htwins.response, htwins.stores⟩

end Http

end CloudIde
