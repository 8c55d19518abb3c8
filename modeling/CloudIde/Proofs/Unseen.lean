import CloudIde.Proofs.Agreement
import CloudIde.Proofs.Subscribing
import CloudIde.Proofs.Variants

/-!
# What is not seen of subscriptions

Let two stores agree row by row, with subscriptions that vary in their properties, and let a caller
be shown the same of subscriptions that vary; let services, too, say the same about them (`Unseen`).
Then every operation that has nothing to do with commands gives the same response from both stores
and leaves stores that agree (`perform_unseen`).

Services and callers could tell the subscriptions apart in three places only: where a subscription
is shown, where its service is told that it is removed, and where its service reports what is used.
Before a subscription is stored its service sees it as well, but that one is made from the order and
the plan, which are the same for both stores.
-/

namespace CloudIde

open Store

/-- A caller is shown the same of subscriptions in a relation, and services say the same of them. -/
structure Unseen (ctx : Context) (caller : Caller) (V : Subscription → Subscription → Prop) :
    Prop where
  shown : ∀ {v w}, V v w → ∀ there,
    v.descriptor ctx.baseUrl caller there = w.descriptor ctx.baseUrl caller there
  removed : ∀ {v w}, V v w → ∀ service ∈ ctx.registry.services,
    service.removed { v with state := .inactive } = service.removed { w with state := .inactive }
  usage : ∀ {v w}, V v w → ∀ service ∈ ctx.registry.services, service.usage v = service.usage w

/-- Nobody tells a subscription from itself. -/
theorem unseen_same (ctx : Context) (caller : Caller) : Unseen ctx caller Eq where
  shown h _ := by rw [h]
  removed h _ _ := by rw [h]
  usage h _ _ := by rw [h]

section

variable {ctx : Context} {caller : Caller} {Q : SubscriptionRow → SubscriptionRow → Prop}
  {V : Subscription → Subscription → Prop} {P : CommandRow → CommandRow → Prop} {s t : Store}

namespace Platform

/-! ## Checks -/

section

variable (h : RowByRow Q P s t)
include h

theorem rolesFor_rowByRow (account : String) (needed : List String) :
    rolesFor s caller account needed = rolesFor t caller account needed := by
  unfold rolesFor
  split
  · rfl
  · exact bind_eq_bind (h.accountRoles_eq account caller.user) fun _ _ => rfl

theorem propose_rowByRow (body : Bytes) :
    propose ctx s caller body = propose ctx t caller body := by
  refine bind_eq_bind rfl fun _ _ => ?_
  refine bind_eq_bind rfl fun order _ => ?_
  refine bind_eq_bind (rolesFor_rowByRow h _ _) fun _ _ => ?_
  split
  · rfl
  · exact bind_eq_bind (h.plan_eq _) fun _ _ => rfl

theorem reporting_rowByRow (account : String) (service : Option String) :
    reporting ctx s caller account service = reporting ctx t caller account service :=
  bind_eq_bind (h.accountRoles_eq account caller.user) fun _ _ => rfl

end

/-- Only registered services report. -/
theorem reporting_mem {account : String} {service : Option String} {services : List Service}
    (h : reporting ctx s caller account service = .ok services) :
    ∀ service ∈ services, service ∈ ctx.registry.services := by
  obtain ⟨_, _, h⟩ := bind_eq_ok.1 h
  obtain ⟨_, _, h⟩ := bind_eq_ok.1 h
  cases service with
  | none =>
    cases h
    exact fun _ hservice => hservice
  | some id =>
    obtain ⟨found, hfound, h⟩ := bind_eq_ok.1 h
    cases h
    intro service hservice
    rw [List.mem_singleton.1 hservice]
    exact (known_mem hfound).1

section

variable (hQ : Variants Q V) (hV : Unseen ctx caller V) (h : RowByRow Q P s t)
include hQ h

theorem removable_rowByRow (id : String) :
    Matches V (removable s caller id) (removable t caller id) := by
  refine bind_matches rfl fun _ _ => ?_
  refine (h.subscription hQ id).bind fun v w hvw => ?_
  have hvw' := hvw
  -- the account and the state are those of both
  obtain ⟨_, rfl⟩ := hQ.read hvw
  refine bind_matches (rolesFor_rowByRow h _ _) fun _ _ => ?_
  show Matches V (if v.isActive then .ok v else _) (if v.isActive then .ok _ else _)
  split
  · exact .ok hvw'
  · exact .error _

include hV

/-! ## Looks -/

theorem subscription_rowByRow (id : String) :
    subscription ctx s caller id = subscription ctx t caller id := by
  have hmatch : Matches Eq (subscription ctx s caller id) (subscription ctx t caller id) := by
    refine bind_matches rfl fun _ _ => ?_
    refine (h.subscription hQ id).bind fun v w hvw => ?_
    have hshown := hV.shown hvw
    obtain ⟨_, rfl⟩ := hQ.read hvw
    refine bind_matches (rolesFor_rowByRow h _ _) fun there _ => ?_
    rw [hshown there]
    exact .ok rfl
  exact hmatch.eq

theorem activeSubscriptions_rowByRow (account : String) (service : Option String) :
    activeSubscriptions ctx s caller account service
      = activeSubscriptions ctx t caller account service := by
  refine bind_eq_bind (h.accountRoles_eq account caller.user) fun there _ => ?_
  refine bind_eq_bind rfl fun _ _ => ?_
  refine bind_eq_bind (h.account_eq account) fun _ _ => ?_
  have hall {vs ws : List Subscription} (hvw : List.Forall₂ V vs ws) :
      vs.map (fun v => v.descriptor ctx.baseUrl caller there)
        = ws.map fun w => w.descriptor ctx.baseUrl caller there := by
    refine List.forall₂_eq_eq_eq ▸ List.rel_map (fun v w hvw => ?_) hvw
    exact hV.shown hvw there
  simp only
  split
  · refine Matches.eq ((h.activeSubscriptions hQ account).bind fun vs ws hvw => ?_)
    rw [hall hvw]
    exact .ok rfl
  · refine Matches.eq ((h.activeSubscription hQ account _).bind fun x y hxy => ?_)
    have hlist : List.Forall₂ V x.toList y.toList := by
      cases hxy with
      | none => exact .nil
      | some hvw => exact .cons hvw .nil
    simp only [ok_bind, hall hlist]
    exact .ok rfl

theorem usagesOf_rowByRow (account : String) {services : List Service}
    (hmem : ∀ service ∈ services, service ∈ ctx.registry.services) :
    (usagesOf ctx s account services).1 = (usagesOf ctx t account services).1 := by
  induction services with
  | nil => rfl
  | cons service rest ih =>
    have ih := ih fun other hother => hmem other (List.mem_cons_of_mem _ hother)
    have hfound := h.activeSubscription hQ account service.id
    unfold usagesOf
    generalize s.activeSubscription account service.id = x at hfound ⊢
    generalize t.activeSubscription account service.id = y at hfound ⊢
    cases hfound with
    | error f => rfl
    | ok hxy =>
      cases hxy with
      | none => exact ih
      | @some v w hvw =>
        have husage := hV.usage hvw service (hmem service List.mem_cons_self)
        obtain ⟨_, rfl⟩ := hQ.read hvw
        simp only [husage]
        split
        · rfl
        · -- the subscription is named in the report by what is the same of both
          simp only [ih]
          rfl

end

end Platform

namespace Http

/-! ## Operations -/

/-- Whether an operation shows or changes commands. -/
def Operation.onCommands : Operation → Bool
  | createCommand .. | showCommand _ | updateCommand _ | removeCommand _ | listCommands _ => true
  | _ => false

theorem rowByRow_workspaces : SharesWorkspaces (RowByRow Q P) :=
  ⟨RowByRow.workspaceMembers, fun _ h => { h with workspaceMembers := rfl }⟩

theorem rowByRow_commands : SharesCommands (RowByRow Q Eq) where
  same h := h.commands.same
  set T h := { h with commands := .of_same (fun _ => rfl) T }

section

variable (h : RowByRow Q P s t)
include h

theorem createAccount_rowByRow (new : NewAccount) :
    Agree (RowByRow Q P) (.made .account (Platform.createAccount ctx s caller new))
      (.made .account (Platform.createAccount ctx t caller new)) := by
  unfold Platform.createAccount
  split
  · exact .refused h
  · split
    · exact .refused h
    · have hmade := h.createAccount ⟨ctx.newId "account", new.name⟩
      simp only
      generalize s.createAccount _ = x at hmade ⊢
      generalize t.createAccount _ = y at hmade ⊢
      cases hmade with
      | error f => exact .refused h
      | ok hmid =>
        refine .writing hmid ((hmid.addMember _).bind fun _ _ hstores => ?_)
        exact .ok ⟨hstores, rfl⟩

theorem addMember_rowByRow (id : String) (new : NewMember) :
    Agree (RowByRow Q P) (.made .member (Platform.addMember s caller id new))
      (.made .member (Platform.addMember t caller id new)) := by
  refine .writing h ?_
  refine bind_matches (h.accountRoles_eq id caller.user) fun _ _ => ?_
  refine bind_matches rfl fun _ _ => ?_
  refine bind_matches (h.account_eq id) fun _ _ => ?_
  refine bind_matches rfl fun _ _ => ?_
  exact (h.addMember _).bind fun _ _ hstores => .ok ⟨hstores, rfl⟩

theorem createPlan_rowByRow (plan : Plan) :
    Agree (RowByRow Q P) (.made .plan (Platform.createPlan ctx s caller plan))
      (.made .plan (Platform.createPlan ctx t caller plan)) := by
  refine .writing h ?_
  refine bind_matches rfl fun _ _ => ?_
  split
  · exact .error _
  · refine bind_matches rfl fun _ _ => ?_
    split
    · exact .error _
    · exact (h.createPlan plan).bind fun _ _ hstores => .ok ⟨hstores, rfl⟩

theorem showAccount_rowByRow (id : String) :
    Agree (RowByRow Q P) (.shown s .account (Platform.account s caller id))
      (.shown t .account (Platform.account t caller id)) := by
  refine .shown h (bind_eq_bind (h.accountRoles_eq id caller.user) fun _ _ => ?_)
  exact bind_eq_bind rfl fun _ _ => h.account_eq id

theorem listMembers_rowByRow (id : String) :
    Agree (RowByRow Q P) (.shown s .members (Platform.members s caller id))
      (.shown t .members (Platform.members t caller id)) := by
  refine .shown h (bind_eq_bind (h.accountRoles_eq id caller.user) fun _ _ => ?_)
  refine bind_eq_bind rfl fun _ _ => ?_
  exact bind_eq_bind (h.account_eq id) fun _ _ => h.membersOf_eq id

end

section

variable (hQ : Variants Q V) (hV : Unseen ctx caller V) (h : RowByRow Q P s t)
include hQ h

/-- What is stored is made from the order and the plan, and so the same for both stores. -/
theorem subscribe_rowByRow (body : Bytes) :
    Agree (RowByRow Q P) (.made .subscription (Platform.subscribe ctx s caller body))
      (.made .subscription (Platform.subscribe ctx t caller body)) := by
  unfold Platform.subscribe
  rw [← Platform.propose_rowByRow h body]
  cases Platform.propose ctx s caller body with
  | error f => exact .refused h
  | ok p =>
    simp only
    cases p.service.before p.subscription with
    | error f => exact .refused h
    | ok v =>
      have hadd := h.addSubscription hQ v
      simp only
      generalize s.addSubscription v = x at hadd ⊢
      generalize t.addSubscription v = y at hadd ⊢
      cases hadd with
      | error f => exact .refused h
      | ok hstores => exact ⟨rfl, hstores⟩

include hV

theorem unsubscribe_rowByRow (id : String) :
    Agree (RowByRow Q P) (.removed (Platform.unsubscribe ctx s caller id))
      (.removed (Platform.unsubscribe ctx t caller id)) := by
  have hremovable : Matches V (Platform.removable s caller id) (Platform.removable t caller id) :=
    Platform.removable_rowByRow hQ h id
  unfold Platform.unsubscribe
  generalize Platform.removable s caller id = x at hremovable ⊢
  generalize Platform.removable t caller id = y at hremovable ⊢
  cases hremovable with
  | error f => exact .refused h
  | @ok v w hvw =>
    have hremoved := hV.removed hvw
    have hupdate := h.updateSubscription hQ hvw .inactive
    obtain ⟨_, rfl⟩ := hQ.read hvw
    simp only
    generalize s.updateSubscription _ = x at hupdate ⊢
    generalize t.updateSubscription _ = y at hupdate ⊢
    cases hupdate with
    | error f => exact .refused h
    | ok hstores =>
      simp only
      split
      · next service hservice =>
        have hmem := List.mem_of_find?_eq_some hservice
        refine ⟨?_, hstores⟩
        simp only [Reply.removed, Reply.ofOutcome, hremoved service hmem]
      · exact ⟨rfl, hstores⟩

theorem reportUsages_rowByRow (account : String) (service : Option String) :
    Agree (RowByRow Q P) (.done .usages (Platform.usages ctx s caller account service))
      (.done .usages (Platform.usages ctx t caller account service)) := by
  unfold Platform.usages
  rw [← Platform.reporting_rowByRow h]
  cases hservices : Platform.reporting ctx s caller account service with
  | error f => exact .refused h
  | ok services =>
    have hsame := Platform.usagesOf_rowByRow hQ hV h account (Platform.reporting_mem hservices)
    refine ⟨?_, h⟩
    simp only [Reply.done, Reply.ofOutcome, hsame]

/-- **What is not seen of subscriptions makes no difference**: every operation that has nothing to
do with commands says the same, and leaves stores that agree. -/
theorem perform_unseen {op : Operation} (hop : op.onCommands = false) :
    Agree (RowByRow Q P) (op.perform ctx s caller) (op.perform ctx t caller) := by
  cases op with
  | createAccount new => exact createAccount_rowByRow h new
  | showAccount id => exact showAccount_rowByRow h id
  | addMember id new => exact addMember_rowByRow h id new
  | listMembers id => exact listMembers_rowByRow h id
  | createPlan plan => exact createPlan_rowByRow h plan
  | showPlan id => exact .shown h (bind_eq_bind rfl fun _ _ => h.plan_eq id)
  | listPlans => exact .shown h (bind_eq_bind rfl fun _ _ => h.allPlans_eq)
  | subscribe body => exact subscribe_rowByRow hQ h body
  | unsubscribe id => exact unsubscribe_rowByRow hQ hV h id
  | showSubscription id => exact .shown h (Platform.subscription_rowByRow hQ hV h id)
  | listSubscriptions id service =>
    exact .shown h (Platform.activeSubscriptions_rowByRow hQ hV h id service)
  | reportUsages id service => exact reportUsages_rowByRow hQ hV h id service
  | addWorkspaceMember workspace new =>
    exact rowByRow_workspaces.addWorkspaceMember h workspace new
  | listWorkspaceMembers workspace => exact rowByRow_workspaces.listWorkspaceMembers h workspace
  | createCommand | showCommand | updateCommand | removeCommand | listCommands =>
    exact absurd hop (by simp [Operation.onCommands])

end

end Http

end

end CloudIde
