import CloudIde.Proofs.Operation
import CloudIde.Proofs.Writes

/-!
# What an operation can do

`Effect` lists the replies that an operation can get: for each operation that writes, what was
checked on the way, which calls of the store succeeded, and the whole reply; beside these there are
only replies that leave the store as it was. `perform_effect` says that the list is complete. A
statement about what requests do to the store is a case analysis of it.

The list holds for every store, also for one whose tables were found or whose rows were changed by
other hands. So it has entries that a sound store rules out: an account that is made while its owner
cannot be added, a changed command that cannot be read again.
-/

namespace CloudIde

namespace Caller

theorem requireScoped_iff {caller : Caller} {there : RoleSet} {allowed : List String} :
    caller.requireScoped there allowed = .ok () ↔
      ∃ role ∈ allowed, caller.hasRole role = true ∨ role ∈ there := by
  unfold requireScoped holdsAny
  split
  · next hany => simpa using hany
  · next hnone => simpa using hnone

theorem require_iff {caller : Caller} {allowed : List String} :
    caller.require allowed = .ok () ↔ ∃ role ∈ allowed, caller.hasRole role = true := by
  unfold require
  rw [requireScoped_iff]
  simp

theorem requireScoped_cases (caller : Caller) (there : RoleSet) (allowed : List String) :
    caller.requireScoped there allowed = .ok ()
      ∨ caller.requireScoped there allowed = .error .accessDenied := by
  unfold requireScoped
  split
  · exact Or.inl rfl
  · exact Or.inr rfl

end Caller

namespace Platform

/-- A report changes nothing. -/
theorem usages_store {ctx : Context} {s : Store} {caller : Caller} (account : String)
    (service : Option String) : (usages ctx s caller account service).store = s := by
  unfold usages
  split
  · rfl
  · rfl

/-- What can come of subscribing: it fails at one of three steps, or all of them are done. -/
inductive Subscribed (ctx : Context) (s : Store) (caller : Caller) (body : Bytes) :
    Outcome SubscriptionDescriptor → Prop
  | unproposed {f : Failure} (hf : propose ctx s caller body = .error f) :
      Subscribed ctx s caller body ⟨.error f, s, []⟩
  | vetoed {p : Proposal} {f : Failure} (hp : propose ctx s caller body = .ok p)
      (hf : p.service.before p.subscription = .error f) :
      Subscribed ctx s caller body ⟨.error f, s, [⟨.before, p.service.id, p.subscription⟩]⟩
  | unstored {p : Proposal} {v : Subscription} {f : Failure}
      (hp : propose ctx s caller body = .ok p) (hv : p.service.before p.subscription = .ok v)
      (hf : s.addSubscription v = .error f) :
      Subscribed ctx s caller body ⟨.error f, s, [⟨.before, p.service.id, p.subscription⟩]⟩
  /-- The answer is a failure when the service fails afterwards; the subscription is stored. -/
  | stored {p : Proposal} {v : Subscription} {t : Store}
      (hp : propose ctx s caller body = .ok p) (hv : p.service.before p.subscription = .ok v)
      (ht : s.addSubscription v = .ok t) :
      Subscribed ctx s caller body
        ⟨(p.service.after v).map fun () => v.descriptor ctx.baseUrl caller p.roles, t,
          [⟨.before, p.service.id, p.subscription⟩, ⟨.after, p.service.id, v⟩]⟩

theorem subscribe_outcome (ctx : Context) (s : Store) (caller : Caller) (body : Bytes) :
    Subscribed ctx s caller body (subscribe ctx s caller body) := by
  unfold subscribe
  split
  · next f hf => exact .unproposed hf
  · next p hp =>
    simp only
    split
    · next f hf => exact .vetoed hp hf
    · next v hv =>
      split
      · next f hf => exact .unstored hp hv hf
      · next t ht => exact .stored hp hv ht

/-- What can come of unsubscribing. -/
inductive Unsubscribed (ctx : Context) (s : Store) (caller : Caller) (id : String) :
    Outcome Unit → Prop
  | refused {f : Failure} (hf : removable s caller id = .error f) :
      Unsubscribed ctx s caller id ⟨.error f, s, []⟩
  | kept {v : Subscription} {f : Failure} (hv : removable s caller id = .ok v)
      (hf : s.updateSubscription { v with state := .inactive } = .error f) :
      Unsubscribed ctx s caller id ⟨.error f, s, []⟩
  | told {v : Subscription} {service : Service} {t : Store} (hv : removable s caller id = .ok v)
      (ht : s.updateSubscription { v with state := .inactive } = .ok t)
      (hservice : ctx.registry.get? v.service = some service) :
      Unsubscribed ctx s caller id ⟨service.removed { v with state := .inactive }, t,
        [⟨.removed, service.id, { v with state := .inactive }⟩]⟩
  /-- The service is no longer registered. -/
  | quiet {v : Subscription} {t : Store} (hv : removable s caller id = .ok v)
      (ht : s.updateSubscription { v with state := .inactive } = .ok t)
      (hservice : ctx.registry.get? v.service = none) :
      Unsubscribed ctx s caller id ⟨.ok (), t, []⟩

theorem unsubscribe_outcome (ctx : Context) (s : Store) (caller : Caller) (id : String) :
    Unsubscribed ctx s caller id (unsubscribe ctx s caller id) := by
  unfold unsubscribe
  split
  · next f hf => exact .refused hf
  · next v hv =>
    simp only
    split
    · next f hf => exact .kept hv hf
    · next t ht =>
      split
      · next service hservice => exact .told hv ht hservice
      · next hservice => exact .quiet hv ht hservice

end Platform

namespace Http

/-- What an operation that a caller asks for can do to a store, with the reply to it. -/
inductive Effect (ctx : Context) (s : Store) (caller : Caller) : Operation → Reply → Prop
  /-- The operation only looks, and asks services at most for what is used. -/
  | looked {op : Operation} {response : Response} {calls : List ServiceCall} (hop : op.looks = true)
      (hcalls : ∀ c ∈ calls, c.part = .usage) : Effect ctx s caller op ⟨response, s, calls⟩
  /-- The operation is refused before anything is written; a service may have refused it. -/
  | refused {op : Operation} {f : Failure} {calls : List ServiceCall}
      (hcalls : ∀ c ∈ calls, c.part = .before) : Effect ctx s caller op ⟨.failed f, s, calls⟩
  | accountMade {new : NewAccount} {a : Account} {t u : Store}
      (hrole : caller.require Role.platform = .ok ()) (ha : a = ⟨ctx.newId "account", new.name⟩)
      (ht : s.createAccount a = .ok t)
      (hu : t.addMember ⟨a.id, caller.user, [Role.accountOwner]⟩ = .ok u) :
      Effect ctx s caller (.createAccount new) ⟨⟨201, .shown (.account a), none⟩, u, []⟩
  /-- An account is made, but its owner cannot be added. -/
  | ownerMissing {new : NewAccount} {a : Account} {t : Store} {f : Failure}
      (hrole : caller.require Role.platform = .ok ()) (ha : a = ⟨ctx.newId "account", new.name⟩)
      (ht : s.createAccount a = .ok t)
      (hf : t.addMember ⟨a.id, caller.user, [Role.accountOwner]⟩ = .error f) :
      Effect ctx s caller (.createAccount new) ⟨.failed f, t, []⟩
  | memberAdded {account : String} {new : NewMember} {there : RoleSet} {t : Store}
      (hthere : s.accountRoles account caller.user = .ok there)
      (hrole : caller.requireScoped there [Role.accountOwner, Role.systemAdmin] = .ok ())
      (hroles : checkRoles Role.account .unknownAccountRole new.roles = .ok ())
      (ht : s.addMember ⟨account, new.user, new.roles⟩ = .ok t) :
      Effect ctx s caller (.addMember account new)
        ⟨⟨201, .shown (.member ⟨account, new.user, new.roles⟩), none⟩, t, []⟩
  | planMade {p : Plan} {service : Service} {t : Store}
      (hrole : caller.require [Role.systemAdmin] = .ok ()) (hid : p.id.isEmpty = false)
      (hservice : ctx.registry.known p.service = .ok service)
      (htrial : (p.trialDuration < 0 || (Subscription.trialEnd? ctx.now p.trialDuration).isNone)
        = false)
      (ht : s.createPlan p = .ok t) :
      Effect ctx s caller (.createPlan p) ⟨⟨201, .shown (.plan p), none⟩, t, []⟩
  | subscribed {body : Bytes} {p : Platform.Proposal} {v : Subscription} {t : Store}
      (hp : Platform.propose ctx s caller body = .ok p)
      (hv : p.service.before p.subscription = .ok v) (ht : s.addSubscription v = .ok t) :
      Effect ctx s caller (.subscribe body) (.made .subscription
        ⟨(p.service.after v).map fun () => v.descriptor ctx.baseUrl caller p.roles, t,
          [⟨.before, p.service.id, p.subscription⟩, ⟨.after, p.service.id, v⟩]⟩)
  | unsubscribed {id : String} {v : Subscription} {service : Service} {t : Store}
      (hv : Platform.removable s caller id = .ok v)
      (ht : s.updateSubscription { v with state := .inactive } = .ok t)
      (hservice : ctx.registry.get? v.service = some service) :
      Effect ctx s caller (.unsubscribe id) (.removed
        ⟨service.removed { v with state := .inactive }, t,
          [⟨.removed, service.id, { v with state := .inactive }⟩]⟩)
  /-- A subscription to a service that is no longer registered is made inactive. -/
  | unsubscribedQuietly {id : String} {v : Subscription} {t : Store}
      (hv : Platform.removable s caller id = .ok v)
      (ht : s.updateSubscription { v with state := .inactive } = .ok t)
      (hservice : ctx.registry.get? v.service = none) :
      Effect ctx s caller (.unsubscribe id) ⟨⟨204, .nothing, none⟩, t, []⟩
  | commandMade {workspace : String} {body : Bytes} {there : RoleSet} {c : Command} {t : Store}
      (hthere : s.workspaceRoles workspace caller.user = .ok there)
      (hrole : caller.requireScoped there Role.workspace = .ok ())
      (hid : c.id = ctx.newId "command") (hcreator : c.creator = caller.user)
      (hworkspace : c.workspace = workspace) (hname : c.name.isEmpty = false)
      (hline : c.commandLine.isEmpty = false) (ht : s.createCommand c = .ok t) :
      Effect ctx s caller (.createCommand workspace body)
        ⟨⟨201, .shown (.command (c.descriptor ctx.baseUrl caller)), none⟩, t, []⟩
  | commandChanged {body : Bytes} {update : CommandUpdate} {id : String} {t : Store}
      (hupdate : Platform.changing s caller body = .ok (update, id))
      (ht : s.updateCommand update = .ok t) :
      Effect ctx s caller (.updateCommand body) (.done .command (.reading t do
        let updated ← t.command id
        .ok (updated.descriptor ctx.baseUrl caller)))
  | commandRemoved {id : String} {c : Command} {t : Store}
      (hrole : caller.require Role.platform = .ok ()) (hc : s.command id = .ok c)
      (hmay : c.mayRemove caller = true) (ht : s.removeCommand id = .ok t) :
      Effect ctx s caller (.removeCommand id) ⟨⟨204, .nothing, none⟩, t, []⟩
  | workspaceMemberAdded {workspace : String} {new : NewWorkspaceMember} {there : RoleSet}
      {t : Store} (hthere : s.workspaceRoles workspace caller.user = .ok there)
      (hrole : caller.requireScoped there Platform.memberManagers = .ok ())
      (hroles : checkRoles Role.workspace .unknownWorkspaceRole new.roles = .ok ())
      (ht : s.addWorkspaceMember ⟨workspace, new.user, new.roles⟩ = .ok t) :
      Effect ctx s caller (.addWorkspaceMember workspace new)
        ⟨⟨201, .shown (.workspaceMember ⟨workspace, new.user, new.roles⟩), none⟩, t, []⟩

section

variable {ctx : Context} {s : Store} {caller : Caller}

theorem Effect.denied {op : Operation} {f : Failure} :
    Effect ctx s caller op ⟨.failed f, s, []⟩ := .refused (by simp)

/-- The reply to an operation with one write at its end: the write fails, or all of it is done. -/
theorem ofOutcome_writing {α : Type} {P : Reply → Prop} {status : Nat} {content : α → Content}
    {m : Except Failure (Store × α)} (hf : ∀ f, m = .error f → P ⟨.failed f, s, []⟩)
    (ht : ∀ t a, m = .ok (t, a) → P ⟨⟨status, content a, none⟩, t, []⟩) :
    P (Reply.ofOutcome status content (.writing s m)) := by
  cases m with
  | error f => exact hf f rfl
  | ok ta => exact ht ta.1 ta.2 rfl

theorem usagesOf_calls {account : String} {services : List Service} :
    ∀ c ∈ (Platform.usagesOf ctx s account services).2, c.part = .usage := by
  induction services with
  | nil => intro c hc; simp [Platform.usagesOf] at hc
  | cons service rest ih =>
    intro c hc
    unfold Platform.usagesOf at hc
    split at hc
    · simp at hc
    · -- no active subscription to the service, which is not asked then
      exact ih c hc
    · simp only at hc
      split at hc
      · rw [List.mem_singleton.1 hc]
      · rcases List.mem_cons.1 hc with rfl | hc
        · rfl
        · exact ih c hc

theorem createAccount_effect (new : NewAccount) :
    Effect ctx s caller (.createAccount new)
      (.made .account (Platform.createAccount ctx s caller new)) := by
  unfold Platform.createAccount
  split
  · exact .denied
  · next hrole =>
    split
    · exact .denied
    · simp only
      split
      · exact .denied
      · next t ht =>
        -- the account is there by now, so a failure to add its owner leaves it behind
        refine ofOutcome_writing (fun f hf => ?_) (fun u a hu => ?_)
        · refine .ownerMissing hrole rfl ht ?_
          cases hadd : t.addMember ⟨ctx.newId "account", caller.user, [Role.accountOwner]⟩ with
          | error g => rw [hadd] at hf; cases hf; rfl
          | ok u => rw [hadd] at hf; exact absurd hf (by simp)
        · obtain ⟨w, hw, hu⟩ := bind_eq_ok.1 hu
          cases hu
          exact .accountMade hrole rfl ht hw

theorem subscribe_effect (body : Bytes) :
    Effect ctx s caller (.subscribe body)
      (.made .subscription (Platform.subscribe ctx s caller body)) := by
  have houtcome := Platform.subscribe_outcome ctx s caller body
  generalize Platform.subscribe ctx s caller body = outcome at houtcome ⊢
  cases houtcome with
  | unproposed => exact .denied
  | vetoed | unstored => exact .refused (by simp)
  | stored hp hv ht => exact .subscribed hp hv ht

theorem unsubscribe_effect (id : String) :
    Effect ctx s caller (.unsubscribe id) (.removed (Platform.unsubscribe ctx s caller id)) := by
  have houtcome := Platform.unsubscribe_outcome ctx s caller id
  generalize Platform.unsubscribe ctx s caller id = outcome at houtcome ⊢
  cases houtcome with
  | refused | kept => exact .denied
  | told hv ht hservice => exact .unsubscribed hv ht hservice
  | quiet hv ht hservice => exact .unsubscribedQuietly hv ht hservice

theorem commandPart_ok {α : Type} {value : Option α} {part : String} {a : α}
    (h : Platform.commandPart value part = .ok a) : value = some a := by
  cases value with
  | none => exact absurd h (by simp [Platform.commandPart])
  | some b => cases h; rfl

theorem commandText_ok {value : Option String} {part text : String}
    (h : Platform.commandText value part = .ok text) :
    value = some text ∧ text.isEmpty = false := by
  simpa using Option.filter_eq_some_iff.1 (commandPart_ok h)

/-- All that is found before a command is changed. -/
structure Changeable (s : Store) (caller : Caller) (body : Bytes) (update : CommandUpdate)
    (id : String) (c : Command) : Prop where
  role : caller.require [Role.user] = .ok ()
  given : Body.optional CommandUpdate body = .ok (some update)
  /-- The command is the one that the update names. -/
  named : update.id = some id
  name : Platform.commandTextUnlessAbsent update.name "Command name" = .ok ()
  commandLine : Platform.commandTextUnlessAbsent update.commandLine "Command line" = .ok ()
  found : s.command id = .ok c
  own : c.creator = caller.user

theorem changing_ok {body : Bytes} {update : CommandUpdate} {id : String}
    (h : Platform.changing s caller body = .ok (update, id)) :
    ∃ c, Changeable s caller body update id c := by
  obtain ⟨_, hrole, h⟩ := bind_eq_ok.1 h
  obtain ⟨given, hgiven, h⟩ := bind_eq_ok.1 h
  obtain ⟨update', hupdate, h⟩ := bind_eq_ok.1 h
  obtain ⟨id', hid, h⟩ := bind_eq_ok.1 h
  obtain ⟨_, hname, h⟩ := bind_eq_ok.1 h
  obtain ⟨_, hline, h⟩ := bind_eq_ok.1 h
  obtain ⟨c, hc, h⟩ := bind_eq_ok.1 h
  split at h
  · next hown =>
    cases h
    obtain rfl := commandPart_ok hupdate
    exact ⟨c, hrole, hgiven, (commandText_ok hid).1, hname, hline, hc, hown⟩
  · exact absurd h (by simp)

theorem createCommand_effect (workspace : String) (body : Bytes) :
    Effect ctx s caller (.createCommand workspace body)
      (.made .command (Platform.createCommand ctx s caller workspace body)) := by
  refine ofOutcome_writing (fun f _ => .denied) (fun t a h => ?_)
  obtain ⟨there, hthere, h⟩ := bind_eq_ok.1 h
  obtain ⟨_, hrole, h⟩ := bind_eq_ok.1 h
  obtain ⟨_, _, h⟩ := bind_eq_ok.1 h
  obtain ⟨new, _, h⟩ := bind_eq_ok.1 h
  obtain ⟨name, hname, h⟩ := bind_eq_ok.1 h
  obtain ⟨line, hline, h⟩ := bind_eq_ok.1 h
  obtain ⟨t, ht, h⟩ := bind_eq_ok.1 h
  cases h
  exact .commandMade hthere hrole rfl rfl rfl (commandText_ok hname).2 (commandText_ok hline).2 ht

theorem updateCommand_effect (body : Bytes) :
    Effect ctx s caller (.updateCommand body)
      (.done .command (Platform.updateCommand ctx s caller body)) := by
  unfold Platform.updateCommand
  split
  · exact .denied
  · next update id hupdate =>
    split
    · exact .denied
    · next t ht => exact .commandChanged hupdate ht

/-- **There are no other replies.** -/
theorem perform_effect (op : Operation) : Effect ctx s caller op (op.perform ctx s caller) := by
  cases op with
  | createAccount new => exact createAccount_effect new
  | subscribe body => exact subscribe_effect body
  | unsubscribe id => exact unsubscribe_effect id
  | createCommand workspace body => exact createCommand_effect workspace body
  | updateCommand body => exact updateCommand_effect body
  | addMember account new =>
    refine ofOutcome_writing (fun f _ => .denied) (fun t a h => ?_)
    obtain ⟨there, hthere, h⟩ := bind_eq_ok.1 h
    obtain ⟨_, hrole, h⟩ := bind_eq_ok.1 h
    obtain ⟨_, _, h⟩ := bind_eq_ok.1 h
    obtain ⟨_, hroles, h⟩ := bind_eq_ok.1 h
    obtain ⟨t, ht, h⟩ := bind_eq_ok.1 h
    cases h
    exact .memberAdded hthere hrole hroles ht
  | createPlan p =>
    refine ofOutcome_writing (fun f _ => .denied) (fun t a h => ?_)
    obtain ⟨_, hrole, h⟩ := bind_eq_ok.1 h
    split at h
    · exact absurd h (by simp)
    · next hid =>
      obtain ⟨service, hservice, h⟩ := bind_eq_ok.1 h
      split at h
      · exact absurd h (by simp)
      · next htrial =>
        obtain ⟨t, ht, h⟩ := bind_eq_ok.1 h
        cases h
        exact .planMade hrole (by simpa using hid) hservice (Bool.eq_false_iff.2 htrial) ht
  | removeCommand id =>
    refine ofOutcome_writing (fun f _ => .denied) (fun t a h => ?_)
    obtain ⟨_, hrole, h⟩ := bind_eq_ok.1 h
    obtain ⟨c, hc, h⟩ := bind_eq_ok.1 h
    split at h
    · next hmay =>
      obtain ⟨t, ht, h⟩ := bind_eq_ok.1 h
      cases h
      exact .commandRemoved hrole hc hmay ht
    · exact absurd h (by simp)
  | addWorkspaceMember workspace new =>
    refine ofOutcome_writing (fun f _ => .denied) (fun t a h => ?_)
    obtain ⟨there, hthere, h⟩ := bind_eq_ok.1 h
    obtain ⟨_, hrole, h⟩ := bind_eq_ok.1 h
    obtain ⟨_, hroles, h⟩ := bind_eq_ok.1 h
    obtain ⟨t, ht, h⟩ := bind_eq_ok.1 h
    cases h
    exact .workspaceMemberAdded hthere hrole hroles ht
  | reportUsages account service =>
    simp only [Operation.perform, Platform.usages]
    split
    · exact .looked rfl (by simp [Outcome.refused])
    · exact .looked rfl usagesOf_calls
  | showAccount | listMembers | showPlan | listPlans | showSubscription | listSubscriptions
  | showCommand | listCommands | listWorkspaceMembers =>
    exact .looked rfl (by simp [Outcome.reading])

end

end Http

end CloudIde
