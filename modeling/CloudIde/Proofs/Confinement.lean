import CloudIde.Proofs.Reached
import CloudIde.Proofs.SameAccount
import CloudIde.Proofs.Subscribing

/-!
# Whose account a request can change

An ordinary caller, who neither is privileged nor owns every account, changes at most one of the
accounts that are there, and only one that a stored membership of theirs entrusts to them. The
account is named in the path, in the body or by a stored subscription, depending on what is asked
for; in each case the membership that was looked at is one in the account whose rows are written.

A membership that makes its user an owner entrusts everything. A membership can also hold a role
that is no role of accounts: one that holds the role of administrators entrusts the members and
nothing else. Requests never store such a membership.

Services may change a subscription before it is stored, so it is asked of them that they leave it
with its account.
-/

namespace CloudIde

namespace Caller

/-- A caller without any of the global roles that count in accounts of others. -/
structure Ordinary (caller : Caller) : Prop where
  unprivileged : caller.isPrivileged = false
  ownerless : caller.hasRole Role.accountOwner = false

theorem Ordinary.not_admin {caller : Caller} (h : caller.Ordinary) :
    caller.hasRole Role.systemAdmin = false := (Bool.or_eq_false_iff.1 h.unprivileged).1

/-- Administrators alone add plans. -/
theorem Ordinary.refused {caller : Caller} (h : caller.Ordinary) :
    caller.require [Role.systemAdmin] ≠ .ok () := by
  intro hok
  obtain ⟨role, hrole, hholds⟩ := require_iff.1 hok
  rw [List.mem_singleton.1 hrole, h.not_admin] at hholds
  exact absurd hholds Bool.false_ne_true

/-- An ordinary caller who may do what owners and administrators may has the role there. -/
theorem Ordinary.entrusted {caller : Caller} (h : caller.Ordinary) {there : RoleSet}
    (hok : caller.requireScoped there [Role.accountOwner, Role.systemAdmin] = .ok ()) :
    Role.accountOwner ∈ there ∨ Role.systemAdmin ∈ there := by
  simpa [h.ownerless, h.not_admin] using requireScoped_iff.1 hok

end Caller

namespace Store

/-- All accounts that are there are left as they were, but for one that may be touched. -/
def Spares (s t : Store) (touched : Option String) : Prop :=
  ∀ id, s.hasAccount id = true → some id ≠ touched → SameAccount s t id

theorem Spares.refl (s : Store) : Spares s s none := fun id _ _ => .refl s id

/-- A membership entrusts an account to a user, for what has become of the store. -/
def Entrusts (s t : Store) (id user : String) : Prop :=
  s.Gives id user Role.accountOwner ∨
    s.Gives id user Role.systemAdmin ∧ t = { s with members := t.members }

/-- What a user who is entrusted with accounts can have made of a store. -/
structure Confined (s t : Store) (user : String) : Prop where
  plans : t.plans = s.plans
  touched : ∃ touched, Spares s t touched ∧ ∀ id ∈ touched, Entrusts s t id user

theorem Confined.untouched {s t : Store} {user : String} (hp : t.plans = s.plans)
    (h : Spares s t none) : Confined s t user :=
  ⟨hp, none, h, fun _ hid => absurd hid (by simp)⟩

theorem Confined.owned {s t : Store} {user id : String} (hp : t.plans = s.plans)
    (h : Spares s t (some id)) (howner : s.Gives id user Role.accountOwner) :
    Confined s t user :=
  ⟨hp, some id, h, fun _ hid => by cases hid; exact Or.inl howner⟩

end Store

namespace Http

open Store

variable {ctx : Context} {s : Store} {caller : Caller}

/-- A subscription that is made inactive was stored for the account whose owner asks for it. -/
theorem unsubscribed_confined {id : String} {v : Subscription} {t : Store} (hs : AllMade s)
    (hcaller : caller.Ordinary) (hv : Platform.removable s caller id = .ok v)
    (ht : s.updateSubscription { v with state := .inactive } = .ok t) :
    Confined s t caller.user := by
  obtain ⟨-, hfound, ⟨there, hthere⟩, -⟩ := Platform.removable_ok hv
  obtain ⟨row, hrow, hid, hread⟩ := subscription_ok hfound
  obtain ⟨hcell, haccount, -⟩ := SubscriptionRow.readOne_cells hread
  have howner := Platform.rolesFor_owner hcaller.unprivileged hthere
  have hplans : t.plans = s.plans := by
    cases (updateSubscription_ok ht).only
    rfl
  refine .owned hplans (fun other _ hne => ?_) howner
  have hother : other ≠ v.account := fun he => hne (congrArg some he)
  refine sameAccount_updateSubscription hs ht hother fun r hr hrid hracc => ?_
  -- the row that is written over is the one that was read
  have hrid : Row.key r = Row.key row := by
    rw [hid] at hcell
    cases hcell
    simp [Row.key, hrid, hid]
  rw [Table.eq_of_key hs.subscriptions hr hrow hrid] at hracc
  rw [hracc] at haccount
  cases haccount
  exact hother rfl

theorem Effect.confined {op : Operation} {reply : Reply} (h : Effect ctx s caller op reply)
    (hs : AllMade s) (hcaller : caller.Ordinary)
    (hkeeps : ∀ service ∈ ctx.registry.services, ∀ v w, service.before v = .ok w →
      w.account = v.account) : Confined s reply.store caller.user := by
  have hframe := h.frame
  cases h with
  | looked | refused => exact .untouched rfl (.refl s)
  | @accountMade new a t u _ _ ht hu =>
    have hmade := made_write (w := .createAccount a) hs ht
    obtain ⟨T, hT, rfl⟩ := createAccount_ok ht
    obtain ⟨-, rfl⟩ := addMember_ok hu
    -- both writes are to an account that was not there
    refine .untouched rfl fun id hid _ => ?_
    have hne := ne_of_createAccount hs ht hid
    exact (sameAccount_createAccount hs ht hne).trans (sameAccount_addMember hmade hu hne)
  | @ownerMissing new a t f _ _ ht _ =>
    obtain ⟨T, hT, rfl⟩ := createAccount_ok ht
    refine .untouched rfl fun id hid _ => ?_
    exact sameAccount_createAccount hs ht (ne_of_createAccount hs ht hid)
  | @memberAdded account new there t hthere hrole _ ht =>
    obtain ⟨-, rfl⟩ := addMember_ok ht
    refine ⟨rfl, some account, fun id _ hne => ?_, fun id hid => ?_⟩
    · exact sameAccount_addMember hs ht fun he => hne (congrArg some he)
    · cases hid
      rcases hcaller.entrusted hrole with howner | hadmin
      · exact Or.inl (accountRoles_mem hthere howner)
      · exact Or.inr ⟨accountRoles_mem hthere hadmin, rfl⟩
  | planMade hrole _ _ _ _ => exact absurd hrole hcaller.refused
  | @subscribed body p v t hp hv ht =>
    obtain ⟨order, plan, h⟩ := Platform.propose_ok hp
    -- the service keeps the account of the draft, which is that of the order
    have haccount : v.account = order.account := by
      rw [hkeeps p.service (Platform.known_mem h.served).1 _ _ hv]
      exact (Platform.draft_ok h.drafted).2.1
    have hinsert := addSubscription_ok ht
    have hplans : t.plans = s.plans := by
      obtain ⟨T, -, rfl⟩ := (insertSubscription_ok hinsert).only
      rfl
    refine .owned hplans (fun id _ hne => ?_)
      (Platform.rolesFor_owner hcaller.unprivileged h.entitled)
    exact sameAccount_insertSubscription hs hinsert fun he => hne (by rw [he, haccount])
  | unsubscribed hv ht _ => exact unsubscribed_confined hs hcaller hv ht
  | unsubscribedQuietly hv ht _ => exact unsubscribed_confined hs hcaller hv ht
  | commandMade | commandChanged | commandRemoved | workspaceMemberAdded =>
    refine .untouched (hframe.plans.resolve_left (by simp [Operation.writes])) fun id _ _ => ?_
    exact sameAccount_of_tables (hframe.accounts.resolve_left (by simp [Operation.writes]))
      (hframe.members.resolve_left (by simp [Operation.writes]))
      (hframe.subscriptions.resolve_left (by simp [Operation.writes]))

/-- **A request by an ordinary caller changes no plan, and of the accounts that are there at most
one that is entrusted to the caller**; in a store that requests have made, one that they own. -/
theorem changes_entrusted (ctx : Context) (s : Store) (r : Request) (hs : AllMade s)
    (hkeeps : ∀ service ∈ ctx.registry.services, ∀ v w, service.before v = .ok w →
      w.account = v.account)
    (hcaller : ∀ caller, Caller.ofHeaders r.headers = .ok caller → caller.Ordinary) :
    (respond ctx s r).store.plans = s.plans ∧
      ∀ id, s.hasAccount id = true → ¬ SameAccount s (respond ctx s r).store id →
        (∃ caller, Caller.ofHeaders r.headers = .ok caller ∧
            Entrusts s (respond ctx s r).store id caller.user ∧
              ∀ P, Reached P s → s.Gives id caller.user Role.accountOwner) ∧
          ∀ other, s.hasAccount other = true → other ≠ id →
            SameAccount s (respond ctx s r).store other := by
  cases hd : r.demand with
  | error response =>
    rw [respond_of_no_demand hd]
    exact ⟨rfl, fun id _ hchanged => absurd (.refl s id) hchanged⟩
  | ok d =>
    obtain ⟨resource, method, hasks⟩ := Request.demand_ok hd
    rw [respond_of_demand hd, Demand.reply_store]
    have heffect : Effect ctx s d.caller d.operation (d.operation.perform ctx s d.caller) :=
      perform_effect d.operation
    obtain ⟨hplans, touched, hspares, htouched⟩ :=
      heffect.confined hs (hcaller d.caller hasks.caller) hkeeps
    refine ⟨hplans, fun id hid hchanged => ?_⟩
    -- the one account that may be touched is the one that was
    have hone : touched = some id := by
      by_cases he : some id = touched
      · exact he.symm
      · exact absurd (hspares id hid he) hchanged
    have hentrusts := htouched id (by rw [hone]; rfl)
    refine ⟨⟨d.caller, hasks.caller, hentrusts, fun P hreached => ?_⟩, fun other hother hne => ?_⟩
    · rcases hentrusts with howner | ⟨hadmin, -⟩
      · exact howner
      · exact absurd (hreached.gives hadmin) (by decide)
    · refine hspares other hother fun he => hne ?_
      rw [hone] at he
      exact Option.some.inj he

/-! ## An account that is entrusted to somebody who does not own it -/

/-- A store with an account whose one member was given a role of the platform in it, as calls of the
store can give one. -/
def delegated : Store := empty.run
  [.call (.createAccount ⟨"acme", "Acme"⟩), .call (.addMember ⟨"acme", "eve", [Role.systemAdmin]⟩)]

/-- The circumstances in which one service is registered, which takes every subscription. -/
def quiet : Context := ⟨"http://host/api", .ofList [.plain "mail"], .epoch, []⟩

/-- The member asks for an owner of the account. -/
def addition : Request where
  method := "POST"
  path := "/api/account/acme/members"
  query := none
  headers := [("x-user-id", Bytes.ofText "eve"), ("x-user-roles", Bytes.ofText "user"),
    ("content-type", Bytes.ofText "application/json")]
  body := Bytes.ofText "\x7b\"userId\":\"mallory\",\"roles\":[\"account/owner\"]\x7d"

theorem addition_demand : addition.demand = .ok ⟨⟨"eve", RoleSet.ofList [Role.user]⟩,
    .addMember "acme" ⟨"mallory", [Role.accountOwner]⟩, false⟩ := rfl

theorem addition_ordinary (caller : Caller)
    (h : Caller.ofHeaders addition.headers = .ok caller) : caller.Ordinary := by
  have hcaller : Caller.ofHeaders addition.headers = .ok ⟨"eve", RoleSet.ofList [Role.user]⟩ := rfl
  rw [hcaller] at h
  cases h
  exact ⟨rfl, rfl⟩

theorem quiet_keeps : ∀ service ∈ quiet.registry.services, ∀ v w, service.before v = .ok w →
    w.account = v.account := by
  intro service hservice v w hw
  cases List.mem_singleton.1 hservice
  cases hw
  rfl

theorem made_delegated : AllMade delegated := ⟨rfl, rfl, rfl, rfl, rfl, rfl⟩

theorem addition_changes :
    ¬ SameAccount delegated (respond quiet delegated addition).store "acme" := by
  intro hsame
  have hroles : delegated.accountRoles "acme" "eve" = .ok (RoleSet.ofList [Role.systemAdmin]) :=
    accountRoles_single (m := ⟨"acme", "eve", [Role.systemAdmin]⟩) rfl rfl
  -- there was one member, and now there are two
  have hmembers := congrArg List.length hsame.members
  rw [respond_of_demand addition_demand, Demand.reply_store] at hmembers
  simp only [Operation.perform, Platform.addMember, hroles, ok_bind] at hmembers
  exact absurd hmembers (by decide)

/-- Who changes an account need not own it. -/
theorem not_owners_only : ¬ ∀ (ctx : Context) (s : Store) (r : Request), AllMade s →
    (∀ service ∈ ctx.registry.services, ∀ v w, service.before v = .ok w →
      w.account = v.account) →
    (∀ caller, Caller.ofHeaders r.headers = .ok caller → caller.Ordinary) →
    ∀ id, s.hasAccount id = true → ¬ SameAccount s (respond ctx s r).store id →
      ∃ caller, Caller.ofHeaders r.headers = .ok caller ∧
        s.Gives id caller.user Role.accountOwner := by
  intro h
  obtain ⟨_, _, row, hrow, _, m, hread, _, howner⟩ :=
    h quiet delegated addition made_delegated quiet_keeps addition_ordinary "acme" rfl
      addition_changes
  cases List.mem_singleton.1 hrow
  rw [MemberRow.readOne_ofMember] at hread
  cases hread
  exact absurd howner (by decide)

theorem changes_entrusted_delegated :
    ∃ caller, Caller.ofHeaders addition.headers = .ok caller ∧
      Entrusts delegated (respond quiet delegated addition).store "acme" caller.user := by
  obtain ⟨-, hone⟩ := changes_entrusted quiet delegated addition made_delegated quiet_keeps
    addition_ordinary
  obtain ⟨⟨caller, hcaller, hentrusts, -⟩, -⟩ := hone "acme" rfl addition_changes
  exact ⟨caller, hcaller, hentrusts⟩

end Http

end CloudIde
