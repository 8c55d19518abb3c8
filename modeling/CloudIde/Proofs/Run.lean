import CloudIde.Proofs.Effect
import CloudIde.Proofs.Written

/-!
# Runs

What happens to a store over time is a list of steps: calls of the store, requests that are answered
in whatever circumstances, and new subscriptions whose checks were made earlier, on what the store
held then. The last are what is left when requests are served at the same time: others may write
between the look at a store and the insertion that follows it.

A request changes the store by calls that succeed (`Effect.leads`). So what every successful call
keeps is kept by every run (`run_keeps`).
-/

namespace CloudIde

namespace Store

/-- Stores that come from one by calls that succeed. -/
inductive Leads : Store → Store → Prop
  | refl (s : Store) : Leads s s
  | tail {s t u : Store} {w : Write} (h : Leads s t) (hw : t.write w = .ok u) : Leads s u

theorem Leads.single {s t : Store} (w : Write) (hw : s.write w = .ok t) : Leads s t :=
  .tail (.refl s) hw

theorem Leads.keeps {P : Store → Prop} (hP : ∀ {s t w}, P s → s.write w = .ok t → P t)
    {s t : Store} (h : Leads s t) (hs : P s) : P t := by
  induction h with
  | refl => exact hs
  | tail _ hw ih => exact hP ih hw

/-- Stores a new subscription after the looks that come before it were cast at a store that may be
an earlier one. -/
def addSubscriptionSeeing (seen s : Store) (v : Subscription) : Except Failure Store := do
  seen.accounts.naming ["id"]
  if seen.accounts.hasKey [.text v.account] then
    if v.isActive then
      match ← seen.activeSubscription v.account v.service with
      | some _ => .error (.alreadySubscribed v.account v.service)
      | none => s.insertSubscription v
    else s.insertSubscription v
  else .error (.accountNotFound v.account)

theorem addSubscriptionSeeing_self (s : Store) (v : Subscription) :
    addSubscriptionSeeing s s v = s.addSubscription v := rfl

theorem addSubscriptionSeeing_ok {seen s t : Store} {v : Subscription}
    (h : addSubscriptionSeeing seen s v = .ok t) : s.insertSubscription v = .ok t := by
  obtain ⟨_, _, h⟩ := bind_eq_ok.1 h
  split at h
  · split at h
    · obtain ⟨found, _, h⟩ := bind_eq_ok.1 h
      cases found with
      | some v => exact absurd h (by simp)
      | none => exact h
    · exact h
  · exact absurd h (by simp)

end Store

/-- What can happen to a store. -/
inductive Step where
  /-- A call; one that fails changes nothing. -/
  | call (w : Write)
  /-- A new subscription, looked into when the store was `seen` and stored now. -/
  | lateAdd (seen : Store) (v : Subscription)
  /-- A request. -/
  | request (ctx : Context) (r : Http.Request)

namespace Store

/-- The store that a fallible change leaves. -/
def orKept (s : Store) : Except Failure Store → Store
  | .ok t => t
  | .error _ => s

/-- The store after a step. -/
def next (s : Store) : Step → Store
  | .call w => s.orKept (s.write w)
  | .lateAdd seen v => s.orKept (addSubscriptionSeeing seen s v)
  | .request ctx r => (Http.respond ctx s r).store

/-- The store after some steps. -/
def run (s : Store) (steps : List Step) : Store := steps.foldl next s

end Store

namespace Http

open Store

variable {ctx : Context} {s : Store} {caller : Caller}

/-- **What a request changes, it changes by calls of the store.** -/
theorem Effect.leads {op : Operation} {reply : Reply} (h : Effect ctx s caller op reply) :
    Leads s reply.store := by
  cases h with
  | looked | refused => exact .refl s
  | accountMade _ _ ht hu =>
    exact .tail (w := .addMember _) (.single (.createAccount _) ht) hu
  | ownerMissing _ _ ht _ => exact .single (.createAccount _) ht
  | memberAdded _ _ _ ht => exact .single (.addMember _) ht
  | planMade _ _ _ _ ht => exact .single (.createPlan _) ht
  | subscribed _ _ ht => exact .single (.addSubscription _) ht
  | unsubscribed _ ht _ => exact .single (.updateSubscription _) ht
  | unsubscribedQuietly _ ht _ => exact .single (.updateSubscription _) ht
  | commandMade _ _ _ _ _ _ _ ht => exact .single (.createCommand _) ht
  | commandChanged _ ht => exact .single (.updateCommand _) ht
  | commandRemoved _ _ _ ht => exact .single (.removeCommand _) ht
  | workspaceMemberAdded _ _ _ ht => exact .single (.addWorkspaceMember _) ht

theorem respond_leads (ctx : Context) (s : Store) (r : Request) :
    Leads s (respond ctx s r).store := by
  cases hd : r.demand with
  | error response =>
    rw [respond_of_no_demand hd]
    exact .refl s
  | ok d =>
    rw [respond_of_demand hd, Demand.reply_store]
    exact (perform_effect d.operation).leads

end Http

namespace Store

/-- **What calls keep, runs keep.** A late insertion is no call, so it is asked for beside them. -/
theorem run_keeps {P : Store → Prop} (hcall : ∀ {s t w}, P s → s.write w = .ok t → P t)
    (hinsert : ∀ {s t v}, P s → s.insertSubscription v = .ok t → P t) {s : Store} (hs : P s)
    (steps : List Step) : P (s.run steps) := by
  induction steps generalizing s with
  | nil => exact hs
  | cons step rest ih =>
    refine ih (s := s.next step) ?_
    cases step with
    | call w =>
      cases hw : s.write w with
      | error f => simpa [next, orKept, hw] using hs
      | ok t => simpa [next, orKept, hw] using hcall hs hw
    | lateAdd seen v =>
      cases hv : addSubscriptionSeeing seen s v with
      | error f => simpa [next, orKept, hv] using hs
      | ok t => simpa [next, orKept, hv] using hinsert hs (addSubscriptionSeeing_ok hv)
    | request ctx r =>
      -- a request is a chain of calls that succeed
      exact (Http.respond_leads ctx s r).keeps hcall hs

theorem written_run {s : Store} (hs : Written s) (steps : List Step) : Written (s.run steps) :=
  run_keeps written_write written_insertSubscription hs steps

end Store

/-- A subscription of an account to a service, with nothing else to it. -/
def Subscription.bare (id account service : String) (state : SubscriptionState) : Subscription :=
  ⟨id, account, service, "", Dict.empty, state, "", false, SubscriptionDates.none, 0, .autoRenew, 0⟩

end CloudIde
