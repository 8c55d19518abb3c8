import CloudIde.Proofs.CallHistory
import CloudIde.Proofs.Isolation
import CloudIde.Proofs.Unseen

/-!
# Internal properties of subscriptions

Subscriptions can have internal properties, which are shown to privileged callers only. Here it is
shown that they do not show otherwise either. Let two stores hold the same but for the internal
properties of subscriptions, in which they may differ at will. Whatever callers who are not
privileged ask for, in any order, they get the same responses from both stores, and the stores at
the end differ in nothing else again (`internal_hidden`).

A subscription is written into its row as a text and read from it, and what is taken from the
properties is taken when the subscription is shown. So the subscriptions that are read have to be
compared without their internal properties (`Subscription.outward`), and their rows as rows of such
subscriptions.
-/

namespace CloudIde

namespace Subscription

/-- The subscription without its internal properties. -/
def outward (v : Subscription) : Subscription :=
  { v with properties := v.properties.filter fun property => !isInternal property.1 }

variable {v w : Subscription}

/-- What is the same without internal properties differs at most in properties. -/
theorem eq_of_outward (h : v.outward = w.outward) : w = { v with properties := w.properties } := by
  obtain ⟨_, _, _, _, _, _, _, _, _, _, _, _⟩ := v
  obtain ⟨_, _, _, _, _, _, _, _, _, _, _, _⟩ := w
  simp only [outward, mk.injEq] at h ⊢
  obtain ⟨rfl, rfl, rfl, rfl, -, rfl, rfl, rfl, rfl, rfl, rfl, rfl⟩ := h
  simp

theorem outward_properties (h : v.outward = w.outward) :
    (v.properties.filter fun property => !isInternal property.1)
      = w.properties.filter fun property => !isInternal property.1 :=
  congrArg Subscription.properties h

/-- Changing the state or the dates does not touch the properties. -/
theorem outward_state (h : v.outward = w.outward) (state : SubscriptionState) :
    outward { v with state } = outward { w with state } :=
  congrArg (fun u : Subscription => { u with state }) h

theorem outward_floorDates (h : v.outward = w.outward) :
    v.floorDates.outward = w.floorDates.outward :=
  congrArg Subscription.floorDates h

/-- A caller who is not privileged is shown the subscription without its internal properties. -/
theorem descriptor_outward {caller : Caller} (hc : caller.isPrivileged = false)
    (h : v.outward = w.outward) (baseUrl : String) (there : RoleSet) :
    v.descriptor baseUrl caller there = w.descriptor baseUrl caller there := by
  have hproperties := outward_properties h
  have hshown (u : Subscription) :
      u.shownProperties caller = u.properties.filter fun property => !isInternal property.1 := by
    simp only [shownProperties, hc, Bool.or_false]
  rw [eq_of_outward h]
  unfold descriptor
  rw [hshown, hshown, ← hproperties]
  rfl

end Subscription

namespace SubscriptionRow

/-- Rows of subscriptions that are the same without their internal properties. -/
def SameOutward (a b : SubscriptionRow) : Prop :=
  ∃ v w, a = .ofSubscription v ∧ b = .ofSubscription w ∧ v.outward = w.outward

theorem readAll_sameOutward {as bs : List SubscriptionRow} (h : List.Forall₂ SameOutward as bs) :
    ∃ vs ws, readAll read as = .ok vs ∧ readAll read bs = .ok ws ∧
      List.Forall₂ (fun v w => v.outward = w.outward) vs ws := by
  have hrows : ∃ vs ws, List.Forall₂ (fun a v => readOne read a = .ok v) as vs ∧
      List.Forall₂ (fun b w => readOne read b = .ok w) bs ws ∧
        List.Forall₂ (fun v w => v.outward = w.outward) vs ws := by
    induction h with
    | nil => exact ⟨[], [], .nil, .nil, .nil⟩
    | cons hab _ ih =>
      obtain ⟨v, w, rfl, rfl, hvw⟩ := hab
      obtain ⟨vs, ws, hvs, hws, hrest⟩ := ih
      exact ⟨v.floorDates :: vs, w.floorDates :: ws, .cons (readOne_ofSubscription v) hvs,
        .cons (readOne_ofSubscription w) hws, .cons (Subscription.outward_floorDates hvw) hrest⟩
  obtain ⟨vs, ws, hvs, hws, hrest⟩ := hrows
  exact ⟨vs, ws, readAll_of_forall₂ hvs, readAll_of_forall₂ hws, hrest⟩

theorem variants_sameOutward : Variants SameOutward fun v w => v.outward = w.outward where
  self v := ⟨v, v, rfl, rfl, rfl⟩
  row := by
    rintro _ _ ⟨v, w, rfl, rfl, h⟩
    refine ⟨.text (writeColumn w.properties), ?_⟩
    rw [Subscription.eq_of_outward h]
    rfl
  readOne := by
    rintro _ _ ⟨v, w, rfl, rfl, h⟩
    rw [readOne_ofSubscription, readOne_ofSubscription]
    exact .ok (Subscription.outward_floorDates h)
  readAll h := by
    obtain ⟨vs, ws, hvs, hws, hrest⟩ := readAll_sameOutward h
    rw [hvs, hws]
    exact .ok hrest
  read h := ⟨_, Subscription.eq_of_outward h⟩
  write h state := ⟨_, _, rfl, rfl, Subscription.outward_state h state⟩

end SubscriptionRow

namespace Http

open Store

variable {ctx : Context} {s t : Store} {caller : Caller}

/-- Services that do nothing say the same of all subscriptions. -/
theorem unseen_sameOutward (hplain : AllPlain ctx.registry) (hc : caller.isPrivileged = false) :
    Unseen ctx caller fun v w => v.outward = w.outward where
  shown h there := Subscription.descriptor_outward hc h ctx.baseUrl there
  removed _ service hservice := by
    rw [hplain service hservice]
    rfl
  usage _ service hservice := by
    rw [hplain service hservice]
    rfl

/-- A request by a caller who is not privileged, or by nobody. -/
def Request.FromUnprivileged (r : Request) : Prop :=
  ∀ caller, Caller.ofHeaders r.headers = .ok caller → caller.isPrivileged = false

/-- Two stores that are the same but for the internal properties of subscriptions. -/
abbrev SameOutward : Store → Store → Prop := RowByRow SubscriptionRow.SameOutward Eq

theorem perform_sameOutward (hplain : AllPlain ctx.registry) (hc : caller.isPrivileged = false)
    (h : SameOutward s t) (op : Operation) :
    Agree SameOutward (op.perform ctx s caller) (op.perform ctx t caller) := by
  have hrest {op : Operation} (hop : op.onCommands = false) :=
    perform_unseen SubscriptionRow.variants_sameOutward (unseen_sameOutward hplain hc) h hop
  cases op with
  | createCommand workspace body =>
    exact rowByRow_commands.createCommand h rowByRow_workspaces workspace body
  | showCommand id => exact rowByRow_commands.showCommand h id
  | updateCommand body => exact rowByRow_commands.updateCommand h body
  | removeCommand id => exact rowByRow_commands.removeCommand h id
  | listCommands workspace => exact rowByRow_commands.listCommands h workspace
  | _ => exact hrest rfl

theorem respond_sameOutward (hplain : AllPlain ctx.registry) {r : Request}
    (hr : r.FromUnprivileged) (h : SameOutward s t) :
    Agree SameOutward (respond ctx s r) (respond ctx t r) := by
  refine respond_agree h fun d hd => ?_
  obtain ⟨_, _, hasks⟩ := Request.demand_ok hd
  exact perform_sameOutward hplain (hr d.caller hasks.caller) h d.operation

/-- **Internal properties of subscriptions do not show to callers who are not privileged.** From two
stores that are the same but for them, the requests of such callers get the same responses, and
leave stores that are the same but for them. -/
theorem internal_hidden {h : History} (hplain : ∀ e ∈ h, AllPlain e.1.registry)
    (hfrom : ∀ e ∈ h, e.2.FromUnprivileged) {s t : Store} (hst : SameOutward s t) :
    h.responses s = h.responses t ∧ SameOutward (h.store s) (h.store t) :=
  History.agree (fun e he _ _ => respond_sameOutward (hplain e he) (hfrom e he)) hst

/-- A subscription to mail with an internal property. -/
def mailAt (tier : String) : Subscription :=
  { Subscription.bare "first" "acme" "mail" .active with
    properties := .ofList [("codenvy:tier", tier)] }

/-- The store of an account that has this subscription. -/
def settledAt (tier : String) : Store :=
  { settled with
    subscriptions := ⟨.made, [.ofSubscription (mailAt tier)], fun _ => List.pairwise_singleton ..⟩ }

theorem settledAt_sameOutward : SameOutward (settledAt "gold") (settledAt "silver") where
  accounts := rfl
  members := rfl
  plans := rfl
  subscriptions := ⟨rfl, .cons ⟨mailAt "gold", mailAt "silver", rfl, rfl, by decide⟩ .nil⟩
  workspaceMembers := rfl
  commands := .of_same (fun _ => rfl) _
  others := rfl

/-- The owner, who is not privileged, looks at the subscription, gives it up and lists what is
left. -/
def ownersVisit : History :=
  [("GET", "/api/account/subscriptions/first"), ("DELETE", "/api/account/subscriptions/first"),
    ("GET", "/api/account/acme/subscriptions")].map fun (method, path) =>
      (mailOnly, { leaving with method, path })

/-- The owner does not see which tier it is. -/
theorem internal_hidden_settledAt :
    settledAt "gold" ≠ settledAt "silver" ∧
      (ownersVisit.responses (settledAt "gold")).map Response.status = [200, 204, 200] ∧
      ownersVisit.responses (settledAt "gold") = ownersVisit.responses (settledAt "silver") ∧
        SameOutward (ownersVisit.store (settledAt "gold"))
          (ownersVisit.store (settledAt "silver")) := by
  have hplain : ∀ e ∈ ownersVisit, AllPlain e.1.registry := by
    intro e he
    obtain ⟨_, -, rfl⟩ := List.mem_map.1 he
    intro service hservice
    rw [List.mem_singleton.1 hservice]
    rfl
  have hfrom : ∀ e ∈ ownersVisit, e.2.FromUnprivileged := by
    intro e he
    obtain ⟨_, -, rfl⟩ := List.mem_map.1 he
    intro caller hcaller
    obtain rfl : ⟨"ann", RoleSet.ofList [Role.user]⟩ = caller := Except.ok.inj hcaller
    decide
  refine ⟨by decide +kernel, by decide +kernel, ?_⟩
  exact internal_hidden hplain hfrom settledAt_sameOutward

end Http

end CloudIde
