import Mathlib.Data.List.Forall2
import CloudIde.Platform.Accounts
import CloudIde.Platform.Plans
import CloudIde.Platform.Reports
import CloudIde.Platform.Workspaces
import CloudIde.Proofs.Effect

/-!
# What comes of operations with more roles

A user sends the same request twice, the second time with more global roles. Every operation that
succeeds the first time succeeds the second time, makes the same of the store, and answers with at
least as much: descriptors may show more properties and more links (`Outcome.Covers`).

Most operations only ask whether a role is there. The operations on subscriptions take another way
for privileged callers: these need no role in the account, and need not take a plan as it is
offered. An order that takes it as it is offered makes the same subscription of it in either way.
-/

namespace CloudIde

/-! ## Callers -/

/-- The same user with at least the same global roles. -/
structure Caller.Within (c c' : Caller) : Prop where
  user : c'.user = c.user
  roles : ∀ role ∈ c.roles.names, role ∈ c'.roles.names

namespace Caller.Within

variable {c c' : Caller} (h : c.Within c')
include h

theorem hasRole {role : String} (hrole : c.hasRole role = true) : c'.hasRole role = true := by
  have hmem : role ∈ c.roles.names := of_decide_eq_true hrole
  exact decide_eq_true (h.roles role hmem)

theorem isPrivileged (hpriv : c.isPrivileged = true) : c'.isPrivileged = true := by
  rcases Bool.or_eq_true_iff.1 hpriv with hadmin | hmanager
  · exact Bool.or_eq_true_iff.2 (Or.inl (h.hasRole hadmin))
  · exact Bool.or_eq_true_iff.2 (Or.inr (h.hasRole hmanager))

theorem requireScoped (there : RoleSet) (allowed : List String) :
    Covers Eq (c.requireScoped there allowed) (c'.requireScoped there allowed) := by
  intro _ hok
  obtain ⟨role, hmem, hheld⟩ := requireScoped_iff.1 hok
  exact ⟨(), requireScoped_iff.2 ⟨role, hmem, hheld.imp_left h.hasRole⟩, rfl⟩

theorem require (allowed : List String) : Covers Eq (c.require allowed) (c'.require allowed) :=
  h.requireScoped RoleSet.empty allowed

end Caller.Within

/-! ## Descriptors -/

/-- A descriptor of the same subscription with at least the same properties and links. -/
structure SubscriptionDescriptor.Within (d e : SubscriptionDescriptor) : Prop where
  rest : e = { d with properties := e.properties, links := e.links }
  properties : ∀ property ∈ d.properties.entries, property ∈ e.properties.entries
  links : ∀ link ∈ d.links, link ∈ e.links

/-- A descriptor of the same command with at least the same links. -/
structure CommandDescriptor.Within (d e : CommandDescriptor) : Prop where
  command : e.command = d.command
  links : ∀ link ∈ d.links, link ∈ e.links

section

variable {c c' : Caller} (h : c.Within c')
include h

/-- A privileged caller is shown everything, and another one of more roles has the same roles in the
account. -/
theorem Subscription.descriptor_within (v : Subscription) (baseUrl : String)
    {there there' : RoleSet} (hthere : there' = there ∨ c'.isPrivileged = true) :
    (v.descriptor baseUrl c there).Within (v.descriptor baseUrl c' there') where
  rest := rfl
  properties := by
    intro property hproperty
    obtain ⟨hmem, hshown⟩ := List.mem_filter.1 hproperty
    refine List.mem_filter.2 ⟨hmem, ?_⟩
    rcases Bool.or_eq_true_iff.1 hshown with hpublic | hpriv
    · exact Bool.or_eq_true_iff.2 (Or.inl hpublic)
    · exact Bool.or_eq_true_iff.2 (Or.inr (h.isPrivileged hpriv))
  links := by
    have hoffers (hoffered : v.offersRemoval c there = true) :
        v.offersRemoval c' there' = true := by
      simp only [offersRemoval, Bool.and_eq_true, Bool.or_eq_true] at hoffered ⊢
      refine ⟨hoffered.1, ?_⟩
      rcases hthere with rfl | hpriv
      · rcases hoffered.2 with (howner | hglobal) | hpriv
        · exact Or.inl (Or.inl howner)
        · exact Or.inl (Or.inr (h.hasRole hglobal))
        · exact Or.inr (h.isPrivileged hpriv)
      · exact Or.inr hpriv
    intro link hlink
    simp only [descriptor, Subscription.links] at hlink ⊢
    split
    · next hplan => simp [hplan] at hlink
    · next hplan =>
      rw [if_neg hplan] at hlink
      rcases List.mem_cons.1 hlink with rfl | hlink
      · exact List.mem_cons_self
      · split at hlink
        · next hoffered =>
          rw [if_pos (hoffers hoffered)]
          exact List.mem_cons_of_mem _ hlink
        · exact absurd hlink List.not_mem_nil

theorem Command.descriptor_within (command : Command) (baseUrl : String) :
    (command.descriptor baseUrl c).Within (command.descriptor baseUrl c') where
  command := rfl
  links := by
    have hmay (hmay : command.mayRemove c = true) : command.mayRemove c' = true := by
      simp only [mayRemove, Bool.or_eq_true, h.user] at hmay ⊢
      exact hmay.imp_right h.isPrivileged
    intro link hlink
    simp only [descriptor, Command.links] at hlink ⊢
    rcases List.mem_cons.1 hlink with rfl | hlink
    · exact List.mem_cons_self
    · split at hlink
      · next hmay' =>
        rw [if_pos (hmay hmay')]
        exact List.mem_cons_of_mem _ hlink
      · exact absurd hlink List.not_mem_nil

end

/-! ## Outcomes -/

/-- When one operation succeeds, another succeeds with something related, and makes the same of the
store with the same calls of services. -/
def Outcome.Covers {α : Type} (R : α → α → Prop) (o o' : Outcome α) : Prop :=
  ∀ a, o.answer = .ok a → ∃ b, o'.answer = .ok b ∧ R a b ∧ o'.store = o.store ∧ o'.calls = o.calls

namespace Outcome.Covers

variable {α : Type} {R : α → α → Prop} {s : Store} {o : Outcome α}

theorem refl (hR : ∀ a, R a a) (o : Outcome α) : Outcome.Covers R o o :=
  fun a h => ⟨a, h, hR a, rfl, rfl⟩

theorem failed (f : Failure) (t : Store) (calls : List ServiceCall) :
    Outcome.Covers R ⟨.error f, t, calls⟩ o := by
  intro a h
  exact absurd h (by simp)

theorem reading {x y : Except Failure α} (h : CloudIde.Covers R x y) :
    Outcome.Covers R (.reading s x) (.reading s y) := by
  intro a ha
  obtain ⟨b, hb, hab⟩ := h a ha
  exact ⟨b, hb, hab, rfl, rfl⟩

/-- Operations with one write at their end. -/
theorem writing {m n : Except Failure (Store × α)}
    (h : CloudIde.Covers (fun a b => b.1 = a.1 ∧ R a.2 b.2) m n) :
    Outcome.Covers R (.writing s m) (.writing s n) := by
  cases hm : m with
  | error f => exact .failed f s []
  | ok a =>
    obtain ⟨b, hb, hstore, hab⟩ := h a hm
    rw [hb]
    intro a' ha'
    cases ha'
    exact ⟨b.2, rfl, hab, hstore, rfl⟩

end Outcome.Covers

namespace Platform

variable {ctx : Context} {s : Store} {c c' : Caller} (h : c.Within c')
include h

/-! ## Accounts and plans -/

theorem account_covers (id : String) : Covers Eq (account s c id) (account s c' id) := by
  unfold account
  rw [h.user]
  refine bind_covers fun there _ => ?_
  exact (h.requireScoped there _).bind fun _ _ _ => .refl (fun _ => rfl) _

theorem members_covers (id : String) : Covers Eq (members s c id) (members s c' id) := by
  unfold members
  rw [h.user]
  refine bind_covers fun there _ => ?_
  exact (h.requireScoped there _).bind fun _ _ _ => .refl (fun _ => rfl) _

theorem plans_covers : Covers Eq (plans s c) (plans s c') :=
  (h.require _).bind fun _ _ _ => .refl (fun _ => rfl) _

theorem plan_covers (id : String) : Covers Eq (plan s c id) (plan s c' id) :=
  (h.require _).bind fun _ _ _ => .refl (fun _ => rfl) _

theorem createAccount_covers (new : NewAccount) :
    Outcome.Covers Eq (createAccount ctx s c new) (createAccount ctx s c' new) := by
  unfold createAccount
  rw [h.user]
  cases hrole : c.require Role.platform with
  | error f => exact .failed f s []
  | ok _ =>
    obtain ⟨_, hrole', -⟩ := h.require Role.platform () hrole
    rw [hrole']
    exact .refl (fun _ => rfl) _

theorem addMember_covers (id : String) (new : NewMember) :
    Outcome.Covers Eq (addMember s c id new) (addMember s c' id new) := by
  unfold addMember
  rw [h.user]
  refine .writing (bind_covers fun there _ => ?_)
  exact (h.requireScoped there _).bind fun _ _ _ => .refl (fun _ => ⟨rfl, rfl⟩) _

theorem createPlan_covers (p : Plan) :
    Outcome.Covers Eq (createPlan ctx s c p) (createPlan ctx s c' p) :=
  .writing ((h.require _).bind fun _ _ _ => .refl (fun _ => ⟨rfl, rfl⟩) _)

/-! ## Subscriptions -/

/-- A privileged caller gets no roles in the account, and needs none. -/
theorem rolesFor_covers (id : String) (needed : List String) :
    Covers (fun there there' => there' = there ∨ c'.isPrivileged = true)
      (rolesFor s c id needed) (rolesFor s c' id needed) := by
  unfold rolesFor
  by_cases hpriv' : c'.isPrivileged = true
  · rw [if_pos hpriv']
    intro there _
    exact ⟨RoleSet.empty, rfl, Or.inr hpriv'⟩
  · rw [if_neg hpriv', if_neg (fun hpriv => hpriv' (h.isPrivileged hpriv)), h.user]
    refine .refl ?_ _
    exact fun _ => Or.inl rfl

/-- Terms that are met need not be asked for. -/
theorem checkTerms_covers {α : Type} {R : α → α → Prop} (order : Order) (plan : Plan)
    {f g : Unit → Except Failure α} (hfg : Covers R (f ()) (g ())) :
    Covers R (if c.isPrivileged then f () else order.checkTerms plan >>= f)
      (if c'.isPrivileged then g () else order.checkTerms plan >>= g) := by
  by_cases hpriv' : c'.isPrivileged = true
  · rw [if_pos hpriv']
    intro a ha
    refine hfg a ?_
    split at ha
    · exact ha
    · obtain ⟨_, -, ha⟩ := bind_eq_ok.1 ha
      exact ha
  · rw [if_neg hpriv', if_neg (fun hpriv => hpriv' (h.isPrivileged hpriv))]
    exact bind_covers fun _ _ => hfg

/-- The same subscription is proposed to the same service. -/
theorem propose_covers (body : Bytes) :
    Covers (fun p p' => p'.subscription = p.subscription ∧ p'.service = p.service
        ∧ (p'.roles = p.roles ∨ c'.isPrivileged = true))
      (propose ctx s c body) (propose ctx s c' body) := by
  refine (h.require _).bind fun _ _ _ => ?_
  refine bind_covers fun order _ => ?_
  refine (rolesFor_covers h _ _).bind fun there there' hthere => ?_
  split
  · exact .error _
  · refine bind_covers fun plan _ => ?_
    refine bind_covers fun service _ => ?_
    refine checkTerms_covers h order plan (bind_covers fun v _ => .ok ?_)
    exact ⟨rfl, rfl, hthere⟩

theorem subscribe_covers (body : Bytes) :
    Outcome.Covers SubscriptionDescriptor.Within (subscribe ctx s c body)
      (subscribe ctx s c' body) := by
  unfold subscribe
  cases hp : propose ctx s c body with
  | error f => exact .failed f s []
  | ok p =>
    obtain ⟨p', hp', hsubscription, hservice, hroles⟩ := propose_covers h body p hp
    rw [hp']
    simp only [hsubscription, hservice]
    cases p.service.before p.subscription with
    | error f => exact .failed f s _
    | ok v =>
      simp only
      cases s.addSubscription v with
      | error f => exact .failed f s _
      | ok t =>
        intro d hd
        obtain ⟨_, hafter, rfl⟩ := map_eq_ok.1 hd
        refine ⟨_, map_eq_ok.2 ⟨(), hafter, rfl⟩, ?_, rfl, rfl⟩
        exact Subscription.descriptor_within h v ctx.baseUrl hroles

theorem removable_covers (id : String) : Covers Eq (removable s c id) (removable s c' id) := by
  refine (h.require _).bind fun _ _ _ => ?_
  refine bind_covers fun v _ => ?_
  exact (rolesFor_covers h _ _).bind fun _ _ _ => .refl (fun _ => rfl) _

theorem unsubscribe_covers (id : String) :
    Outcome.Covers Eq (unsubscribe ctx s c id) (unsubscribe ctx s c' id) := by
  unfold unsubscribe
  cases hv : removable s c id with
  | error f => exact .failed f s []
  | ok v =>
    obtain ⟨_, hv', rfl⟩ := removable_covers h id v hv
    rw [hv']
    exact .refl (fun _ => rfl) _

theorem subscription_covers (id : String) :
    Covers SubscriptionDescriptor.Within (subscription ctx s c id) (subscription ctx s c' id) := by
  refine (h.require _).bind fun _ _ _ => ?_
  refine bind_covers fun v _ => ?_
  refine (rolesFor_covers h _ _).bind fun there there' hthere => .ok ?_
  exact Subscription.descriptor_within h v ctx.baseUrl hthere

theorem activeSubscriptions_covers (id : String) (service : Option String) :
    Covers (List.Forall₂ SubscriptionDescriptor.Within)
      (activeSubscriptions ctx s c id service) (activeSubscriptions ctx s c' id service) := by
  unfold activeSubscriptions
  rw [h.user]
  refine bind_covers fun there _ => ?_
  refine (h.requireScoped there _).bind fun _ _ _ => ?_
  refine bind_covers fun _ _ => ?_
  have hall (found : List Subscription) : List.Forall₂ SubscriptionDescriptor.Within
      (found.map fun v => v.descriptor ctx.baseUrl c there)
      (found.map fun v => v.descriptor ctx.baseUrl c' there) := by
    rw [List.forall₂_map_left_iff, List.forall₂_map_right_iff, List.forall₂_same]
    exact fun v _ => Subscription.descriptor_within h v ctx.baseUrl (Or.inl rfl)
  simp only
  split
  · exact bind_covers fun found _ => .ok (hall found)
  · exact bind_covers fun found _ => .ok (hall found.toList)

theorem reporting_covers (id : String) (service : Option String) :
    Covers Eq (reporting ctx s c id service) (reporting ctx s c' id service) := by
  unfold reporting
  rw [h.user]
  refine bind_covers fun there _ => ?_
  exact (h.requireScoped there _).bind fun _ _ _ => .refl (fun _ => rfl) _

theorem usages_covers (id : String) (service : Option String) :
    Outcome.Covers Eq (usages ctx s c id service) (usages ctx s c' id service) := by
  unfold usages
  cases hservices : reporting ctx s c id service with
  | error f => exact .failed f s []
  | ok services =>
    obtain ⟨_, hservices', rfl⟩ := reporting_covers h id service services hservices
    rw [hservices']
    exact .refl (fun _ => rfl) _

/-! ## Workspaces -/

theorem workspaceMembers_covers (workspace : String) :
    Covers Eq (workspaceMembers s c workspace) (workspaceMembers s c' workspace) := by
  unfold workspaceMembers
  rw [h.user]
  refine bind_covers fun there _ => ?_
  exact (h.requireScoped there _).bind fun _ _ _ => .refl (fun _ => rfl) _

theorem addWorkspaceMember_covers (workspace : String) (new : NewWorkspaceMember) :
    Outcome.Covers Eq (addWorkspaceMember s c workspace new)
      (addWorkspaceMember s c' workspace new) := by
  unfold addWorkspaceMember
  rw [h.user]
  refine .writing (bind_covers fun there _ => ?_)
  exact (h.requireScoped there _).bind fun _ _ _ => .refl (fun _ => ⟨rfl, rfl⟩) _

theorem createCommand_covers (workspace : String) (body : Bytes) :
    Outcome.Covers CommandDescriptor.Within (createCommand ctx s c workspace body)
      (createCommand ctx s c' workspace body) := by
  unfold createCommand
  rw [h.user]
  refine .writing (bind_covers fun there _ => ?_)
  refine (h.requireScoped there _).bind fun _ _ _ => ?_
  refine bind_covers fun _ _ => ?_
  refine bind_covers fun _ _ => ?_
  refine bind_covers fun _ _ => ?_
  refine bind_covers fun _ _ => ?_
  refine bind_covers fun t _ => .ok ⟨rfl, ?_⟩
  exact Command.descriptor_within h _ ctx.baseUrl

theorem command_covers (id : String) :
    Covers CommandDescriptor.Within (command ctx s c id) (command ctx s c' id) := by
  refine (h.require _).bind fun _ _ _ => ?_
  refine bind_covers fun found _ => ?_
  rw [h.user]
  split
  · exact .ok (Command.descriptor_within h found ctx.baseUrl)
  · exact .error _

theorem commands_covers (workspace : String) :
    Covers (List.Forall₂ CommandDescriptor.Within) (commands ctx s c workspace)
      (commands ctx s c' workspace) := by
  unfold commands
  rw [h.user]
  refine bind_covers fun list _ => .ok ?_
  rw [List.forall₂_map_left_iff, List.forall₂_map_right_iff, List.forall₂_same]
  intro found _
  exact Command.descriptor_within h found ctx.baseUrl

theorem changing_covers (body : Bytes) :
    Covers Eq (changing s c body) (changing s c' body) := by
  unfold changing
  rw [h.user]
  exact (h.require _).bind fun _ _ _ => .refl (fun _ => rfl) _

theorem updateCommand_covers (body : Bytes) :
    Outcome.Covers CommandDescriptor.Within (updateCommand ctx s c body)
      (updateCommand ctx s c' body) := by
  unfold updateCommand
  cases hchanging : changing s c body with
  | error f => exact .failed f s []
  | ok found =>
    obtain ⟨_, hchanging', rfl⟩ := changing_covers h body found hchanging
    rw [hchanging']
    simp only
    cases s.updateCommand found.1 with
    | error f => exact .failed f s []
    | ok t =>
      refine .reading (bind_covers fun updated _ => .ok ?_)
      exact Command.descriptor_within h updated ctx.baseUrl

theorem removeCommand_covers (id : String) :
    Outcome.Covers Eq (removeCommand s c id) (removeCommand s c' id) := by
  refine .writing ((h.require _).bind fun _ _ _ => ?_)
  refine bind_covers fun found _ => ?_
  split
  · next hmay =>
    have hmay' : found.mayRemove c' = true := by
      simp only [Command.mayRemove, Bool.or_eq_true, h.user] at hmay ⊢
      exact hmay.imp_right h.isPrivileged
    rw [if_pos hmay']
    exact .refl (fun _ => ⟨rfl, rfl⟩) _
  · exact .error _

end Platform

end CloudIde
