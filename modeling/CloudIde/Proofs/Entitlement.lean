import CloudIde.Proofs.Isolation
import CloudIde.Proofs.Paths
import CloudIde.Proofs.Refusals
import CloudIde.Proofs.ServiceCalls

/-!
# Who may see and remove a subscription

The two requests that name a subscription by its id ask for the same: that the caller is privileged
or that a stored membership in the account gives one of some roles (`Entitled`). For a subscription
that is there, this alone decides what they are answered; to be removed, the subscription has to be
active as well. The roles that the caller holds everywhere do not count.
-/

namespace CloudIde

open Store

namespace Subscription

variable (v : Subscription) (base : String) {caller : Caller}

/-- Days do not change when the seconds lose what follows them. -/
theorem descriptor_floorDates (there : RoleSet) :
    v.floorDates.descriptor base caller there = v.descriptor base caller there := by
  have hdate (date : Option Instant) :
      (date.map Instant.floorSecond).map Instant.dateText = date.map Instant.dateText := by
    cases date <;> rfl
  simp only [descriptor, floorDates, SubscriptionDates.map, hdate]
  rfl

/-- Privileged callers are shown the same whatever their roles are. -/
theorem descriptor_privileged (hpriv : caller.isPrivileged = true) (there there' : RoleSet) :
    v.descriptor base caller there = v.descriptor base caller there' := by
  have hoffers (there : RoleSet) : v.offersRemoval caller there = v.isActive := by
    simp [offersRemoval, hpriv]
  simp only [descriptor, links, hoffers]

end Subscription

namespace Platform

variable {ctx : Context} {s : Store} {caller : Caller} {v : Subscription} {account : String}

/-- The caller is privileged, or has one of the needed roles in the account. -/
def Entitled (s : Store) (caller : Caller) (account : String) (needed : List String) : Prop :=
  caller.isPrivileged = true ∨ ∃ role ∈ needed, s.Gives account caller.user role

theorem rolesFor_entitled (hs : Written s) {account : String} {needed : List String}
    (h : Entitled s caller account needed) :
    ∃ there, rolesFor s caller account needed = .ok there := by
  unfold rolesFor
  split
  · exact ⟨_, rfl⟩
  · next hpriv =>
    obtain ⟨role, hrole, hgives⟩ := h.resolve_left hpriv
    obtain ⟨there, hthere⟩ := hs.accountRoles_ok account caller.user
    have hany : (needed.any fun role => role ∈ there) = true :=
      List.any_eq_true.2 ⟨role, hrole, by simpa using hs.accountRoles_gives hgives hthere⟩
    rw [hthere, ok_bind, if_pos hany]
    exact ⟨there, rfl⟩

theorem rolesFor_denied (hs : Written s) {account : String} {needed : List String}
    (h : ¬ Entitled s caller account needed) :
    rolesFor s caller account needed = .error .accessDenied := by
  cases hroles : rolesFor s caller account needed with
  | error f => exact congrArg Except.error (Http.rolesFor_fails hs account needed f hroles)
  | ok there =>
    refine absurd ?_ h
    rcases rolesFor_ok hroles with ⟨hpriv, -⟩ | ⟨hthere, role, hrole, hmem⟩
    · exact Or.inl hpriv
    · exact Or.inr ⟨role, hrole, accountRoles_mem hthere hmem⟩

/-- Whether a subscription that is there may be removed. -/
theorem removable_eq (hs : Written s) (hv : .ofSubscription v ∈ s.subscriptions.rows)
    (hplatform : caller.require Role.platform = .ok ()) :
    removable s caller v.id = (rolesFor s caller v.account [Role.accountOwner] >>= fun _ =>
      if v.isActive then .ok v.floorDates else .error (.alreadyInactive v.id)) := by
  unfold removable
  rw [hplatform, hs.subscription_found hv]
  rfl

/-- A subscription that is there is shown by its id, whichever way the roles were found. -/
theorem subscription_view (hs : Written s) (hv : .ofSubscription v ∈ s.subscriptions.rows)
    (hplatform : caller.require Role.platform = .ok ())
    (hentitled : Entitled s caller v.account [Role.accountOwner, Role.accountMember])
    {there : RoleSet}
    (hthere : caller.isPrivileged = true ∨ s.accountRoles v.account caller.user = .ok there) :
    Platform.subscription ctx s caller v.id = .ok (v.descriptor ctx.baseUrl caller there) := by
  obtain ⟨found, hfound⟩ := rolesFor_entitled hs hentitled
  have hroles : rolesFor s caller v.floorDates.account [Role.accountOwner, Role.accountMember]
      = .ok found := hfound
  unfold Platform.subscription
  rw [hplatform, hs.subscription_found hv, ok_bind, ok_bind, hroles, ok_bind,
    v.descriptor_floorDates]
  rcases hthere with hpriv | hthere
  · rw [v.descriptor_privileged ctx.baseUrl hpriv found there]
  · rcases rolesFor_ok hfound with ⟨hpriv, -⟩ | ⟨hsame, -⟩
    · rw [v.descriptor_privileged ctx.baseUrl hpriv found there]
    · rw [Except.ok.inj (hsame.symm.trans hthere)]

/-- Who may see the subscriptions of an account may list them. -/
theorem Entitled.reads (hs : Written s) {there : RoleSet}
    (h : Entitled s caller account [Role.accountOwner, Role.accountMember])
    (hthere : s.accountRoles account caller.user = .ok there) :
    caller.requireScoped there readers = .ok () := by
  rw [Caller.requireScoped_iff]
  rcases h with hpriv | ⟨role, hrole, hgives⟩
  · rcases Bool.or_eq_true_iff.1 hpriv with hadmin | hmanager
    · exact ⟨Role.systemAdmin, by decide, by simp [hadmin]⟩
    · exact ⟨Role.systemManager, by decide, by simp [hmanager]⟩
  · have hmem : role ∈ there := hs.accountRoles_gives hgives hthere
    refine ⟨role, ?_, by simp [hmem]⟩
    rcases List.mem_cons.1 hrole with rfl | hrole
    · decide
    · rw [List.mem_singleton.1 hrole]
      decide

end Platform

namespace Http

open Platform

variable {ctx : Context} {s : Store} {caller : Caller} {v : Subscription} {r : Request}

/-- Default services take part in everything without a failure. -/
theorem unsubscribe_succeeds (hplain : AllPlain ctx.registry) (hs : Written s)
    (hv : .ofSubscription v ∈ s.subscriptions.rows)
    (hplatform : caller.require Role.platform = .ok ())
    (hentitled : Entitled s caller v.account [Role.accountOwner]) (hactive : v.isActive = true) :
    (unsubscribe ctx s caller v.id).answer = .ok () := by
  obtain ⟨there, hroles⟩ := rolesFor_entitled hs hentitled
  have hremovable : removable s caller v.id = .ok v.floorDates := by
    rw [removable_eq hs hv hplatform, hroles, ok_bind, if_pos hactive]
  have hkey : s.subscriptions.hasKey [.text v.id] = true := Table.hasKey_iff.2 ⟨_, hv, rfl⟩
  obtain ⟨w, hw, haccount⟩ := hs.subscription _ hv
  have hsame : v.account = w.account := Cell.text.inj (congrArg SubscriptionRow.account hw)
  rw [← hsame] at haccount
  obtain ⟨t, ht⟩ := hs.updateSubscription_inactive (v := v.floorDates.inactive) rfl hkey haccount
  unfold unsubscribe
  rw [hremovable]
  simp only
  rw [show s.updateSubscription { v.floorDates with state := .inactive } = .ok t from ht]
  simp only
  split
  · next service hservice =>
    rw [hplain service (Registry.get?_mem hservice).1]
    rfl
  · rfl

theorem unsubscribe_denied (hs : Written s) (hv : .ofSubscription v ∈ s.subscriptions.rows)
    (hplatform : caller.require Role.platform = .ok ())
    (h : ¬ (Entitled s caller v.account [Role.accountOwner] ∧ v.isActive = true)) :
    ∃ f, (unsubscribe ctx s caller v.id).answer = .error f ∧ f.status = 403 := by
  have hrefused : ∃ f, removable s caller v.id = .error f ∧ f.status = 403 := by
    rw [removable_eq hs hv hplatform]
    by_cases hentitled : Entitled s caller v.account [Role.accountOwner]
    · obtain ⟨there, hroles⟩ := rolesFor_entitled hs hentitled
      rw [hroles, ok_bind, if_neg fun hactive => h ⟨hentitled, hactive⟩]
      exact ⟨_, rfl, rfl⟩
    · rw [rolesFor_denied hs hentitled, error_bind]
      exact ⟨_, rfl, rfl⟩
  obtain ⟨f, hf, hstatus⟩ := hrefused
  unfold unsubscribe
  rw [hf]
  exact ⟨f, rfl, hstatus⟩

theorem subscription_denied (hs : Written s) (hv : .ofSubscription v ∈ s.subscriptions.rows)
    (hplatform : caller.require Role.platform = .ok ())
    (h : ¬ Entitled s caller v.account [Role.accountOwner, Role.accountMember]) :
    Platform.subscription ctx s caller v.id = .error .accessDenied := by
  have hroles : rolesFor s caller v.floorDates.account [Role.accountOwner, Role.accountMember]
      = .error .accessDenied := rolesFor_denied hs h
  unfold Platform.subscription
  rw [hplatform, hs.subscription_found hv, ok_bind, ok_bind, hroles]
  rfl

/-! ## The requests -/

/-- Where a subscription is. -/
def subscriptionPath (id : String) : String := "/api/account/subscriptions/" ++ id

/-- A tame id is one that can stand in a path. -/
def TameId (id : String) : Prop := id.toList.all isTame = true ∧ id.toList ≠ []

/-- The ids that are made are tame. -/
theorem tameId_ofDigits {kind : String} (htame : kind.toList.all isTame = true)
    (hkind : kind.toList ≠ []) (digits : HexDigits) :
    TameId (Identifier.ofDigits kind Identifier.size digits) := by
  refine ⟨tame_ofDigits htame digits, ?_⟩
  unfold Identifier.ofDigits
  rw [String.toList_append]
  exact List.append_ne_nil_of_left_ne_nil hkind _

theorem respond_removing (hid : TameId v.id) (hmethod : r.method = "DELETE")
    (hpath : r.path = subscriptionPath v.id) (hcaller : Caller.ofHeaders r.headers = .ok caller) :
    respond ctx s r = .removed (unsubscribe ctx s caller v.id) := by
  have hresource : Resource.ofPath? r.path = some (.subscription v.id) := by
    rw [hpath]
    exact path_tame hid.1 hid.2
  have hdelete : r.method = Method.delete.text := hmethod
  have hwanted : r.wanted (.subscription v.id) .delete = .ok (.unsubscribe v.id) := by
    rw [Request.wanted, parameter_tame hid.1]
    rfl
  exact respond_asked hresource hdelete (by simp [Resource.methods]) (by simp) hcaller hwanted

theorem respond_showing (hid : TameId v.id) (hmethod : r.method = "GET")
    (hpath : r.path = subscriptionPath v.id) (hcaller : Caller.ofHeaders r.headers = .ok caller) :
    respond ctx s r = .shown s .subscription (Platform.subscription ctx s caller v.id) := by
  have hresource : Resource.ofPath? r.path = some (.subscription v.id) := by
    rw [hpath]
    exact path_tame hid.1 hid.2
  have hget : r.method = Method.get.text := hmethod
  have hwanted : r.wanted (.subscription v.id) .get = .ok (.showSubscription v.id) := by
    show (Request.parameter "subscription_id" v.id >>= fun id =>
      Except.ok (Operation.showSubscription id)) = _
    rw [parameter_tame hid.1]
    rfl
  exact respond_asked hresource hget (by simp [Resource.methods]) (by simp) hcaller hwanted

/-- **A subscription is removed for those who are entitled**, while it is active. -/
theorem respond_removing_status (hplain : AllPlain ctx.registry) (hs : Written s)
    (hv : .ofSubscription v ∈ s.subscriptions.rows) (hid : TameId v.id)
    (hplatform : caller.require Role.platform = .ok ()) (hmethod : r.method = "DELETE")
    (hpath : r.path = subscriptionPath v.id) (hcaller : Caller.ofHeaders r.headers = .ok caller) :
    (Entitled s caller v.account [Role.accountOwner] ∧ v.isActive = true →
        (respond ctx s r).response.status = 204) ∧
      (¬ (Entitled s caller v.account [Role.accountOwner] ∧ v.isActive = true) →
        (respond ctx s r).response.status = 403) := by
  rw [respond_removing hid hmethod hpath hcaller]
  refine ⟨fun ⟨hentitled, hactive⟩ => ?_, fun hnot => ?_⟩
  · unfold Reply.removed Reply.ofOutcome
    rw [unsubscribe_succeeds hplain hs hv hplatform hentitled hactive]
  · obtain ⟨f, hf, hstatus⟩ := unsubscribe_denied hs hv hplatform hnot
    unfold Reply.removed Reply.ofOutcome
    rw [hf]
    exact hstatus

/-- **A subscription is shown to those who are entitled.** -/
theorem respond_showing_status (hs : Written s)
    (hv : .ofSubscription v ∈ s.subscriptions.rows) (hid : TameId v.id)
    (hplatform : caller.require Role.platform = .ok ()) (hmethod : r.method = "GET")
    (hpath : r.path = subscriptionPath v.id) (hcaller : Caller.ofHeaders r.headers = .ok caller) :
    (Entitled s caller v.account [Role.accountOwner, Role.accountMember] →
        (respond ctx s r).response.status = 200) ∧
      (¬ Entitled s caller v.account [Role.accountOwner, Role.accountMember] →
        (respond ctx s r).response.status = 403) := by
  rw [respond_showing hid hmethod hpath hcaller]
  refine ⟨fun hentitled => ?_, fun hnot => ?_⟩
  · obtain ⟨there, hthere⟩ := hs.accountRoles_ok v.account caller.user
    rw [subscription_view hs hv hplatform hentitled (Or.inr hthere)]
    rfl
  · rw [subscription_denied hs hv hplatform hnot]
    rfl

end Http

end CloudIde
