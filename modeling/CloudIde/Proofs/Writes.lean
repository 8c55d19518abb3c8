import CloudIde.Proofs.Fallible
import CloudIde.Proofs.Table
import CloudIde.Store.Commands
import CloudIde.Store.Plans
import CloudIde.Store.Subscriptions
import CloudIde.Store.Workspaces

/-!
# What a write to the store can do

`Write` names the ten calls that change the store. For each there is one lemma, `createAccount_ok`
and its like, that says everything a successful call has done: which table it wrote, which row it
put there, and what it found to be so before. Nothing that follows opens a call again.

A call that fails gives no store at all, so there is nothing to say about it.
-/

namespace CloudIde

/-- A call that writes. -/
inductive Write where
  | createAccount (a : Account)
  | addMember (m : Member)
  | createPlan (p : Plan)
  | addSubscription (v : Subscription)
  | updateSubscription (v : Subscription)
  | removeSubscription (id : String)
  | createCommand (c : Command)
  | updateCommand (u : CommandUpdate)
  | removeCommand (id : String)
  | addWorkspaceMember (m : WorkspaceMember)

namespace Store

/-- What a call makes of the store. -/
def write (s : Store) : Write → Except Failure Store
  | .createAccount a => s.createAccount a
  | .addMember m => s.addMember m
  | .createPlan p => s.createPlan p
  | .addSubscription v => s.addSubscription v
  | .updateSubscription v => s.updateSubscription v
  | .removeSubscription id => s.removeSubscription id
  | .createCommand c => s.createCommand c
  | .updateCommand u => s.updateCommand u
  | .removeCommand id => s.removeCommand id
  | .addWorkspaceMember m => s.addWorkspaceMember m

variable {s t : Store}

/-! ## Accounts and members -/

theorem createAccount_ok {a : Account} (h : s.createAccount a = .ok t) :
    ∃ T, s.accounts.Inserted (.ofAccount a) T ∧ t = { s with accounts := T } := by
  obtain ⟨_, _, h⟩ := bind_eq_ok.1 h
  split at h
  · next T hT =>
    cases h
    exact ⟨T, Table.insert?_some hT, rfl⟩
  · exact absurd h (by simp)

/-- A row that refers to an account refers to one that is there. -/
theorem referring_ok {ρ : Type} [Row ρ] {child : Table ρ} {account : Cell}
    (h : s.referring child account = .ok ()) (hm : child.layout = .made) :
    s.accounts.hasKey [account] = true := by
  unfold referring at h
  split at h
  · exact absurd h (by simp)
  · next hno => simpa [hm] using hno

theorem addMember_ok {m : Member} (h : s.addMember m = .ok t) :
    (s.members.layout = .made → s.accounts.hasKey [.text m.account] = true)
      ∧ t = { s with members := s.members.put (.ofMember m) } := by
  obtain ⟨_, _, h⟩ := bind_eq_ok.1 h
  obtain ⟨_, _, h⟩ := bind_eq_ok.1 h
  obtain ⟨_, _, h⟩ := bind_eq_ok.1 h
  obtain ⟨_, href, h⟩ := bind_eq_ok.1 h
  cases h
  exact ⟨referring_ok href, rfl⟩

/-! ## Plans -/

theorem createPlan_ok {p : Plan} (h : s.createPlan p = .ok t) :
    ∃ T, s.plans.Inserted (.ofPlan p) T ∧ t = { s with plans := T } := by
  obtain ⟨_, _, h⟩ := bind_eq_ok.1 h
  split at h
  · next T hT =>
    cases h
    exact ⟨T, Table.insert?_some hT, rfl⟩
  · exact absurd h (by simp)

/-! ## Subscriptions -/

/-- What an insertion of a subscription has found and done. -/
structure SubscriptionInserted (s : Store) (v : Subscription) (t : Store) : Prop where
  account : s.subscriptions.layout = .made → s.accounts.hasKey [.text v.account] = true
  /-- No row is active for the account and the service, when the new one is. -/
  free : ∀ r ∈ s.subscriptions.rows, (SubscriptionRow.ofSubscription v).clashesWith r = false
  only : ∃ T, s.subscriptions.Inserted (.ofSubscription v) T ∧ t = { s with subscriptions := T }

theorem insertSubscription_ok {v : Subscription} (h : s.insertSubscription v = .ok t) :
    SubscriptionInserted s v t := by
  obtain ⟨_, _, h⟩ := bind_eq_ok.1 h
  obtain ⟨_, _, h⟩ := bind_eq_ok.1 h
  simp only at h
  split at h
  · exact absurd h (by simp)
  · next T hT =>
    split at h
    · exact absurd h (by simp)
    · next hfree =>
      obtain ⟨_, href, h⟩ := bind_eq_ok.1 h
      cases h
      exact ⟨referring_ok href, by simpa using hfree, T, Table.insert?_some hT, rfl⟩

/-- Whatever was looked at before, a new subscription is stored by the insertion. -/
theorem addSubscription_ok {v : Subscription} (h : s.addSubscription v = .ok t) :
    s.insertSubscription v = .ok t := by
  obtain ⟨_, _, h⟩ := bind_eq_ok.1 h
  split at h
  · split at h
    · -- an active subscription is looked for, and none was found
      obtain ⟨found, _, h⟩ := bind_eq_ok.1 h
      cases found with
      | some v => exact absurd h (by simp)
      | none => exact h
    · exact h
  · exact absurd h (by simp)

/-- What an update of a subscription has found and done. -/
structure SubscriptionUpdated (s : Store) (v : Subscription) (t : Store) : Prop where
  account : s.subscriptions.layout = .made → s.accounts.hasKey [.text v.account] = true
  there : s.subscriptions.hasKey [.text v.id] = true
  free : s.clashesElsewhere (.ofSubscription v) = false
  only : t = { s with subscriptions := s.subscriptions.replace (.ofSubscription v) }

theorem updateSubscription_ok {v : Subscription} (h : s.updateSubscription v = .ok t) :
    SubscriptionUpdated s v t := by
  obtain ⟨_, _, h⟩ := bind_eq_ok.1 h
  obtain ⟨_, _, h⟩ := bind_eq_ok.1 h
  simp only at h
  split at h
  · next hthere =>
    split at h
    · exact absurd h (by simp)
    · next hfree =>
      obtain ⟨_, href, h⟩ := bind_eq_ok.1 h
      cases h
      exact ⟨referring_ok href, hthere, by simpa using hfree, rfl⟩
  · exact absurd h (by simp)

theorem removeSubscription_ok {id : String} (h : s.removeSubscription id = .ok t) :
    t = { s with subscriptions := s.subscriptions.erase [.text id] } := by
  obtain ⟨_, _, h⟩ := bind_eq_ok.1 h
  obtain ⟨_, _, h⟩ := bind_eq_ok.1 h
  split at h
  · cases h; rfl
  · exact absurd h (by simp)

/-! ## Commands -/

theorem createCommand_ok {c : Command} (h : s.createCommand c = .ok t) :
    ∃ T, s.commands.Inserted (.ofCommand c) T ∧ t = { s with commands := T } := by
  obtain ⟨_, _, h⟩ := bind_eq_ok.1 h
  split at h
  · next T hT =>
    cases h
    exact ⟨T, Table.insert?_some hT, rfl⟩
  · exact absurd h (by simp)

theorem updateCommand_ok {u : CommandUpdate} (h : s.updateCommand u = .ok t) :
    ∃ id c, u.id = some id ∧ s.command id = .ok c
      ∧ t = { s with
          commands := s.commands.modify (fun row => row.updated (c.apply u))
            (CommandRow.key_updated (c.apply u)) } := by
  unfold updateCommand at h
  split at h
  · exact absurd h (by simp)
  · next id hid =>
    obtain ⟨c, hc, h⟩ := bind_eq_ok.1 h
    obtain ⟨_, _, h⟩ := bind_eq_ok.1 h
    cases h
    exact ⟨id, c, hid, hc, rfl⟩

theorem removeCommand_ok {id : String} (h : s.removeCommand id = .ok t) :
    t = { s with commands := s.commands.erase [.text id] } := by
  obtain ⟨_, _, h⟩ := bind_eq_ok.1 h
  split at h
  · cases h; rfl
  · exact absurd h (by simp)

/-! ## Members of workspaces -/

theorem addWorkspaceMember_ok {m : WorkspaceMember} (h : s.addWorkspaceMember m = .ok t) :
    t = { s with workspaceMembers := s.workspaceMembers.put (.ofMember m) } := by
  obtain ⟨_, _, h⟩ := bind_eq_ok.1 h
  cases h
  rfl

end Store

end CloudIde
