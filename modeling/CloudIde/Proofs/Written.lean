import CloudIde.Proofs.Writes

/-!
# Stores that only calls have written

In a store whose tables were made, and which nothing but the ten writing calls has changed, every
row is one that some value of the domain was written as, and members and subscriptions refer to
accounts that are there. `Written` says so. It holds of the empty store and is kept by every call
that succeeds (`written_write`), so it is there to be used about every store that a run can reach.
-/

namespace CloudIde.Store

/-- All six tables were made, with their columns and their primary keys. -/
structure AllMade (s : Store) : Prop where
  accounts : s.accounts.layout = .made
  members : s.members.layout = .made
  plans : s.plans.layout = .made
  subscriptions : s.subscriptions.layout = .made
  workspaceMembers : s.workspaceMembers.layout = .made
  commands : s.commands.layout = .made

/-- Whether there is an account with an id. -/
def hasAccount (s : Store) (id : String) : Bool := s.accounts.hasKey [.text id]

/-- The tables were made, and their rows were written by calls. -/
structure Written (s : Store) : Prop where
  made : AllMade s
  account : ∀ r ∈ s.accounts.rows, ∃ a, r = .ofAccount a
  /-- Members belong to accounts that are there. -/
  member : ∀ r ∈ s.members.rows, ∃ m, r = .ofMember m ∧ s.hasAccount m.account = true
  plan : ∀ r ∈ s.plans.rows, ∃ p, r = .ofPlan p
  /-- Subscriptions are those of accounts that are there. -/
  subscription :
    ∀ r ∈ s.subscriptions.rows, ∃ v, r = .ofSubscription v ∧ s.hasAccount v.account = true
  workspaceMember : ∀ r ∈ s.workspaceMembers.rows, ∃ m, r = .ofMember m
  command : ∀ r ∈ s.commands.rows, ∃ c, r = .ofCommand c

theorem made_empty : AllMade empty := ⟨rfl, rfl, rfl, rfl, rfl, rfl⟩

theorem written_empty : Written empty where
  made := made_empty
  account := by intro r hr; exact absurd hr (List.not_mem_nil)
  member := by intro r hr; exact absurd hr (List.not_mem_nil)
  plan := by intro r hr; exact absurd hr (List.not_mem_nil)
  subscription := by intro r hr; exact absurd hr (List.not_mem_nil)
  workspaceMember := by intro r hr; exact absurd hr (List.not_mem_nil)
  command := by intro r hr; exact absurd hr (List.not_mem_nil)

variable {s t : Store}

theorem hasAccount_iff {id : String} :
    s.hasAccount id = true ↔ ∃ r ∈ s.accounts.rows, r.id = .text id := by
  unfold hasAccount
  rw [Table.hasKey_iff]
  simp [Row.key]

/-- A new account takes none away. -/
theorem hasAccount_of_inserted {row : AccountRow} {T : Table AccountRow}
    (h : s.accounts.Inserted row T) {id : String} (hid : s.hasAccount id = true) :
    ({ s with accounts := T } : Store).hasAccount id = true :=
  h.hasKey_iff.2 (Or.inr hid)

/-- A changed command is written like any other. -/
theorem updated_ofCommand (c d : Command) :
    ∃ e, (CommandRow.ofCommand d).updated c = .ofCommand e ∧ e.id = d.id
      ∧ e.creator = d.creator ∧ e.workspace = d.workspace := by
  unfold CommandRow.updated
  split
  · refine ⟨{ d with
      name := c.name, commandLine := c.commandLine, visibility := c.visibility, type := c.type
      workingDir := c.workingDir }, rfl, rfl, rfl, rfl⟩
  · exact ⟨d, rfl, rfl, rfl, rfl⟩

/-! ## The tables -/

/-- A store whose tables are laid out like those of another. -/
structure SameLayouts (s t : Store) : Prop where
  accounts : t.accounts.layout = s.accounts.layout
  members : t.members.layout = s.members.layout
  plans : t.plans.layout = s.plans.layout
  subscriptions : t.subscriptions.layout = s.subscriptions.layout
  workspaceMembers : t.workspaceMembers.layout = s.workspaceMembers.layout
  commands : t.commands.layout = s.commands.layout

theorem SameLayouts.refl (s : Store) : SameLayouts s s := ⟨rfl, rfl, rfl, rfl, rfl, rfl⟩

theorem SameLayouts.made (h : SameLayouts s t) (hs : AllMade s) : AllMade t where
  accounts := h.accounts.trans hs.accounts
  members := h.members.trans hs.members
  plans := h.plans.trans hs.plans
  subscriptions := h.subscriptions.trans hs.subscriptions
  workspaceMembers := h.workspaceMembers.trans hs.workspaceMembers
  commands := h.commands.trans hs.commands

theorem layouts_insertSubscription {v : Subscription} (hw : s.insertSubscription v = .ok t) :
    SameLayouts s t := by
  obtain ⟨-, -, T, hT, rfl⟩ := insertSubscription_ok hw
  exact { SameLayouts.refl s with subscriptions := hT.layout }

/-- No call makes another table of a table. -/
theorem layouts_write {w : Write} (hw : s.write w = .ok t) : SameLayouts s t := by
  have hsame := SameLayouts.refl s
  cases w with
  | createAccount a =>
    obtain ⟨T, hT, rfl⟩ := createAccount_ok hw
    exact { hsame with accounts := hT.layout }
  | addMember m =>
    obtain ⟨-, rfl⟩ := addMember_ok hw
    exact { hsame with members := Table.put_layout }
  | createPlan p =>
    obtain ⟨T, hT, rfl⟩ := createPlan_ok hw
    exact { hsame with plans := hT.layout }
  | addSubscription v => exact layouts_insertSubscription (addSubscription_ok hw)
  | updateSubscription v =>
    obtain ⟨-, -, -, rfl⟩ := updateSubscription_ok hw
    exact { hsame with subscriptions := rfl }
  | removeSubscription id =>
    cases removeSubscription_ok hw
    exact { hsame with subscriptions := rfl }
  | createCommand c =>
    obtain ⟨T, hT, rfl⟩ := createCommand_ok hw
    exact { hsame with commands := hT.layout }
  | updateCommand u =>
    obtain ⟨id, c, -, -, rfl⟩ := updateCommand_ok hw
    exact { hsame with commands := rfl }
  | removeCommand id =>
    cases removeCommand_ok hw
    exact { hsame with commands := rfl }
  | addWorkspaceMember m =>
    cases addWorkspaceMember_ok hw
    exact { hsame with workspaceMembers := Table.put_layout }

theorem made_write {w : Write} (h : AllMade s) (hw : s.write w = .ok t) : AllMade t :=
  (layouts_write hw).made h

/-! ## The rows -/

theorem written_createAccount {a : Account} (h : Written s) (hw : s.createAccount a = .ok t) :
    Written t := by
  have hmade := made_write (w := .createAccount a) h.made hw
  obtain ⟨T, hT, rfl⟩ := createAccount_ok hw
  refine { h with made := hmade, account := ?_, member := ?_, subscription := ?_ }
  · intro r hr
    rcases hT.mem_iff.1 hr with rfl | hr
    · exact ⟨a, rfl⟩
    · exact h.account r hr
  · -- members and subscriptions still find their accounts
    intro r hr
    obtain ⟨m, hm, hacc⟩ := h.member r hr
    exact ⟨m, hm, hasAccount_of_inserted hT hacc⟩
  · intro r hr
    obtain ⟨v, hv, hacc⟩ := h.subscription r hr
    exact ⟨v, hv, hasAccount_of_inserted hT hacc⟩

theorem written_addMember {m : Member} (h : Written s) (hw : s.addMember m = .ok t) :
    Written t := by
  have hmade := made_write (w := .addMember m) h.made hw
  obtain ⟨hacc, rfl⟩ := addMember_ok hw
  refine { h with made := hmade, member := ?_ }
  -- the row that is put in the place of another refers to an account, as the call has checked
  intro r hr
  rcases Table.mem_of_mem_put hr with rfl | hr
  · exact ⟨m, rfl, hacc h.made.members⟩
  · exact h.member r hr

theorem written_createPlan {p : Plan} (h : Written s) (hw : s.createPlan p = .ok t) :
    Written t := by
  have hmade := made_write (w := .createPlan p) h.made hw
  obtain ⟨T, hT, rfl⟩ := createPlan_ok hw
  refine { h with made := hmade, plan := ?_ }
  intro r hr
  rcases hT.mem_iff.1 hr with rfl | hr
  · exact ⟨p, rfl⟩
  · exact h.plan r hr

theorem written_insertSubscription {v : Subscription} (h : Written s)
    (hw : s.insertSubscription v = .ok t) : Written t := by
  have hmade := (layouts_insertSubscription hw).made h.made
  obtain ⟨hacc, -, T, hT, rfl⟩ := insertSubscription_ok hw
  refine { h with made := hmade, subscription := ?_ }
  intro r hr
  rcases hT.mem_iff.1 hr with rfl | hr
  · exact ⟨v, rfl, hacc h.made.subscriptions⟩
  · exact h.subscription r hr

theorem written_updateSubscription {v : Subscription} (h : Written s)
    (hw : s.updateSubscription v = .ok t) : Written t := by
  have hmade := made_write (w := .updateSubscription v) h.made hw
  obtain ⟨hacc, -, -, rfl⟩ := updateSubscription_ok hw
  refine { h with made := hmade, subscription := ?_ }
  intro r hr
  rcases Table.mem_replace.1 hr with ⟨rfl, -⟩ | ⟨hr, -⟩
  · exact ⟨v, rfl, hacc h.made.subscriptions⟩
  · exact h.subscription r hr

theorem written_createCommand {c : Command} (h : Written s) (hw : s.createCommand c = .ok t) :
    Written t := by
  have hmade := made_write (w := .createCommand c) h.made hw
  obtain ⟨T, hT, rfl⟩ := createCommand_ok hw
  refine { h with made := hmade, command := ?_ }
  intro r hr
  rcases hT.mem_iff.1 hr with rfl | hr
  · exact ⟨c, rfl⟩
  · exact h.command r hr

theorem written_updateCommand {u : CommandUpdate} (h : Written s)
    (hw : s.updateCommand u = .ok t) : Written t := by
  have hmade := made_write (w := .updateCommand u) h.made hw
  obtain ⟨id, c, -, -, rfl⟩ := updateCommand_ok hw
  refine { h with made := hmade, command := ?_ }
  intro r hr
  obtain ⟨q, hq, rfl⟩ := (Table.mem_modify _ (CommandRow.key_updated _)).1 hr
  obtain ⟨d, rfl⟩ := h.command q hq
  obtain ⟨e, he, -⟩ := updated_ofCommand (c.apply u) d
  exact ⟨e, he⟩

theorem written_addWorkspaceMember {m : WorkspaceMember} (h : Written s)
    (hw : s.addWorkspaceMember m = .ok t) : Written t := by
  have hmade := made_write (w := .addWorkspaceMember m) h.made hw
  cases addWorkspaceMember_ok hw
  refine { h with made := hmade, workspaceMember := ?_ }
  intro r hr
  rcases Table.mem_of_mem_put hr with rfl | hr
  · exact ⟨m, rfl⟩
  · exact h.workspaceMember r hr

/-- **Kept by every call.** -/
theorem written_write {w : Write} (h : Written s) (hw : s.write w = .ok t) : Written t := by
  have hmade := made_write h.made hw
  cases w with
  | createAccount a => exact written_createAccount h hw
  | addMember m => exact written_addMember h hw
  | createPlan p => exact written_createPlan h hw
  | addSubscription v => exact written_insertSubscription h (addSubscription_ok hw)
  | updateSubscription v => exact written_updateSubscription h hw
  | removeSubscription id =>
    cases removeSubscription_ok hw
    refine { h with made := hmade, subscription := ?_ }
    intro r hr
    exact h.subscription r (Table.mem_erase.1 hr).1
  | createCommand c => exact written_createCommand h hw
  | updateCommand u => exact written_updateCommand h hw
  | removeCommand id =>
    cases removeCommand_ok hw
    refine { h with made := hmade, command := ?_ }
    intro r hr
    exact h.command r (Table.mem_erase.1 hr).1
  | addWorkspaceMember m => exact written_addWorkspaceMember h hw

end CloudIde.Store
