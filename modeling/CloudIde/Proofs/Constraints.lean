import CloudIde.Proofs.OneActive
import CloudIde.Proofs.WrittenReads
import CloudIde.Store.Overwrite

/-!
# What the tables keep

Columns of stored rows can be set by other hands than calls, to whatever value. Then a row need not
be that of any value: a text may mean nothing, a number may be too large, a JSON text may be broken.
But what the tables were made for they keep. Columns of texts hold texts, keys are no two rows', the
accounts that subscriptions refer to are there, and no two subscriptions are active for one account
and one service. `Constrained` says so, and it holds whatever was done to a store, in whatever order
(`Touched.constrained`).
-/

namespace CloudIde

/-- The cell holds a text. -/
def Cell.IsText (cell : Cell) : Prop := ∃ text, cell = .text text

theorem Cell.IsText.ne_null {cell : Cell} (h : cell.IsText) : cell ≠ .null := by
  obtain ⟨text, rfl⟩ := h
  exact Cell.noConfusion

/-- A column of texts that needs a value keeps a text: integers are spelled out. -/
theorem Column.cell_isText {column : Column} {value : Cell} (htext : column.affinity = .text)
    (hnull : value ≠ .null) (hreal : value ≠ .real) : (column.affinity.cell value).IsText := by
  rw [htext]
  cases value with
  | null => exact absurd rfl hnull
  | integer n => exact ⟨toString n, rfl⟩
  | real => exact absurd rfl hreal
  | text s => exact ⟨s, rfl⟩

/-! ## One column set -/

namespace Table

variable {ρ : Type} [Row ρ] {t u : Table ρ} {key : Key} {value : Cell}
  {check : List ρ → ρ → ρ → Except Failure Unit}

/-- What setting a column makes of a table that was made: nothing, or one row is changed, which has
passed the checks. -/
inductive Overwritten (t : Table ρ) (value : Cell) (check : List ρ → ρ → ρ → Except Failure Unit) :
    Table ρ → Prop
  | kept : Overwritten t value check t
  | changed {u : Table ρ} {column : Column} {before after : ρ} (hcolumn : column ∈ Row.columns ρ)
      (hneeded : column.needed = true → value ≠ .null) (hbefore : before ∈ t.rows)
      (hafter : after = Row.set before (lowerName column.name) (column.affinity.cell value))
      (hcheck : check (t.erase (Row.key before)).rows before after = .ok ())
      (hinserted : (t.erase (Row.key before)).Inserted after u) : Overwritten t value check u

theorem edit_overwritten (hm : t.layout = .made) {column : Column}
    (hcolumn : column ∈ Row.columns ρ) (hneeded : column.needed = true → value ≠ .null) {n : Nat}
    (h : t.edit key (fun row => Row.set row (lowerName column.name) (column.affinity.cell value))
      check = .ok (u, n)) : t.Overwritten value check u := by
  unfold edit at h
  rw [dif_pos hm] at h
  split at h
  · cases h
    exact .kept
  · next row hrow =>
    obtain ⟨hbefore, rfl⟩ := find?_mem hrow
    simp only at h
    split at h
    · exact absurd h (by simp)
    · next T hT =>
      obtain ⟨_, hcheck, hu⟩ := map_eq_ok.1 h
      cases hu
      exact .changed hcolumn hneeded hbefore rfl hcheck (insert?_some hT)

/-- **Everything that setting a column can do** to a table that was made. -/
theorem overwrite_ok (hm : t.layout = .made) {name : String} {relates : Except Failure Unit}
    {n : Nat} (h : t.overwrite key name value relates check = .ok (u, n)) :
    t.Overwritten value check u := by
  unfold overwrite at h
  split at h
  · exact absurd h (by simp)
  · next hmisses =>
    obtain ⟨_, _, h⟩ := bind_eq_ok.1 h
    split at h
    · obtain ⟨cell, hcell, h⟩ := bind_eq_ok.1 h
      -- the column that is named is one of the table, whichever way its name is written
      obtain ⟨column, hfound⟩ : ∃ column, t.column? name = some column := by
        have hthere : (name :: Row.keyColumns ρ).find? (fun name => (t.column? name).isNone)
            = none := by simpa [misses?, hm] using hmisses
        have hname := List.find?_eq_none.1 hthere name List.mem_cons_self
        exact Option.ne_none_iff_exists'.1 (by simpa using hname)
      have hcolumn : column ∈ Row.columns ρ := List.mem_of_find?_eq_some hfound
      have hsame : sameName column.name name = true := by simpa using List.find?_some hfound
      have hlower : lowerName column.name = lowerName name := by simpa [sameName] using hsame
      unfold cellFor at hcell
      rw [hm, hfound] at hcell
      simp only at hcell
      split at hcell
      · exact absurd hcell (by simp)
      · next hnull =>
        cases hcell
        rw [← hlower] at h
        refine edit_overwritten hm hcolumn (fun hneeded hvalue => hnull ?_) h
        simp [hneeded, hvalue]
    · cases h
      exact .kept

theorem Overwritten.layout (h : t.Overwritten value check u) : u.layout = t.layout := by
  cases h with
  | kept => rfl
  | changed _ _ _ _ _ hinserted => exact hinserted.layout

/-- What is kept by every setting of a column is kept by the rows of the table. -/
theorem Overwritten.rows (h : t.Overwritten value check u) {P : ρ → Prop}
    (hP : ∀ row ∈ t.rows, P row)
    (hset : ∀ column ∈ Row.columns ρ, (column.needed = true → value ≠ .null) → ∀ row, P row →
      P (Row.set row (lowerName column.name) (column.affinity.cell value))) :
    ∀ row ∈ u.rows, P row := by
  cases h with
  | kept => exact hP
  | changed hcolumn hneeded hbefore hafter _ hinserted =>
    intro row hrow
    rcases hinserted.mem_iff.1 hrow with rfl | hrow
    · rw [hafter]
      exact hset _ hcolumn hneeded _ (hP _ hbefore)
    · exact hP row (mem_erase.1 hrow).1

end Table

/-! ## The rows -/

/-- The row names an account and a user, and has a text for the roles. -/
def MemberRow.Spelled (row : MemberRow) : Prop :=
  row.account.IsText ∧ row.user.IsText ∧ row.roles.IsText

/-- The row names a workspace and a user, and has a text for the roles. -/
def WorkspaceMemberRow.Spelled (row : WorkspaceMemberRow) : Prop :=
  row.workspace.IsText ∧ row.user.IsText ∧ row.roles.IsText

/-- The row names a subscription, an account and a service. -/
def SubscriptionRow.Spelled (row : SubscriptionRow) : Prop :=
  row.id.IsText ∧ row.account.IsText ∧ row.service.IsText

/-- The row of a command, with some text for the visibility. -/
def CommandRow.worded (c : Command) (text : String) : CommandRow :=
  { ofCommand c with visibility := .text text }

section

variable {column : Column} {value : Cell} (hneeded : column.needed = true → value ≠ .null)
  (hreal : value ≠ .real)
include hneeded hreal

theorem MemberRow.Spelled.set {row : MemberRow} (h : row.Spelled)
    (hcolumn : column ∈ Row.columns MemberRow) :
    (Row.set row (lowerName column.name) (column.affinity.cell value) : MemberRow).Spelled := by
  have hcolumns : ∀ column ∈ Row.columns MemberRow,
      column.affinity = .text ∧ column.needed = true := by decide
  obtain ⟨htext, hcolumn⟩ := hcolumns column hcolumn
  have hcell := Column.cell_isText htext (hneeded hcolumn) hreal
  obtain ⟨haccount, huser, hroles⟩ := h
  unfold Row.set instRowMemberRow
  simp only
  split
  · exact ⟨hcell, huser, hroles⟩
  · exact ⟨haccount, hcell, hroles⟩
  · exact ⟨haccount, huser, hcell⟩
  · exact ⟨haccount, huser, hroles⟩

theorem WorkspaceMemberRow.Spelled.set {row : WorkspaceMemberRow} (h : row.Spelled)
    (hcolumn : column ∈ Row.columns WorkspaceMemberRow) :
    (Row.set row (lowerName column.name) (column.affinity.cell value)
      : WorkspaceMemberRow).Spelled := by
  have hcolumns : ∀ column ∈ Row.columns WorkspaceMemberRow,
      column.affinity = .text ∧ column.needed = true := by decide
  obtain ⟨htext, hcolumn⟩ := hcolumns column hcolumn
  have hcell := Column.cell_isText htext (hneeded hcolumn) hreal
  obtain ⟨hworkspace, huser, hroles⟩ := h
  unfold Row.set instRowWorkspaceMemberRow
  simp only
  split
  · exact ⟨hcell, huser, hroles⟩
  · exact ⟨hworkspace, hcell, hroles⟩
  · exact ⟨hworkspace, huser, hcell⟩
  · exact ⟨hworkspace, huser, hroles⟩

theorem SubscriptionRow.Spelled.set {row : SubscriptionRow} (h : row.Spelled)
    (hcolumn : column ∈ Row.columns SubscriptionRow) :
    (Row.set row (lowerName column.name) (column.affinity.cell value)
      : SubscriptionRow).Spelled := by
  have hcolumns : ∀ column ∈ Row.columns SubscriptionRow,
      lowerName column.name ∈ ["id", "account_id", "service_id"] →
        column.affinity = .text ∧ column.needed = true := by decide +kernel
  have hnamed (hname : lowerName column.name ∈ ["id", "account_id", "service_id"]) :
      (column.affinity.cell value).IsText := by
    obtain ⟨htext, hcolumn⟩ := hcolumns column hcolumn hname
    exact Column.cell_isText htext (hneeded hcolumn) hreal
  obtain ⟨hid, haccount, hservice⟩ := h
  -- the other columns are others of the row
  unfold Row.set instRowSubscriptionRow
  simp only
  split
  · next hname => exact ⟨hnamed (by simp [hname]), haccount, hservice⟩
  · next hname => exact ⟨hid, hnamed (by simp [hname]), hservice⟩
  · next hname => exact ⟨hid, haccount, hnamed (by simp [hname])⟩
  all_goals exact ⟨hid, haccount, hservice⟩

theorem CommandRow.worded_set (c : Command) (text : String)
    (hcolumn : column ∈ Row.columns CommandRow) : ∃ d text',
      (Row.set (worded c text) (lowerName column.name) (column.affinity.cell value) : CommandRow)
        = worded d text' := by
  have hcolumns : ∀ column ∈ Row.columns CommandRow, column.affinity = .text ∧
      (lowerName column.name ∉ ["command_type", "working_dir"] → column.needed = true) := by
    decide +kernel
  obtain ⟨htext, hcolumn⟩ := hcolumns column hcolumn
  unfold Row.set instRowCommandRow
  simp only
  by_cases hnull : value = .null
  · have hname : lowerName column.name ∈ ["command_type", "working_dir"] :=
      Decidable.byContradiction fun hno => hneeded (hcolumn hno) hnull
    have hcell : column.affinity.cell value = .null := by rw [hnull, htext]; rfl
    rw [hcell]
    simp only [List.mem_cons, List.not_mem_nil, or_false] at hname
    rcases hname with hname | hname
    · rw [hname]
      exact ⟨{ c with type := none }, text, rfl⟩
    · rw [hname]
      exact ⟨{ c with workingDir := none }, text, rfl⟩
  · obtain ⟨x, hcell⟩ := Column.cell_isText htext hnull hreal
    rw [hcell]
    split
    · exact ⟨{ c with id := x }, text, rfl⟩
    · exact ⟨{ c with name := x }, text, rfl⟩
    · exact ⟨{ c with commandLine := x }, text, rfl⟩
    · exact ⟨{ c with creator := x }, text, rfl⟩
    · exact ⟨{ c with workspace := x }, text, rfl⟩
    · exact ⟨c, x, rfl⟩
    · exact ⟨{ c with type := some x }, text, rfl⟩
    · exact ⟨{ c with workingDir := some x }, text, rfl⟩
    · exact ⟨c, text, rfl⟩

end

/-! ## The store -/

namespace Store

variable {s t : Store} {value : Cell}

/-- What setting a column makes of a store whose tables were made: one of its tables is overwritten,
or nothing is. -/
inductive Overwritten (s : Store) (value : Cell) : Store → Prop
  | kept : Overwritten s value s
  | accounts {T : Table AccountRow} (h : s.accounts.Overwritten value s.checkAccount T) :
      Overwritten s value { s with accounts := T }
  | members {T : Table MemberRow} (h : s.members.Overwritten value s.checkMember T) :
      Overwritten s value { s with members := T }
  | plans {T : Table PlanRow} (h : s.plans.Overwritten value (fun _ _ _ => .ok ()) T) :
      Overwritten s value { s with plans := T }
  | subscriptions {T : Table SubscriptionRow}
      (h : s.subscriptions.Overwritten value s.checkSubscription T) :
      Overwritten s value { s with subscriptions := T }
  | workspaceMembers {T : Table WorkspaceMemberRow}
      (h : s.workspaceMembers.Overwritten value (fun _ _ _ => .ok ()) T) :
      Overwritten s value { s with workspaceMembers := T }
  | commands {T : Table CommandRow} (h : s.commands.Overwritten value (fun _ _ _ => .ok ()) T) :
      Overwritten s value { s with commands := T }

theorem overwrite_ok (hs : AllMade s) {table : String} {key : List String} {column : String}
    {n : Nat} (h : s.overwrite table key column value = .ok (t, n)) : s.Overwritten value t := by
  unfold overwrite at h
  simp only at h
  split at h
  · obtain ⟨⟨T, n⟩, hT, h⟩ := bind_eq_ok.1 h
    cases h
    exact .accounts (Table.overwrite_ok hs.accounts hT)
  split at h
  · obtain ⟨⟨T, n⟩, hT, h⟩ := bind_eq_ok.1 h
    cases h
    exact .members (Table.overwrite_ok hs.members hT)
  split at h
  · obtain ⟨⟨T, n⟩, hT, h⟩ := bind_eq_ok.1 h
    cases h
    exact .plans (Table.overwrite_ok hs.plans hT)
  split at h
  · obtain ⟨⟨T, n⟩, hT, h⟩ := bind_eq_ok.1 h
    cases h
    exact .subscriptions (Table.overwrite_ok hs.subscriptions hT)
  split at h
  · obtain ⟨⟨T, n⟩, hT, h⟩ := bind_eq_ok.1 h
    cases h
    exact .workspaceMembers (Table.overwrite_ok hs.workspaceMembers hT)
  split at h
  · obtain ⟨⟨T, n⟩, hT, h⟩ := bind_eq_ok.1 h
    cases h
    exact .commands (Table.overwrite_ok hs.commands hT)
  -- tables beside the six have no rows
  · split at h
    · exact absurd h (by simp)
    · split at h
      · exact absurd h (by simp)
      · cases h
        exact .kept

theorem Overwritten.layouts (h : s.Overwritten value t) : SameLayouts s t := by
  have hsame := SameLayouts.refl s
  cases h with
  | kept => exact hsame
  | accounts h => exact { hsame with accounts := h.layout }
  | members h => exact { hsame with members := h.layout }
  | plans h => exact { hsame with plans := h.layout }
  | subscriptions h => exact { hsame with subscriptions := h.layout }
  | workspaceMembers h => exact { hsame with workspaceMembers := h.layout }
  | commands h => exact { hsame with commands := h.layout }

/-- The tables were made, and what they were made for is kept. -/
structure Constrained (s : Store) : Prop where
  made : AllMade s
  member : ∀ row ∈ s.members.rows, row.Spelled
  workspaceMember : ∀ row ∈ s.workspaceMembers.rows, row.Spelled
  subscription : ∀ row ∈ s.subscriptions.rows, row.Spelled
  /-- Subscriptions are those of accounts that are there. -/
  account : ∀ row ∈ s.subscriptions.rows, s.accounts.hasKey [row.account] = true
  oneActive : OneActive s
  command : ∀ row ∈ s.commands.rows, ∃ c text, row = .worded c text

/-! ## Calls -/

/-- What calls have written is within the constraints. -/
theorem Written.constrained (hs : Written s) (hone : OneActive s) : Constrained s where
  made := hs.made
  member row hrow := by
    obtain ⟨m, rfl, -⟩ := hs.member row hrow
    exact ⟨⟨_, rfl⟩, ⟨_, rfl⟩, ⟨_, rfl⟩⟩
  workspaceMember row hrow := by
    obtain ⟨m, rfl⟩ := hs.workspaceMember row hrow
    exact ⟨⟨_, rfl⟩, ⟨_, rfl⟩, ⟨_, rfl⟩⟩
  subscription row hrow := by
    obtain ⟨v, rfl, -⟩ := hs.subscription row hrow
    exact ⟨⟨_, rfl⟩, ⟨_, rfl⟩, ⟨_, rfl⟩⟩
  account row hrow := by
    obtain ⟨v, rfl, hthere⟩ := hs.subscription row hrow
    exact hthere
  oneActive := hone
  command row hrow := by
    obtain ⟨c, rfl⟩ := hs.command row hrow
    exact ⟨c, _, rfl⟩

theorem constrained_insertSubscription {v : Subscription} (h : Constrained s)
    (hw : s.insertSubscription v = .ok t) : Constrained t := by
  have hmade := (layouts_insertSubscription hw).made h.made
  have hone := oneActive_insert h.oneActive hw
  obtain ⟨hacc, -, T, hT, rfl⟩ := insertSubscription_ok hw
  refine { h with made := hmade, oneActive := hone, subscription := ?_, account := ?_ }
  · intro row hrow
    rcases hT.mem_iff.1 hrow with rfl | hrow
    · exact ⟨⟨_, rfl⟩, ⟨_, rfl⟩, ⟨_, rfl⟩⟩
    · exact h.subscription row hrow
  · intro row hrow
    rcases hT.mem_iff.1 hrow with rfl | hrow
    · exact hacc h.made.subscriptions
    · exact h.account row hrow

theorem constrained_updateSubscription {v : Subscription} (h : Constrained s)
    (hw : s.updateSubscription v = .ok t) : Constrained t := by
  have hmade := made_write (w := .updateSubscription v) h.made hw
  have hone := oneActive_update h.oneActive hw
  obtain ⟨hacc, -, -, rfl⟩ := updateSubscription_ok hw
  refine { h with made := hmade, oneActive := hone, subscription := ?_, account := ?_ }
  · intro row hrow
    rcases Table.mem_replace.1 hrow with ⟨rfl, -⟩ | ⟨hrow, -⟩
    · exact ⟨⟨_, rfl⟩, ⟨_, rfl⟩, ⟨_, rfl⟩⟩
    · exact h.subscription row hrow
  · intro row hrow
    rcases Table.mem_replace.1 hrow with ⟨rfl, -⟩ | ⟨hrow, -⟩
    · exact hacc h.made.subscriptions
    · exact h.account row hrow

/-- A changed command keeps a text for its visibility, be it one that a value is written as. -/
theorem updated_worded (c d : Command) (text : String) :
    ∃ e text', (CommandRow.worded d text).updated c = .worded e text' := by
  unfold CommandRow.updated
  split
  · refine ⟨{ d with
      name := c.name, commandLine := c.commandLine, type := c.type
      workingDir := c.workingDir }, c.visibility.text, rfl⟩
  · exact ⟨d, text, rfl⟩

theorem constrained_write {w : Write} (h : Constrained s) (hw : s.write w = .ok t) :
    Constrained t := by
  have hmade := made_write h.made hw
  have hone := oneActive_write h.oneActive hw
  cases w with
  | createAccount a =>
    obtain ⟨T, hT, rfl⟩ := createAccount_ok hw
    refine { h with made := hmade, oneActive := hone, account := ?_ }
    intro row hrow
    exact hT.hasKey_iff.2 (Or.inr (h.account row hrow))
  | addMember m =>
    obtain ⟨-, rfl⟩ := addMember_ok hw
    refine { h with made := hmade, oneActive := hone, member := ?_ }
    intro row hrow
    rcases Table.mem_of_mem_put hrow with rfl | hrow
    · exact ⟨⟨_, rfl⟩, ⟨_, rfl⟩, ⟨_, rfl⟩⟩
    · exact h.member row hrow
  | createPlan p =>
    obtain ⟨T, -, rfl⟩ := createPlan_ok hw
    exact { h with made := hmade, oneActive := hone }
  | addSubscription v => exact constrained_insertSubscription h (addSubscription_ok hw)
  | updateSubscription v => exact constrained_updateSubscription h hw
  | removeSubscription id =>
    cases removeSubscription_ok hw
    refine { h with made := hmade, oneActive := hone, subscription := ?_, account := ?_ }
    · exact fun row hrow => h.subscription row (Table.mem_erase.1 hrow).1
    · exact fun row hrow => h.account row (Table.mem_erase.1 hrow).1
  | createCommand c =>
    obtain ⟨T, hT, rfl⟩ := createCommand_ok hw
    refine { h with made := hmade, oneActive := hone, command := ?_ }
    intro row hrow
    rcases hT.mem_iff.1 hrow with rfl | hrow
    · exact ⟨c, _, rfl⟩
    · exact h.command row hrow
  | updateCommand u =>
    obtain ⟨id, c, -, -, rfl⟩ := updateCommand_ok hw
    refine { h with made := hmade, oneActive := hone, command := ?_ }
    intro row hrow
    obtain ⟨before, hbefore, rfl⟩ := (Table.mem_modify _ (CommandRow.key_updated _)).1 hrow
    obtain ⟨d, text, rfl⟩ := h.command before hbefore
    exact updated_worded (c.apply u) d text
  | removeCommand id =>
    cases removeCommand_ok hw
    refine { h with made := hmade, oneActive := hone, command := ?_ }
    exact fun row hrow => h.command row (Table.mem_erase.1 hrow).1
  | addWorkspaceMember m =>
    cases addWorkspaceMember_ok hw
    refine { h with made := hmade, oneActive := hone, workspaceMember := ?_ }
    intro row hrow
    rcases Table.mem_of_mem_put hrow with rfl | hrow
    · exact ⟨⟨_, rfl⟩, ⟨_, rfl⟩, ⟨_, rfl⟩⟩
    · exact h.workspaceMember row hrow

/-! ## Other hands -/

/-- An id of an account stays while something refers to it. -/
theorem hasKey_overwritten (hm : s.accounts.layout = .made) {T : Table AccountRow}
    (h : s.accounts.Overwritten value s.checkAccount T) {id : Cell}
    (hreferred : s.isReferredTo id = true) (hid : s.accounts.hasKey [id] = true) :
    T.hasKey [id] = true := by
  cases h with
  | kept => exact hid
  | @changed _ _ before after _ _ hbefore _ hcheck hinserted =>
    obtain ⟨row, hrow, hkey⟩ := Table.hasKey_iff.1 hid
    by_cases hsame : Row.key row = Row.key before
    · -- the row itself is changed, and keeps its id
      obtain rfl := Table.eq_of_key hm hrow hbefore hsame
      have hrowid : row.id = id := by simpa [Row.key] using hkey
      have hkept : row.id = after.id := by
        unfold checkAccount at hcheck
        split at hcheck
        · exact absurd hcheck (by simp)
        · next hno =>
          rw [hrowid, hreferred] at hno
          rw [hrowid]
          simpa [hm] using hno
      refine hinserted.hasKey_iff.2 (Or.inl ?_)
      show [after.id] = [id]
      rw [← hkept, hrowid]
    · refine Table.hasKey_iff.2 ⟨row, hinserted.mem_iff.2 (Or.inr ?_), hkey⟩
      exact Table.mem_erase.2 ⟨hrow, hsame⟩

theorem constrained_accounts (h : Constrained s) {T : Table AccountRow}
    (hT : s.accounts.Overwritten value s.checkAccount T) :
    Constrained { s with accounts := T } := by
  have hmade := (Overwritten.accounts hT).layouts.made h.made
  refine { h with made := hmade, oneActive := h.oneActive.of_rows rfl, account := ?_ }
  intro row hrow
  refine hasKey_overwritten h.made.accounts hT ?_ (h.account row hrow)
  unfold isReferredTo
  rw [Bool.or_eq_true, Bool.and_eq_true, Bool.and_eq_true]
  exact Or.inr ⟨by simpa using h.made.subscriptions, List.any_eq_true.2 ⟨row, hrow, by simp⟩⟩

theorem constrained_subscriptions (h : Constrained s) (hreal : value ≠ .real)
    {T : Table SubscriptionRow} (hT : s.subscriptions.Overwritten value s.checkSubscription T) :
    Constrained { s with subscriptions := T } := by
  have hmade := (Overwritten.subscriptions hT).layouts.made h.made
  have hspelled : ∀ row ∈ T.rows, row.Spelled := hT.rows h.subscription
    fun _ hcolumn hneeded _ hrow => SubscriptionRow.Spelled.set hneeded hreal hrow hcolumn
  cases hT with
  | kept => exact h
  | @changed _ _ before after hcolumn hneeded hbefore hafter hcheck hinserted =>
    have hstays : ∀ row ∈ (s.subscriptions.erase (Row.key before)).rows,
        row ∈ s.subscriptions.rows := fun row hrow => (Table.mem_erase.1 hrow).1
    have hown : after.Spelled := hspelled after (hinserted.mem_iff.2 (Or.inl rfl))
    unfold checkSubscription at hcheck
    split at hcheck
    · exact absurd hcheck (by simp)
    · next hfree =>
      refine { h with made := hmade, subscription := hspelled, account := ?_, oneActive := ?_ }
      · intro row hrow
        rcases hinserted.mem_iff.1 hrow with rfl | hrow
        · -- the account is that of before, or has been looked for
          split at hcheck
          · next hsame =>
            rw [← hsame]
            exact h.account before hbefore
          · exact referring_ok hcheck h.made.subscriptions
        · exact h.account row (hstays row hrow)
      · have hsymm : ∀ {a b : SubscriptionRow}, ¬ SubscriptionRow.Rival a b →
            ¬ SubscriptionRow.Rival b a := fun hn hr => hn hr.symm
        refine (hinserted.rows.pairwise_iff hsymm).2 (List.pairwise_cons.2 ⟨?_, ?_⟩)
        · intro row hrow hrival
          refine hfree (List.any_eq_true.2 ⟨row, hrow, ?_⟩)
          exact hrival.clashesWith hown.2.1.ne_null hown.2.2.ne_null
        · exact List.Pairwise.sublist List.filter_sublist h.oneActive

theorem constrained_overwrite (h : Constrained s) (hreal : value ≠ .real)
    (hw : s.Overwritten value t) : Constrained t := by
  have hmade := hw.layouts.made h.made
  cases hw with
  | kept => exact h
  | accounts hT => exact constrained_accounts h hT
  | members hT =>
    refine { h with made := hmade, oneActive := h.oneActive.of_rows rfl, member := ?_ }
    exact hT.rows h.member fun _ hcolumn hneeded _ hrow =>
      MemberRow.Spelled.set hneeded hreal hrow hcolumn
  | plans hT => exact { h with made := hmade, oneActive := h.oneActive.of_rows rfl }
  | subscriptions hT => exact constrained_subscriptions h hreal hT
  | workspaceMembers hT =>
    refine { h with made := hmade, oneActive := h.oneActive.of_rows rfl, workspaceMember := ?_ }
    exact hT.rows h.workspaceMember fun _ hcolumn hneeded _ hrow =>
      WorkspaceMemberRow.Spelled.set hneeded hreal hrow hcolumn
  | commands hT =>
    refine { h with made := hmade, oneActive := h.oneActive.of_rows rfl, command := ?_ }
    refine hT.rows h.command fun column hcolumn hneeded row hrow => ?_
    obtain ⟨c, text, rfl⟩ := hrow
    exact CommandRow.worded_set hneeded hreal c text hcolumn

/-- What can come of the empty store: steps are made in it, and other hands set columns to nulls,
integers and texts, as which they can also write whatever other numbers a column would hold. -/
inductive Touched : Store → Prop
  | empty : Touched empty
  | step {s : Store} (h : Touched s) (step : Step) : Touched (s.next step)
  | overwritten {s t : Store} {table column : String} {key : List String} {value : Cell} {n : Nat}
      (h : Touched s) (hreal : value ≠ .real)
      (hw : s.overwrite table key column value = .ok (t, n)) : Touched t

/-- The store after other hands have tried to set a column. -/
def meddle (s : Store) (table : String) (key : List String) (column : String) (value : Cell) :
    Store :=
  s.orKept ((s.overwrite table key column value).map Prod.fst)

theorem Touched.meddle (h : Touched s) (table : String) (key : List String) (column : String)
    (hreal : value ≠ .real) : Touched (s.meddle table key column value) := by
  unfold Store.meddle
  cases hw : s.overwrite table key column value with
  | error f => exact h
  | ok done => exact .overwritten h hreal hw

theorem Touched.run (h : Touched s) (steps : List Step) : Touched (s.run steps) := by
  induction steps generalizing s with
  | nil => exact h
  | cons step rest ih => exact ih (h.step step)

/-- **What the tables keep, whatever is done to them.** -/
theorem Touched.constrained (h : Touched s) : Constrained s := by
  induction h with
  | empty => exact written_empty.constrained oneActive_empty
  | step h step ih => exact run_keeps constrained_write constrained_insertSubscription ih [step]
  | overwritten h hreal hw ih => exact constrained_overwrite ih hreal (overwrite_ok ih.made hw)

end Store

end CloudIde
