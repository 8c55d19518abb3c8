import CloudIde.Proofs.CommandUpdates
import CloudIde.Proofs.Failures
import CloudIde.Proofs.Frame
import CloudIde.Proofs.Memberships

/-!
# The slots of a store

A made table has at most one row of a key. So a store whose tables were all made is a map: a
**slot**, which is a table and a key, has a row or nothing (`Store.row?`), and two stores that have
the same in every slot are the same (`AllMade.eq_of_row?`).

A write is about one slot. `Written.write_ends` says for each of the ten writes what it can be
refused for, in the order of the reasons, and that it leaves what it `leaves` in its slot, and in
every other slot what was there, when it is not refused.
-/

namespace CloudIde

open Http (TableName)

/-! ## Tables as maps -/

namespace Table

variable {ρ : Type} [Row ρ] {t u : Table ρ} {row r : ρ} {key : Key} {o : Option ρ}

theorem find?_eq_some_iff (hm : t.layout = .made) :
    t.find? key = some r ↔ r ∈ t.rows ∧ Row.key r = key :=
  ⟨find?_mem, fun h => find?_eq hm h.1 h.2⟩

theorem hasKey_eq_isSome : t.hasKey key = (t.find? key).isSome := by
  cases hfind : t.find? key with
  | none => exact find?_eq_none.1 hfind
  | some r => exact hasKey_iff.2 ⟨r, find?_mem hfind⟩

/-- Made tables that have the same row of every key are the same. -/
theorem eq_of_find? (ht : t.layout = .made) (hu : u.layout = .made)
    (h : ∀ key, t.find? key = u.find? key) : t = u := by
  have hrows : t.rows = u.rows := by
    have hall := filter_eq ht hu (p := fun _ => true) fun r _ => by
      have hsame : t.find? (Row.key r) = some r ↔ u.find? (Row.key r) = some r := by rw [h]
      simpa [find?_eq_some_iff ht, find?_eq_some_iff hu] using hsame
    simpa using hall
  obtain ⟨layout, rows, _⟩ := t
  obtain ⟨layout', rows', _⟩ := u
  obtain rfl : layout = layout' := ht.trans hu.symm
  obtain rfl : rows = rows' := hrows
  rfl

/-- A table with the row, or none, of one key in the place of what it had. -/
def Sets (t : Table ρ) (key : Key) (o : Option ρ) (u : Table ρ) : Prop :=
  ∀ other, u.find? other = if other = key then o else t.find? other

theorem sets_of_mem (ht : t.layout = .made) (hu : u.layout = .made)
    (ho : ∀ r ∈ o, Row.key r = key)
    (h : ∀ r, r ∈ u.rows ↔ r ∈ o ∨ r ∈ t.rows ∧ Row.key r ≠ key) : t.Sets key o u := by
  intro other
  refine Option.ext fun r => ?_
  rw [find?_eq_some_iff hu, h]
  split
  · next hother =>
    constructor
    · rintro ⟨hr | ⟨-, hne⟩, hk⟩
      · exact hr
      · exact absurd (hk.trans hother) hne
    · exact fun hr => ⟨Or.inl hr, (ho r hr).trans hother.symm⟩
  · next hother =>
    rw [find?_eq_some_iff ht]
    constructor
    · rintro ⟨hr | ⟨hr, -⟩, hk⟩
      · exact absurd (hk.symm.trans (ho r hr)) hother
      · exact ⟨hr, hk⟩
    · rintro ⟨hr, rfl⟩
      exact ⟨Or.inr ⟨hr, hother⟩, rfl⟩

theorem Inserted.sets (h : t.Inserted row u) (hm : t.layout = .made) :
    t.Sets (Row.key row) (some row) u := by
  refine sets_of_mem hm (h.layout.trans hm) (by simp) fun r => ?_
  rw [h.mem_iff, Option.mem_some_iff, eq_comm]
  refine or_congr_right (and_iff_left_of_imp fun hr hk => ?_).symm
  exact h.fresh hm r hr (order_of_key hk)

theorem sets_erase (hm : t.layout = .made) (key : Key) : t.Sets key none (t.erase key) :=
  sets_of_mem hm hm (by simp) fun r => by simp

/-- Rows are told apart by their order when it tells their keys apart. -/
theorem sets_put (hm : t.layout = .made)
    (hkey : ∀ r ∈ t.rows, Row.order r = Row.order row → Row.key r = Row.key row) :
    t.Sets (Row.key row) (some row) (t.put row) := by
  refine sets_of_mem hm (put_layout.trans hm) (by simp) fun r => ?_
  rw [mem_put hm, Option.mem_some_iff, @eq_comm _ row]
  refine or_congr_right (and_congr_right fun hr => not_congr ⟨hkey r hr, order_of_key⟩)

theorem insert?_eq_none_iff (hm : t.layout = .made)
    (hkey : ∀ r ∈ t.rows, Row.order r = Row.order row → Row.key r = Row.key row) :
    t.insert? row = none ↔ t.hasKey (Row.key row) = true := by
  constructor
  · intro hnone
    obtain ⟨r, hr, horder⟩ := insert?_none hnone
    exact hasKey_iff.2 ⟨r, hr, hkey r hr horder⟩
  · intro htaken
    cases hT : t.insert? row with
    | none => rfl
    | some u =>
      have hfree := (insert?_some hT).not_hasKey hm
      rw [htaken] at hfree
      exact absurd hfree (by simp)

end Table

/-- Where the cells of the keys are texts, the order of the rows tells the keys apart. -/
theorem key_of_order {ρ : Type} [Row ρ] {x y : ρ} {a b : List String}
    (hx : Row.key x = a.map .text) (hy : Row.key y = b.map .text)
    (h : Row.order x = Row.order y) : Row.key x = Row.key y := by
  have hspell (texts : List String) : (texts.map Cell.text).map Cell.spelling = texts := by
    simp [Function.comp_def, Cell.spelling]
  have hsame : a = b := by
    rw [← hspell a, ← hspell b, ← hx, ← hy]
    exact h
  rw [hx, hy, hsame]

/-! ## Stores as maps -/

/-- A row of any of the tables. -/
inductive StoredRow where
  | account (row : AccountRow)
  | member (row : MemberRow)
  | plan (row : PlanRow)
  | subscription (row : SubscriptionRow)
  | workspaceMember (row : WorkspaceMemberRow)
  | command (row : CommandRow)

/-- Where a store has one row or none. -/
structure RowSlot where
  table : TableName
  key : Key
  deriving DecidableEq

namespace Store

/-- What a store has in a slot. -/
def row? (s : Store) (slot : RowSlot) : Option StoredRow :=
  match slot.table with
  | .accounts => (s.accounts.find? slot.key).map .account
  | .members => (s.members.find? slot.key).map .member
  | .plans => (s.plans.find? slot.key).map .plan
  | .subscriptions => (s.subscriptions.find? slot.key).map .subscription
  | .workspaceMembers => (s.workspaceMembers.find? slot.key).map .workspaceMember
  | .commands => (s.commands.find? slot.key).map .command

variable {s t : Store} {w : Write}

/-- **A store is known by what it has in its slots.** -/
theorem AllMade.eq_of_row? (hs : AllMade s) (ht : AllMade t) (hothers : s.others = t.others)
    (h : ∀ slot, s.row? slot = t.row? slot) : s = t := by
  have hrow (table : TableName) (key : Key) := h ⟨table, key⟩
  obtain ⟨accounts, members, plans, subscriptions, workspaceMembers, commands, others⟩ := s
  obtain ⟨accounts', members', plans', subscriptions', workspaceMembers', commands', others'⟩ := t
  obtain rfl : accounts = accounts' := Table.eq_of_find? hs.accounts ht.accounts fun key =>
    Option.map_injective (fun _ _ => StoredRow.account.inj) (hrow .accounts key)
  obtain rfl : members = members' := Table.eq_of_find? hs.members ht.members fun key =>
    Option.map_injective (fun _ _ => StoredRow.member.inj) (hrow .members key)
  obtain rfl : plans = plans' := Table.eq_of_find? hs.plans ht.plans fun key =>
    Option.map_injective (fun _ _ => StoredRow.plan.inj) (hrow .plans key)
  obtain rfl : subscriptions = subscriptions' :=
    Table.eq_of_find? hs.subscriptions ht.subscriptions fun key =>
      Option.map_injective (fun _ _ => StoredRow.subscription.inj) (hrow .subscriptions key)
  obtain rfl : workspaceMembers = workspaceMembers' :=
    Table.eq_of_find? hs.workspaceMembers ht.workspaceMembers fun key =>
      Option.map_injective (fun _ _ => StoredRow.workspaceMember.inj) (hrow .workspaceMembers key)
  obtain rfl : commands = commands' := Table.eq_of_find? hs.commands ht.commands fun key =>
    Option.map_injective (fun _ _ => StoredRow.command.inj) (hrow .commands key)
  obtain rfl : others = others' := hothers
  rfl

end Store

/-! ## Writes -/

namespace Write

/-- The slot that a write is about; a change of a command that is not named is about none. -/
def slot? : Write → Option RowSlot
  | createAccount a => some ⟨.accounts, [.text a.id]⟩
  | addMember m => some ⟨.members, [.text m.account, .text m.user]⟩
  | createPlan p => some ⟨.plans, [.text p.id]⟩
  | addSubscription v | updateSubscription v => some ⟨.subscriptions, [.text v.id]⟩
  | removeSubscription id => some ⟨.subscriptions, [.text id]⟩
  | createCommand c => some ⟨.commands, [.text c.id]⟩
  | updateCommand u => u.id.map fun id => ⟨.commands, [.text id]⟩
  | removeCommand id => some ⟨.commands, [.text id]⟩
  | addWorkspaceMember m => some ⟨.workspaceMembers, [.text m.workspace, .text m.user]⟩

end Write

namespace Store

variable {s t : Store} {w : Write}

/-- Whether there is a plan with an id. -/
def hasPlan (s : Store) (id : String) : Bool := s.plans.hasKey [.text id]

/-- Whether there is a command with an id. -/
def hasCommand (s : Store) (id : String) : Bool := s.commands.hasKey [.text id]

/-- What a write that is not refused leaves in its slot. A change of a command leaves what was there
with the parts of the change. -/
def leaves (s : Store) : Write → Option StoredRow
  | .createAccount a => some (.account (.ofAccount a))
  | .addMember m => some (.member (.ofMember m))
  | .createPlan p => some (.plan (.ofPlan p))
  | .addSubscription v | .updateSubscription v => some (.subscription (.ofSubscription v))
  | .removeSubscription _ | .removeCommand _ => none
  | .createCommand c => some (.command (.ofCommand c))
  | .updateCommand u => u.id.bind fun id =>
    (s.command id).toOption.map fun c => .command (.ofCommand (c.apply u))
  | .addWorkspaceMember m => some (.workspaceMember (.ofMember m))

/-- What a write can be refused for. -/
def refusals (s : Store) : Write → List Refusal
  | .createAccount a => [⟨s.hasAccount a.id = true, .accountExists a.id, .conflict, rfl⟩]
  | .addMember m =>
    [⟨s.hasAccount m.account = false, .accountNotFound m.account, .notFound, rfl⟩]
  | .createPlan p => [⟨s.hasPlan p.id = true, .planExists p.id, .conflict, rfl⟩]
  | .addSubscription v =>
    [⟨s.hasAccount v.account = false, .accountNotFound v.account, .notFound, rfl⟩,
      ⟨s.Contested v ∨ s.hasSubscription v.id = true,
        .alreadySubscribed v.account v.service, .conflict, rfl⟩]
  | .updateSubscription v =>
    [⟨s.hasSubscription v.id = false, .subscriptionNotFound v.id, .notFound, rfl⟩,
      ⟨s.Contested v, .alreadySubscribed v.account v.service, .conflict, rfl⟩,
      ⟨s.hasAccount v.account = false, .database .foreignKey, .database, rfl⟩]
  | .removeSubscription id =>
    [⟨s.hasSubscription id = false, .subscriptionNotFound id, .notFound, rfl⟩]
  | .createCommand c => [⟨s.hasCommand c.id = true, .commandExists c.id, .conflict, rfl⟩]
  | .updateCommand u =>
    match u.id with
    | none => [⟨True, .partRequired "Command id", .conflict, rfl⟩]
    | some id => [⟨s.hasCommand id = false, .commandNotFound id, .notFound, rfl⟩]
  | .removeCommand id => [⟨s.hasCommand id = false, .commandNotFound id, .notFound, rfl⟩]
  | .addWorkspaceMember _ => []

/-- What a write that is not refused makes of a store. -/
structure Settles (s : Store) (w : Write) (t : Store) : Prop where
  others : t.others = s.others
  row? : ∀ slot, t.row? slot = if w.slot? = some slot then s.leaves w else s.row? slot

/-- A write settles when one table has what it leaves and the others are as they were. -/
theorem settles_of_sets {ρ : Type} [Row ρ] {T U : Table ρ} {wrap : ρ → StoredRow}
    {table : TableName} {key : Key} {row : Option ρ} (hset : T.Sets key row U)
    (hslot : w.slot? = some ⟨table, key⟩) (hleaves : s.leaves w = row.map wrap)
    (hothers : t.others = s.others)
    (hown : ∀ other, s.row? ⟨table, other⟩ = (T.find? other).map wrap ∧
      t.row? ⟨table, other⟩ = (U.find? other).map wrap)
    (hbeside : ∀ beside other, beside ≠ table → t.row? ⟨beside, other⟩ = s.row? ⟨beside, other⟩) :
    Settles s w t := by
  refine ⟨hothers, fun ⟨beside, other⟩ => ?_⟩
  rw [hslot, hleaves]
  by_cases htable : beside = table
  · subst htable
    rw [(hown other).1, (hown other).2, hset other]
    by_cases hkey : other = key
    · simp [hkey]
    · simp [hkey, Ne.symm hkey]
  · rw [hbeside beside other htable, if_neg (by simp [Ne.symm htable])]

theorem settles_subscriptions {U : Table SubscriptionRow} {key : Key} {row : Option SubscriptionRow}
    (hset : s.subscriptions.Sets key row U) (hslot : w.slot? = some ⟨.subscriptions, key⟩)
    (hleaves : s.leaves w = row.map .subscription) :
    Settles s w { s with subscriptions := U } :=
  settles_of_sets hset hslot hleaves rfl (fun _ => ⟨rfl, rfl⟩) fun beside _ h => by
    cases beside <;> first | rfl | exact absurd rfl h

theorem settles_commands {U : Table CommandRow} {key : Key} {row : Option CommandRow}
    (hset : s.commands.Sets key row U) (hslot : w.slot? = some ⟨.commands, key⟩)
    (hleaves : s.leaves w = row.map .command) : Settles s w { s with commands := U } :=
  settles_of_sets hset hslot hleaves rfl (fun _ => ⟨rfl, rfl⟩) fun beside _ h => by
    cases beside <;> first | rfl | exact absurd rfl h

/-! ### How writes end -/

/-- A row of a new key is taken in, one of a key that is taken is refused. -/
theorem create_ends {ρ : Type} [Row ρ] {T : Table ρ} {row : ρ} {refusal : Refusal}
    (f : Table ρ → Store) (hm : T.layout = .made)
    (hkey : ∀ r ∈ T.rows, Row.order r = Row.order row → Row.key r = Row.key row)
    (hreason : refusal.reason ↔ T.hasKey (Row.key row) = true)
    (hwrite : s.write w = (T.insert? row).elim (.error refusal.failure) fun U => .ok (f U))
    (hsettles : ∀ U, T.Sets (Row.key row) (some row) U → s.Settles w (f U)) :
    s.Ends w (s.Settles w) [refusal] := by
  have htaken := Table.insert?_eq_none_iff hm hkey
  refine .cons (fun hyes => ?_) (fun hno => ?_) (by simp)
  · rw [hwrite, htaken.2 (hreason.1 hyes)]
    rfl
  · cases hT : T.insert? row with
    | none => exact absurd (hreason.2 (htaken.1 hT)) hno
    | some U =>
      rw [hT] at hwrite
      exact .nil hwrite (hsettles U ((Table.insert?_some hT).sets hm))

/-- What is there is taken away, what is not there is refused. -/
theorem remove_ends {ρ : Type} [Row ρ] {T : Table ρ} {key : Key} {refusal : Refusal}
    {emptied : Store} (hm : T.layout = .made) (hreason : refusal.reason ↔ T.hasKey key = false)
    (hwrite : s.write w = if T.hasKey key then .ok emptied else .error refusal.failure)
    (hsettles : T.Sets key none (T.erase key) → s.Settles w emptied) :
    s.Ends w (s.Settles w) [refusal] := by
  refine .cons (fun hyes => ?_) (fun hno => ?_) (by simp)
  · rw [hwrite, hreason.1 hyes]
    rfl
  · have hthere : T.hasKey key = true := by simpa using mt hreason.2 hno
    rw [if_pos hthere] at hwrite
    exact .nil hwrite (hsettles (Table.sets_erase hm key))

/-- A write that ends in one way ends in every way that this way implies. -/
theorem Ends.mono {done done' : Store → Prop} {refusals : List Refusal}
    (h : s.Ends w done refusals) (hdone : s.write w = .ok (s.next (.call w)) →
      done (s.next (.call w)) → done' (s.next (.call w))) : s.Ends w done' refusals := by
  induction refusals with
  | nil => exact ⟨h.1, hdone h.1 h.2⟩
  | cons first rest ih =>
    obtain ⟨hfirst, hkept, hrest⟩ := h
    exact ⟨hfirst, hkept, fun hno => ih (hrest hno)⟩

section

variable (hs : Written s)
include hs

theorem Written.createAccount_ends (a : Account) :
    s.Ends (.createAccount a) (s.Settles (.createAccount a)) (s.refusals (.createAccount a)) := by
  refine create_ends (fun accounts => { s with accounts }) hs.made.accounts (fun r hr => ?_) Iff.rfl
    ?_ fun U hU => settles_of_sets hU rfl rfl rfl (fun _ => ⟨rfl, rfl⟩) fun beside _ h => by
      cases beside <;> first | rfl | exact absurd rfl h
  · obtain ⟨b, rfl⟩ := hs.account r hr
    exact key_of_order (a := [b.id]) (b := [a.id]) rfl rfl
  · show s.createAccount a = _
    unfold createAccount
    rw [Table.filling_made hs.made.accounts, ok_bind]
    cases s.accounts.insert? (.ofAccount a) <;> rfl

theorem Written.createPlan_ends (p : Plan) :
    s.Ends (.createPlan p) (s.Settles (.createPlan p)) (s.refusals (.createPlan p)) := by
  refine create_ends (fun plans => { s with plans }) hs.made.plans (fun r hr => ?_) Iff.rfl
    ?_ fun U hU => settles_of_sets hU rfl rfl rfl (fun _ => ⟨rfl, rfl⟩) fun beside _ h => by
      cases beside <;> first | rfl | exact absurd rfl h
  · obtain ⟨q, rfl⟩ := hs.plan r hr
    exact key_of_order (a := [q.id]) (b := [p.id]) rfl rfl
  · show s.createPlan p = _
    unfold createPlan
    rw [Table.filling_made hs.made.plans, ok_bind]
    cases s.plans.insert? (.ofPlan p) <;> rfl

theorem Written.createCommand_ends (c : Command) :
    s.Ends (.createCommand c) (s.Settles (.createCommand c)) (s.refusals (.createCommand c)) := by
  refine create_ends (fun commands => { s with commands }) hs.made.commands (fun r hr => ?_) Iff.rfl
    ?_ fun U hU => settles_commands hU rfl rfl
  · obtain ⟨d, rfl⟩ := hs.command r hr
    exact key_of_order (a := [d.id]) (b := [c.id]) rfl rfl
  · show s.createCommand c = _
    unfold createCommand
    rw [Table.filling_made hs.made.commands, ok_bind]
    cases s.commands.insert? (.ofCommand c) <;> rfl

theorem Written.addMember_ends (m : Member) :
    s.Ends (.addMember m) (s.Settles (.addMember m)) (s.refusals (.addMember m)) := by
  have hkey : ∀ r ∈ s.members.rows, Row.order r = Row.order (MemberRow.ofMember m) →
      Row.key r = Row.key (MemberRow.ofMember m) := by
    intro r hr
    obtain ⟨n, rfl, -⟩ := hs.member r hr
    exact key_of_order (a := [n.account, n.user]) (b := [m.account, m.user]) rfl rfl
  refine .cons (fun hmissing => ?_) (fun hthere => ?_) (by simp)
  · show s.addMember m = _
    unfold addMember
    rw [hs.account_missing hmissing]
    rfl
  · have haccount : s.hasAccount m.account = true := by simpa using hthere
    obtain ⟨t, ht⟩ := hs.addMember_succeeds haccount
    obtain ⟨-, rfl⟩ := addMember_ok ht
    exact .nil ht (settles_of_sets (Table.sets_put hs.made.members hkey) rfl rfl rfl
      (fun _ => ⟨rfl, rfl⟩) fun beside _ h => by cases beside <;> first | rfl | exact absurd rfl h)

theorem Written.settles_workspaceMember (m : WorkspaceMember) :
    s.Settles (.addWorkspaceMember m)
      { s with workspaceMembers := s.workspaceMembers.put (.ofMember m) } := by
  have hkey : ∀ r ∈ s.workspaceMembers.rows, Row.order r = Row.order (WorkspaceMemberRow.ofMember m)
      → Row.key r = Row.key (WorkspaceMemberRow.ofMember m) := by
    intro r hr
    obtain ⟨n, rfl⟩ := hs.workspaceMember r hr
    exact key_of_order (a := [n.workspace, n.user]) (b := [m.workspace, m.user]) rfl rfl
  exact settles_of_sets (Table.sets_put hs.made.workspaceMembers hkey) rfl rfl rfl
    (fun _ => ⟨rfl, rfl⟩) fun beside _ h => by cases beside <;> first | rfl | exact absurd rfl h

theorem Written.removeCommand_ends (id : String) :
    s.Ends (.removeCommand id) (s.Settles (.removeCommand id))
      (s.refusals (.removeCommand id)) := by
  refine remove_ends hs.made.commands Iff.rfl ?_ fun h => settles_commands h rfl rfl
  show s.removeCommand id = _
  unfold removeCommand
  rw [Table.naming_made hs.made.commands]
  rfl

/-- A changed command is written over the row that it has. -/
theorem Written.sets_updated {c : Command} (hc : s.command c.id = .ok c) (u : CommandUpdate) :
    s.commands.Sets [.text c.id] (some (.ofCommand (c.apply u)))
      (s.commands.modify (fun row => row.updated (c.apply u))
        (CommandRow.key_updated (c.apply u))) := by
  intro other
  rw [Table.find?_modify]
  split
  · next hother =>
    subst hother
    obtain ⟨row, -, hfind, -, hread⟩ := Store.command_found hc
    obtain ⟨d, rfl⟩ := hs.command row (Table.find?_mem hfind).1
    rw [CommandRow.command_ofCommand] at hread
    obtain rfl := Except.ok.inj hread
    rw [hfind]
    exact congrArg some (if_pos rfl)
  · next hother =>
    cases hfind : s.commands.find? other with
    | none => rfl
    | some row =>
      have hid : row.id ≠ .text (c.apply u).id := fun hid =>
        hother ((Table.find?_mem hfind).2.symm.trans (congrArg (fun cell => [cell]) hid))
      exact congrArg some (if_neg hid)

theorem Written.updateCommand_ends (u : CommandUpdate) :
    s.Ends (.updateCommand u) (s.Settles (.updateCommand u)) (s.refusals (.updateCommand u)) := by
  cases hu : u.id with
  | none =>
    have hwrite : s.write (.updateCommand u) = .error (.partRequired "Command id") := by
      show s.updateCommand u = _
      unfold updateCommand
      rw [hu]
    simp only [refusals, hu]
    exact .cons (fun _ => hwrite) (fun hno => absurd trivial hno) (by simp)
  | some id =>
    simp only [refusals, hu]
    refine .cons (fun hmissing => ?_) (fun hthere => ?_) (by simp)
    · show s.updateCommand u = _
      have hfind : s.commands.find? [.text id] = none := Table.find?_eq_none.2 hmissing
      have hcommand : s.command id = .error (.commandNotFound id) := by
        unfold Store.command
        rw [Table.naming_made hs.made.commands, hfind]
        rfl
      unfold updateCommand
      rw [hu]
      simp only [hcommand, error_bind]
    · have hid : s.commands.hasKey [.text id] = true := by simpa [hasCommand] using hthere
      obtain ⟨row, hrow, hkey⟩ := Table.hasKey_iff.1 hid
      obtain ⟨c, rfl⟩ := hs.command row hrow
      obtain rfl : c.id = id := by simpa [Row.key, CommandRow.ofCommand] using hkey
      have hc := hs.command_of_row hrow
      refine .nil (updateCommand_eq hc hu) (settles_commands (hs.sets_updated hc u) ?_ ?_)
      · simp [Write.slot?, hu]
      · simp [leaves, hu, hc, Except.toOption]

/-- What rewrites the subscription of an id sets the slot of the id. -/
theorem Written.settles_rewritten {id : String} {v : Option Subscription} (hw : s.write w = .ok t)
    (h : s.Rewritten id v t) (hslot : w.slot? = some ⟨.subscriptions, [.text id]⟩)
    (hleaves : s.leaves w = (v.map .ofSubscription).map .subscription)
    (hid : ∀ u ∈ v, u.id = id) : s.Settles w t := by
  have hmade := (layouts_write hw).made hs.made
  have hset : s.subscriptions.Sets [.text id] (v.map .ofSubscription) t.subscriptions := by
    refine Table.sets_of_mem hs.made.subscriptions hmade.subscriptions (fun r hr => ?_) fun r => ?_
    · obtain ⟨u, hu, rfl⟩ := Option.map_eq_some_iff.1 hr
      exact SubscriptionRow.key_eq_iff.2 (congrArg Cell.text (hid u hu))
    · rw [ne_eq, SubscriptionRow.key_eq_iff, Option.mem_def, Option.map_eq_some_iff]
      by_cases hrid : r.id = .text id
      · rw [h.own r hrid]
        simp [hrid, @eq_comm _ r]
      · rw [h.others r hrid]
        refine ⟨fun hr => Or.inr ⟨hr, hrid⟩, ?_⟩
        rintro (⟨u, hu, rfl⟩ | ⟨hr, -⟩)
        · exact absurd (congrArg Cell.text (hid u hu)) hrid
        · exact hr
  rw [h.tables]
  exact settles_subscriptions hset hslot hleaves

/-- **How the ten writes end**: refused for the first reason that there is, or with their slot
set. -/
theorem Written.write_ends (w : Write) : s.Ends w (s.Settles w) (s.refusals w) := by
  cases w with
  | createAccount a => exact hs.createAccount_ends a
  | addMember m => exact hs.addMember_ends m
  | createPlan p => exact hs.createPlan_ends p
  | addSubscription v =>
    exact hs.addSubscription_ends.mono fun hw h => hs.settles_rewritten hw h rfl rfl (by simp)
  | updateSubscription v =>
    exact (hs.made.updateSubscription_ends v).mono fun hw h =>
      hs.settles_rewritten hw h rfl rfl (by simp)
  | removeSubscription id =>
    exact (hs.removeSubscription_ends id).mono fun hw h =>
      hs.settles_rewritten hw h rfl rfl (by simp)
  | createCommand c => exact hs.createCommand_ends c
  | updateCommand u => exact hs.updateCommand_ends u
  | removeCommand id => exact hs.removeCommand_ends id
  | addWorkspaceMember m =>
    have hends := hs.addWorkspaceMember_ends m
    exact hends.mono fun _ h => h ▸ hs.settles_workspaceMember m

end

end Store

end CloudIde
