import CloudIde.Proofs.Failures
import CloudIde.Proofs.Order
import CloudIde.Proofs.WorkspaceRoles
import CloudIde.Proofs.WriteOutcomes

/-!
# What memberships are

A membership is read in several ways: by the account, by the user, and as the roles of the user in
the account. It is written in one way, over the one before it. `memberships_follow` says what all of
these make of it: whatever calls there were, a user has in an account what the last membership that
was added for them there gives, and every way of reading shows this one, once, in its place.

The calls that have succeeded are the measure (`Store.succeeding`). A table **records** a list of
values when its rows are those of the last value of each key (`Table.Records`), which is kept when a
row is put into it and the value is added to the list. Both tables of memberships record what the
calls have added to them.
-/

namespace CloudIde

/-! ## Tables that record -/

/-- The last of some values that satisfies `p`. -/
def lastOf {ι : Type} (log : List ι) (p : ι → Bool) : Option ι := log.reverse.find? p

theorem lastOf_append {ι : Type} (log : List ι) (w : ι) (p : ι → Bool) :
    lastOf (log ++ [w]) p = if p w then some w else lastOf log p := by
  unfold lastOf
  rw [List.reverse_concat, List.find?_cons]
  cases p w <;> rfl

theorem lastOf_satisfies {ι : Type} {log : List ι} {w : ι} {p : ι → Bool}
    (h : lastOf log p = some w) : p w = true := List.find?_some h

/-- Different values that are one or none are those of an option. -/
theorem eq_toList_of_nodup {ι : Type} {ws : List ι} {o : Option ι} (hws : ws.Nodup)
    (h : ∀ w, w ∈ ws ↔ o = some w) : ws = o.toList := by
  cases o with
  | none => exact List.eq_nil_iff_forall_not_mem.2 fun w hw => absurd ((h w).1 hw) (by simp)
  | some v =>
    have hperm : ws.Perm [v] := by
      refine (List.perm_ext_iff_of_nodup hws (by simp)).2 fun w => ?_
      rw [h w, List.mem_singleton, Option.some.injEq, eq_comm]
    exact List.perm_singleton.1 hperm

section

variable {ι ρ : Type} [Row ρ] {t : Table ρ} {f : ι → ρ} {log : List ι}

/-- The rows of a table are those of the last one of each key among some values. -/
def Table.Records (t : Table ρ) (f : ι → ρ) (log : List ι) : Prop :=
  ∀ row, row ∈ t.rows ↔
    ∃ w, row = f w ∧ lastOf log (fun v => Row.order (f v) = Row.order (f w)) = some w

theorem Table.records_empty (f : ι → ρ) : (Table.empty .made : Table ρ).Records f [] := by
  intro row
  refine iff_of_false List.not_mem_nil ?_
  rintro ⟨w, -, hlast⟩
  exact absurd hlast (by simp [lastOf])

/-- A row that is put into a table is recorded over the one of its key. -/
theorem Table.Records.put (hm : t.layout = .made) (h : t.Records f log) (w : ι) :
    (t.put (f w)).Records f (log ++ [w]) := by
  intro row
  rw [mem_put hm, h row]
  constructor
  · rintro (rfl | ⟨⟨v, rfl, hlast⟩, hother⟩)
    · exact ⟨w, rfl, by simp [lastOf_append]⟩
    · refine ⟨v, rfl, ?_⟩
      rw [lastOf_append, if_neg (by simpa using Ne.symm hother), hlast]
  · rintro ⟨v, rfl, hlast⟩
    rw [lastOf_append] at hlast
    by_cases hsame : Row.order (f w) = Row.order (f v)
    · rw [if_pos (by simpa using hsame)] at hlast
      exact Or.inl (congrArg f (Option.some.inj hlast).symm)
    · rw [if_neg (by simpa using hsame)] at hlast
      exact Or.inr ⟨⟨v, rfl, hlast⟩, Ne.symm hsame⟩

/-- A row is put into a table, or it is not. -/
theorem Table.Records.elim (hm : t.layout = .made) (h : t.Records f log) (o : Option ι) :
    (o.elim t fun w => t.put (f w)).Records f (log ++ o.toList) := by
  cases o with
  | none => simpa using h
  | some w => exact h.put hm w

/-- What a list has that is made of the values of one name: for each label that there is the value
that `last` gives, in the order of the bytes of the labels. -/
structure Entries (name label : ι → String) (of : String) (last : String → Option ι)
    (ws : List ι) : Prop where
  named : ∀ w ∈ ws, name w = of
  once : ∀ other, ws.filter (fun w => label w = other) = (last other).toList
  ascending : ws.Pairwise fun v w => Bytes.ofText (label v) < Bytes.ofText (label w)

variable {name label : ι → String} {of : String} {last : String → Option ι} {ws : List ι}

theorem Entries.nodup (h : Entries name label of last ws) : ws.Nodup := by
  refine h.ascending.imp ?_
  rintro v w hlt rfl
  exact List.lt_irrefl _ hlt

/-- The entry of a label is the value that is the last one. -/
theorem Entries.entry_iff (h : Entries name label of last ws) {other : String} {w : ι} :
    w ∈ ws ∧ label w = other ↔ last other = some w := by
  rw [← Option.mem_toList, ← h.once, List.mem_filter, decide_eq_true_eq]

/-- The entry of a label is found. -/
theorem Entries.find (h : Entries name label of last ws) (other : String) :
    (ws.find? fun w => label w = other) = last other := by
  rw [← List.head?_filter, h.once]
  exact Option.head?_toList

/-- A row is in the table when its value is the last one of its key. -/
theorem Table.Records.mem_iff (h : t.Records f log) (hf : f.Injective) (w : ι) :
    f w ∈ t.rows ↔ lastOf log (fun v => Row.order (f v) = Row.order (f w)) = some w := by
  rw [h (f w)]
  refine ⟨?_, fun hlast => ⟨w, rfl, hlast⟩⟩
  rintro ⟨v, hvw, hlast⟩
  rwa [← hf hvw] at hlast

/-- What a table records is selected: the values that are the last ones of their keys. -/
theorem Table.Records.selected (hm : t.layout = .made) (h : t.Records f log) (hf : f.Injective)
    (p : ρ → Bool) (order : ρ → List Cell) :
    ∃ ws : List ι, t.select p order = ws.map f ∧
      (∀ w, w ∈ ws ↔
        lastOf log (fun v => Row.order (f v) = Row.order (f w)) = some w ∧ p (f w) = true) ∧
      ws.Pairwise fun v w => Cell.listLe (order (f v)) (order (f w)) = true ∧
        Row.order (f v) ≠ Row.order (f w) := by
  have hrows : ∀ row ∈ t.rows, ∃ w, row = f w := fun row hrow => by
    obtain ⟨w, rfl, -⟩ := (h row).1 hrow
    exact ⟨w, rfl⟩
  obtain ⟨ws, hws, hsorted⟩ := Table.select_map hm hrows p order
  have hstored (w : ι) : w ∈ ws ↔ f w ∈ t.rows ∧ p (f w) = true := by
    have hselected : f w ∈ t.select p order ↔ f w ∈ t.rows ∧ p (f w) = true := Table.mem_select
    rwa [hws, List.mem_map_of_injective hf] at hselected
  refine ⟨ws, hws, fun w => ?_, hsorted.imp_of_mem fun {v w} hv hw ⟨hle, hne⟩ => ⟨hle, ?_⟩⟩
  · rw [hstored, h.mem_iff hf]
  · exact Table.order_ne hm ((hstored v).1 hv).1 ((hstored w).1 hw).1 fun hsame =>
      hne (congrArg Row.key hsame)

/-- What a table records is listed: the values of one name, in the order of their labels. -/
theorem Table.Records.entries {α : Type} [Wire α] {read : ρ → Except DatabaseFault (Unread α ι)}
    (hm : t.layout = .made) (h : t.Records f log) (hread : ∀ w, readOne read (f w) = .ok w)
    (hkey : ∀ v w, Row.order (f v) = Row.order (f w) ↔ name v = name w ∧ label v = label w)
    {p : ρ → Bool} (hp : ∀ w, p (f w) = true ↔ name w = of) {cell : ρ → Cell}
    (hcell : ∀ w, cell (f w) = .text (label w)) :
    ∃ ws, readAll read (t.select p fun row => [cell row]) = .ok ws ∧ Entries name label of
      (fun other => lastOf log fun v => name v = of ∧ label v = other) ws := by
  have hf : f.Injective := fun v w hvw => by
    have hv := hread v
    rw [hvw, hread w] at hv
    exact (Except.ok.inj hv).symm
  obtain ⟨ws, hws, hmem, hsorted⟩ := h.selected hm hf p fun row => [cell row]
  simp only [hkey, hp, hcell] at hmem hsorted
  have hnamed : ∀ w ∈ ws, name w = of := fun w hw => ((hmem w).1 hw).2
  have hascending : ws.Pairwise fun v w => label v < label w := by
    refine hsorted.imp_of_mem fun {v w} hv hw ⟨hle, hne⟩ => Cell.listLe_text hle fun hlabel => ?_
    exact hne ((hkey v w).2 ⟨(hnamed v hv).trans (hnamed w hw).symm, hlabel⟩)
  have hnodup : ws.Nodup := by
    refine hascending.imp ?_
    rintro v w hlt rfl
    exact String.lt_irrefl _ hlt
  refine ⟨ws, ?_, hnamed, fun other => eq_toList_of_nodup (hnodup.filter _) fun w => ?_,
    hascending.imp Bytes.ofText_lt_ofText.2⟩
  · rw [hws, readAll_map (g := id) fun w _ => hread w, List.map_id]
  · rw [List.mem_filter, decide_eq_true_eq, hmem w]
    constructor
    · rintro ⟨⟨hlast, rfl⟩, rfl⟩
      exact hlast
    · intro hlast
      obtain ⟨rfl, rfl⟩ : name w = of ∧ label w = other := by simpa using lastOf_satisfies hlast
      exact ⟨⟨hlast, rfl⟩, rfl⟩

end

/-! ## What calls have added -/

/-- The account that a call makes. -/
def Write.account? : Write → Option Account
  | .createAccount a => some a
  | _ => none

/-- The membership of an account that a call adds. -/
def Write.member? : Write → Option Member
  | .addMember m => some m
  | _ => none

/-- The membership of a workspace that a call adds. -/
def Write.workspaceMember? : Write → Option WorkspaceMember
  | .addWorkspaceMember m => some m
  | _ => none

/-- The last membership of a user in an account that some calls add. -/
def lastMember (log : List Write) (account user : String) : Option Member :=
  lastOf (log.filterMap Write.member?) fun m => m.account = account ∧ m.user = user

/-- The last membership of a user in a workspace that some calls add. -/
def lastWorkspaceMember (log : List Write) (workspace user : String) : Option WorkspaceMember :=
  lastOf (log.filterMap Write.workspaceMember?) fun m => m.workspace = workspace ∧ m.user = user

/-- Some calls make an account with an id. -/
def MakesAccount (log : List Write) (id : String) : Prop :=
  ∃ a ∈ log.filterMap Write.account?, a.id = id

theorem RoleSet.ofList_eq_empty {names : List String} : ofList names = empty ↔ names = [] := by
  constructor
  · intro h
    refine List.eq_nil_iff_forall_not_mem.2 fun name hname => ?_
    have hrole : name ∈ ofList names := mem_ofList.2 hname
    rw [h] at hrole
    exact not_mem_empty hrole
  · rintro rfl
    rfl

namespace Store

variable {s t : Store} {log : List Write}

/-- The calls among some that succeed, one after the other. -/
def succeeding (s : Store) : List Write → List Write
  | [] => []
  | w :: rest =>
    match s.write w with
    | .ok t => w :: succeeding t rest
    | .error _ => succeeding s rest

theorem succeeding_of_ok {w : Write} (hw : s.write w = .ok t) (rest : List Write) :
    s.succeeding (w :: rest) = w :: t.succeeding rest := by
  rw [succeeding, hw]

theorem succeeding_of_error {w : Write} {f : Failure} (hw : s.write w = .error f)
    (rest : List Write) : s.succeeding (w :: rest) = s.succeeding rest := by
  rw [succeeding, hw]

/-- What a call makes of the accounts and the memberships. -/
theorem write_recorded {w : Write} (hw : s.write w = .ok t) :
    (∀ id, t.hasAccount id = true ↔ s.hasAccount id = true ∨ ∃ a ∈ w.account?, a.id = id) ∧
      t.members = w.member?.elim s.members (fun m => s.members.put (.ofMember m)) ∧
      t.workspaceMembers = w.workspaceMember?.elim s.workspaceMembers
        (fun m => s.workspaceMembers.put (.ofMember m)) := by
  have hnone (id : String) : s.hasAccount id = true ↔
      s.hasAccount id = true ∨ ∃ a ∈ (none : Option Account), a.id = id := by simp
  cases w with
  | createAccount a =>
    obtain ⟨T, hT, rfl⟩ := createAccount_ok hw
    refine ⟨fun id => ?_, rfl, rfl⟩
    unfold hasAccount
    rw [hT.hasKey_iff, or_comm]
    simp [Write.account?, Row.key, AccountRow.ofAccount]
  | addMember m => obtain ⟨-, rfl⟩ := addMember_ok hw; exact ⟨hnone, rfl, rfl⟩
  | addWorkspaceMember m => cases addWorkspaceMember_ok hw; exact ⟨hnone, rfl, rfl⟩
  | createPlan p => obtain ⟨T, -, rfl⟩ := createPlan_ok hw; exact ⟨hnone, rfl, rfl⟩
  | addSubscription v =>
    obtain ⟨T, -, rfl⟩ := (insertSubscription_ok (addSubscription_ok hw)).only
    exact ⟨hnone, rfl, rfl⟩
  | updateSubscription v =>
    obtain ⟨-, -, -, rfl⟩ := updateSubscription_ok hw
    exact ⟨hnone, rfl, rfl⟩
  | removeSubscription id => cases removeSubscription_ok hw; exact ⟨hnone, rfl, rfl⟩
  | createCommand c => obtain ⟨T, -, rfl⟩ := createCommand_ok hw; exact ⟨hnone, rfl, rfl⟩
  | updateCommand u =>
    obtain ⟨id, c, -, -, rfl⟩ := updateCommand_ok hw
    exact ⟨hnone, rfl, rfl⟩
  | removeCommand id => cases removeCommand_ok hw; exact ⟨hnone, rfl, rfl⟩

/-- The store has what some calls have made of the accounts and the memberships. -/
structure Recorded (s : Store) (log : List Write) : Prop where
  account : ∀ id, s.hasAccount id = true ↔ MakesAccount log id
  member : s.members.Records .ofMember (log.filterMap Write.member?)
  workspaceMember : s.workspaceMembers.Records .ofMember (log.filterMap Write.workspaceMember?)

theorem recorded_empty : Recorded empty [] where
  account id := by
    refine iff_of_false (fun hid => ?_) fun ⟨_, ha, _⟩ => absurd ha List.not_mem_nil
    obtain ⟨row, hrow, -⟩ := hasAccount_iff.1 hid
    exact absurd hrow List.not_mem_nil
  member := Table.records_empty _
  workspaceMember := Table.records_empty _

/-- A call that succeeds is recorded. -/
theorem Recorded.write (hs : Written s) (h : Recorded s log) {w : Write}
    (hw : s.write w = .ok t) : Recorded t (log ++ [w]) := by
  obtain ⟨haccount, hmembers, hworkspaceMembers⟩ := write_recorded hw
  constructor
  case account =>
    intro id
    rw [haccount, h.account]
    simp [MakesAccount, or_and_right, exists_or]
  case member =>
    rw [hmembers, List.filterMap_append]
    exact h.member.elim hs.made.members w.member?
  case workspaceMember =>
    rw [hworkspaceMembers, List.filterMap_append]
    exact h.workspaceMember.elim hs.made.workspaceMembers w.workspaceMember?

/-- A run is recorded. -/
theorem Recorded.run (hs : Written s) (h : Recorded s log) (calls : List Write) :
    Recorded (s.run (calls.map .call)) (log ++ s.succeeding calls) := by
  induction calls generalizing s log with
  | nil => simpa [succeeding, Store.run] using h
  | cons w rest ih =>
    rw [List.map_cons, Store.run, List.foldl_cons]
    cases hw : s.write w with
    | error f =>
      rw [next_of_error hw, succeeding_of_error hw]
      exact ih hs h
    | ok t =>
      rw [next_of_ok hw, succeeding_of_ok hw, List.append_cons]
      exact ih (written_write hs hw) (h.write hs hw)

/-! ## What is read -/

/-- The members of accounts as they are read, compared with what calls have added. -/
structure MembersFollow (s : Store) (log : List Write) : Prop where
  /-- The roles are those of the last membership. -/
  roles : ∀ account user, s.accountRoles account user
    = .ok ((lastMember log account user).elim .empty fun m => .ofList m.roles)
  /-- The members of an account, in the order of the users. -/
  members : ∀ account, ∃ ms, s.membersOf account = .ok ms ∧
    Entries Member.account Member.user account (lastMember log account) ms
  /-- The memberships of a user, in the order of the accounts. -/
  memberships : ∀ user, ∃ ms, s.memberships user = .ok ms ∧
    Entries Member.user Member.account user (fun account => lastMember log account user) ms
  /-- Both are views of one relation, and show a membership once. -/
  views : ∀ (m : Member) (ms ns : List Member), s.membersOf m.account = .ok ms →
    s.memberships m.user = .ok ns → ms.count m = ns.count m ∧ ms.count m ≤ 1
  /-- A member is added if and only if the account is there. -/
  added : ∀ m : Member, s.Ends (.addMember m)
    (fun t => t = { s with members := s.members.put (.ofMember m) })
    [⟨¬ MakesAccount log m.account, .accountNotFound m.account, .notFound, rfl⟩]

/-- The members of workspaces as they are read, compared with what calls have added. -/
structure WorkspaceMembersFollow (s : Store) (log : List Write) : Prop where
  /-- The members of a workspace, in the order of the users. -/
  members : ∀ workspace, ∃ ms, s.workspaceMembersOf workspace = .ok ms ∧
    Entries WorkspaceMember.workspace WorkspaceMember.user workspace
      (lastWorkspaceMember log workspace) ms
  /-- The roles are those of the entry among the members. -/
  roles : ∀ (workspace user : String) (ms : List WorkspaceMember),
    s.workspaceMembersOf workspace = .ok ms → s.workspaceRoles workspace user
      = .ok ((ms.find? fun m => m.user = user).elim .empty fun m => .ofList m.roles)
  /-- There are no roles when there is no entry, or one without roles. -/
  noRoles : ∀ (workspace user : String) (ms : List WorkspaceMember),
    s.workspaceMembersOf workspace = .ok ms → (s.workspaceRoles workspace user = .ok .empty ↔
      (∀ m ∈ ms, m.user ≠ user) ∨ ∃ m ∈ ms, m.user = user ∧ m.roles = [])
  /-- A member is always added. -/
  added : ∀ m : WorkspaceMember, s.Ends (.addWorkspaceMember m)
    (fun t => t = { s with workspaceMembers := s.workspaceMembers.put (.ofMember m) }) []

theorem Recorded.membersOf (hs : Written s) (h : Recorded s log) (account : String) :
    ∃ ms, s.membersOf account = .ok ms ∧
      Entries Member.account Member.user account (lastMember log account) ms := by
  unfold Store.membersOf
  rw [Table.naming_made hs.made.members, ok_bind]
  refine h.member.entries hs.made.members MemberRow.readOne_ofMember (fun v w => ?_) (fun w => ?_)
    fun _ => rfl
  · simp [Row.order, Row.key, MemberRow.ofMember, Cell.spelling]
  · simp [MemberRow.ofMember]

theorem Recorded.memberships (hs : Written s) (h : Recorded s log) (user : String) :
    ∃ ms, s.memberships user = .ok ms ∧
      Entries Member.user Member.account user (fun account => lastMember log account user) ms := by
  unfold Store.memberships lastMember
  rw [Table.naming_made hs.made.members, ok_bind]
  simp only [and_comm (b := _ = user)]
  refine h.member.entries hs.made.members MemberRow.readOne_ofMember (fun v w => ?_) (fun w => ?_)
    fun _ => rfl
  · simp [Row.order, Row.key, MemberRow.ofMember, Cell.spelling, and_comm]
  · simp [MemberRow.ofMember]

theorem Recorded.workspaceMembersOf (hs : Written s) (h : Recorded s log) (workspace : String) :
    ∃ ms, s.workspaceMembersOf workspace = .ok ms ∧
      Entries WorkspaceMember.workspace WorkspaceMember.user workspace
        (lastWorkspaceMember log workspace) ms := by
  unfold Store.workspaceMembersOf
  rw [Table.naming_made hs.made.workspaceMembers, ok_bind]
  refine h.workspaceMember.entries hs.made.workspaceMembers WorkspaceMemberRow.readOne_ofMember
    (fun v w => ?_) (fun w => ?_) fun _ => rfl
  · simp [Row.order, Row.key, WorkspaceMemberRow.ofMember, Cell.spelling]
  · simp [WorkspaceMemberRow.ofMember]

theorem Recorded.accountRoles (hs : Written s) (h : Recorded s log) (account user : String) :
    s.accountRoles account user
      = .ok ((lastMember log account user).elim .empty fun m => .ofList m.roles) := by
  obtain ⟨ms, hms, hentries⟩ := h.memberships hs user
  unfold Store.accountRoles
  rw [hms, ok_bind, hentries.find account]
  cases lastMember log account user <;> rfl

theorem Recorded.workspaceRoles (hs : Written s) (h : Recorded s log) (workspace user : String) :
    s.workspaceRoles workspace user
      = .ok ((lastWorkspaceMember log workspace user).elim .empty fun m => .ofList m.roles) := by
  have hrow (m : WorkspaceMember) : .ofMember m ∈ s.workspaceMembers.rows ↔
      lastWorkspaceMember log m.workspace m.user = some m := by
    rw [h.workspaceMember.mem_iff fun _ _ => WorkspaceMemberRow.ofMember_inj]
    simp [lastWorkspaceMember, Row.order, Row.key, WorkspaceMemberRow.ofMember, Cell.spelling]
  unfold Store.workspaceRoles
  rw [Table.naming_made hs.made.workspaceMembers, ok_bind]
  cases hlast : lastWorkspaceMember log workspace user with
  | some m =>
    obtain ⟨rfl, rfl⟩ : m.workspace = workspace ∧ m.user = user := by
      simpa using lastOf_satisfies hlast
    have hfind : s.workspaceMembers.find? [.text m.workspace, .text m.user] = some (.ofMember m) :=
      Table.find?_eq hs.made.workspaceMembers ((hrow m).2 hlast) rfl
    rw [hfind]
    exact WorkspaceMemberRow.readOne_readRoles m
  | none =>
    have hfind : s.workspaceMembers.find? [.text workspace, .text user] = none := by
      refine Option.eq_none_iff_forall_not_mem.2 fun row hfind => ?_
      obtain ⟨hmem, hkey⟩ := Table.find?_mem hfind
      obtain ⟨m, rfl⟩ := hs.workspaceMember row hmem
      obtain ⟨rfl, rfl⟩ : m.workspace = workspace ∧ m.user = user := by
        simpa [Row.key, WorkspaceMemberRow.ofMember] using hkey
      exact absurd (hlast.symm.trans ((hrow m).1 hmem)) (by simp)
    rw [hfind]
    rfl

theorem Recorded.addMember (hs : Written s) (h : Recorded s log) (m : Member) :
    s.Ends (.addMember m) (fun t => t = { s with members := s.members.put (.ofMember m) })
      [⟨¬ MakesAccount log m.account, .accountNotFound m.account, .notFound, rfl⟩] := by
  refine Ends.cons (fun hnone => ?_) (fun hthere => ?_) (by simp)
  · have hno : s.hasAccount m.account = false := by
      rw [← Bool.not_eq_true, h.account]
      exact hnone
    show s.addMember m = _
    unfold Store.addMember
    rw [hs.account_missing hno]
    rfl
  · obtain ⟨t, ht⟩ := hs.addMember_succeeds ((h.account _).2 (not_not.1 hthere))
    exact Ends.nil ht (addMember_ok ht).2

theorem Written.addWorkspaceMember_ends (hs : Written s) (m : WorkspaceMember) :
    s.Ends (.addWorkspaceMember m)
      (fun t => t = { s with workspaceMembers := s.workspaceMembers.put (.ofMember m) }) [] := by
  refine Ends.nil ?_ rfl
  show s.addWorkspaceMember m = _
  unfold Store.addWorkspaceMember
  rw [Table.filling_made hs.made.workspaceMembers]
  rfl

theorem Recorded.membersFollow (hs : Written s) (h : Recorded s log) : MembersFollow s log where
  roles := h.accountRoles hs
  members := h.membersOf hs
  memberships := h.memberships hs
  views := by
    intro m ms ns hms hns
    obtain ⟨ms', hms', hentries⟩ := h.membersOf hs m.account
    obtain ⟨ns', hns', hentries'⟩ := h.memberships hs m.user
    obtain rfl := Except.ok.inj (hms.symm.trans hms')
    obtain rfl := Except.ok.inj (hns.symm.trans hns')
    have hsame : m ∈ ms ↔ m ∈ ns :=
      calc m ∈ ms
        _ ↔ m ∈ ms ∧ m.user = m.user := (and_iff_left rfl).symm
        _ ↔ lastMember log m.account m.user = some m := hentries.entry_iff
        _ ↔ m ∈ ns ∧ m.account = m.account := hentries'.entry_iff.symm
        _ ↔ m ∈ ns := and_iff_left rfl
    rw [hentries.nodup.count, hentries'.nodup.count]
    simp only [hsame, true_and]
    split <;> simp
  added := h.addMember hs

theorem Recorded.workspaceMembersFollow (hs : Written s) (h : Recorded s log) :
    WorkspaceMembersFollow s log := by
  have hroles (workspace user : String) (ms : List WorkspaceMember)
      (hms : s.workspaceMembersOf workspace = .ok ms) : s.workspaceRoles workspace user
        = .ok ((ms.find? fun m => m.user = user).elim .empty fun m => .ofList m.roles) := by
    obtain ⟨ms', hms', hentries⟩ := h.workspaceMembersOf hs workspace
    obtain rfl := Except.ok.inj (hms.symm.trans hms')
    rw [hentries.find, h.workspaceRoles hs]
  refine ⟨h.workspaceMembersOf hs, hroles, fun workspace user ms hms => ?_,
    hs.addWorkspaceMember_ends⟩
  obtain ⟨ms', hms', hentries⟩ := h.workspaceMembersOf hs workspace
  obtain rfl := Except.ok.inj (hms.symm.trans hms')
  rw [h.workspaceRoles hs, Except.ok.injEq]
  cases hlast : lastWorkspaceMember log workspace user with
  | none =>
    refine iff_of_true rfl (Or.inl fun m hm huser => ?_)
    exact absurd (hlast.symm.trans (hentries.entry_iff.1 ⟨hm, huser⟩)) (by simp)
  | some m =>
    obtain ⟨hm, huser⟩ := hentries.entry_iff.2 hlast
    show RoleSet.ofList m.roles = .empty ↔ _
    rw [RoleSet.ofList_eq_empty]
    constructor
    · exact fun hnone => Or.inr ⟨m, hm, huser, hnone⟩
    · rintro (hnobody | ⟨n, hn, huser', hnone⟩)
      · exact absurd huser (hnobody m hm)
      · have hsame := hlast.symm.trans (hentries.entry_iff.1 ⟨hn, huser'⟩)
        rwa [Option.some.inj hsame]

/-- **Memberships are what was added last.** After any calls, and measured by those that have
succeeded:

* the roles of a user in an account are those of the last membership that was added for them there,
  and none when there was none;
* the members of an account and the memberships of a user are two views of one relation, which has
  the last membership of each user in each account; both are complete, show nothing twice, and are
  in the order of the other party;
* a member can be added if and only if the account has been made, and is looked for in vain
  otherwise, with nothing changed;
* all of this holds of workspaces, to which members can always be added. The roles of a user there
  are those of their entry, so that there are none if and only if there is no entry or one that
  gives no roles. -/
theorem memberships_follow (calls : List Write) :
    MembersFollow (empty.run (calls.map .call)) (empty.succeeding calls) ∧
      WorkspaceMembersFollow (empty.run (calls.map .call)) (empty.succeeding calls) := by
  have hwritten : Written (empty.run (calls.map .call)) := written_run written_empty _
  have hrecorded : Recorded (empty.run (calls.map .call)) (empty.succeeding calls) :=
    recorded_empty.run written_empty calls
  exact ⟨hrecorded.membersFollow hwritten, hrecorded.workspaceMembersFollow hwritten⟩

/-- Somebody becomes a member of a workspace without any roles. -/
def withoutRoles : Store := empty.run [.call (.addWorkspaceMember ⟨"shop", "ann", []⟩)]

/-- Who has no roles in a workspace can be a member of it. -/
theorem member_without_roles :
    withoutRoles.workspaceMembersOf "shop" = .ok [⟨"shop", "ann", []⟩] ∧
      withoutRoles.workspaceRoles "shop" "ann" = .ok .empty := by
  decide +kernel

end Store

end CloudIde
