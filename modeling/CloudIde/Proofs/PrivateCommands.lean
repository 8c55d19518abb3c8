import CloudIde.Proofs.CallHistory
import CloudIde.Proofs.Unseen

/-!
# Commands that a user does not see

A private command is shown to the user who made it and to nobody else, be they privileged or not.
Here it is shown that it does not show otherwise either. Let two stores hold the same but for
private commands that others have made: in either store there are such commands of the same ids, and
nothing else of them need be the same. Whatever a user asks for, in any order and with any roles,
they get the same responses from both stores, and the stores at the end differ in nothing else again
(`private_hidden`).

A privileged user can take such a command away, and knows no more of it then: the row of its id goes
from both stores. Nobody changes the command of another, and an update changes the rows of an id. So
the ids of commands have to keep the rows of a user apart from those of others, which they do in a
table that was made.
-/

namespace CloudIde

/-- A command that a user does not see: a private one that somebody else has made. -/
def Command.HiddenFrom (c : Command) (user : String) : Prop :=
  c.visibility = .creatorOnly ∧ c.creator ≠ user

namespace Command.HiddenFrom

variable {c : Command} {caller : Caller} {user : String}

theorem not_visible (h : c.HiddenFrom user) : c.isVisibleTo user = false := by
  simp [isVisibleTo, h.1, h.2]

/-- Whoever removes it has to be privileged. -/
theorem mayRemove (h : c.HiddenFrom caller.user) : c.mayRemove caller = caller.isPrivileged := by
  simp [Command.mayRemove, h.2]

theorem not_seen (h : c.HiddenFrom user) : (CommandRow.ofCommand c).isSeenBy user = false := by
  simp [CommandRow.isSeenBy, CommandRow.ofCommand, h.1, h.2, Visibility.text]

end Command.HiddenFrom

/-- Rows that are the same, or of commands of one id that are both hidden from a user. -/
def CommandRow.SameShown (user : String) (a b : CommandRow) : Prop :=
  a = b ∨ ∃ c d, a = .ofCommand c ∧ b = .ofCommand d ∧ c.id = d.id ∧ c.HiddenFrom user
    ∧ d.HiddenFrom user

theorem CommandRow.SameShown.key_eq {user : String} {a b : CommandRow} (h : SameShown user a b) :
    Row.key a = Row.key b := by
  rcases h with rfl | ⟨c, d, rfl, rfl, hid, -⟩
  · rfl
  · show [Cell.text c.id] = [Cell.text d.id]
    rw [hid]

namespace Http

open Store

/-- Two stores that are the same but for commands that a user does not see. -/
abbrev SameShown (user : String) : Store → Store → Prop := RowByRow Eq (CommandRow.SameShown user)

variable {ctx : Context} {s t : Store} {caller : Caller} {user : String}

/-- A command that is found has the id that it was looked for by. -/
theorem command_id {id : String} {c : Command} (hc : s.command id = .ok c) : c.id = id := by
  obtain ⟨_, _, hc⟩ := bind_eq_ok.1 hc
  split at hc
  · next row hrow =>
    have hcell : row.id = .text id := by simpa [Row.key] using (Table.find?_mem hrow).2
    obtain ⟨id', hid', hc⟩ := bind_eq_ok.1 (mapError_eq_ok.1 hc)
    rw [hcell, Cell.readText_text] at hid'
    cases hid'
    -- the other cells may hold what they will
    obtain ⟨_, _, hc⟩ := bind_eq_ok.1 hc
    obtain ⟨_, _, hc⟩ := bind_eq_ok.1 hc
    obtain ⟨_, _, hc⟩ := bind_eq_ok.1 hc
    obtain ⟨_, _, hc⟩ := bind_eq_ok.1 hc
    obtain ⟨_, _, hc⟩ := bind_eq_ok.1 hc
    obtain ⟨_, _, hc⟩ := bind_eq_ok.1 hc
    obtain ⟨_, _, hc⟩ := bind_eq_ok.1 hc
    cases hc
    rfl
  · exact absurd hc (by simp)

/-! ## Looks -/

section

variable (h : SameShown user s t)
include h

/-- A command that is looked for is the same in both stores, or hidden in both. -/
theorem command_sameShown (id : String) :
    Matches (fun c d => c = d ∨ c.HiddenFrom user ∧ d.HiddenFrom user)
      (s.command id) (t.command id) := by
  refine bind_matches (h.commands.naming_eq _) fun _ _ => ?_
  have hfind := h.commands.find? (fun _ _ => CommandRow.SameShown.key_eq) [.text id]
  generalize s.commands.find? [.text id] = x at hfind ⊢
  generalize t.commands.find? [.text id] = y at hfind ⊢
  cases hfind with
  | none => exact .error _
  | some hab =>
    rcases hab with rfl | ⟨c, d, rfl, rfl, -, hc, hd⟩
    · refine .refl ?_ _
      exact fun _ => Or.inl rfl
    · simp only [CommandRow.command_ofCommand, mapError_ok]
      exact .ok (Or.inr ⟨hc, hd⟩)

theorem visibleCommands_sameShown (workspace : String) :
    s.visibleCommands workspace user = t.visibleCommands workspace user := by
  have hselect (order : CommandRow → List Cell) :
      s.commands.select (fun row => row.workspace = .text workspace && row.isSeenBy user) order
        = t.commands.select (fun row => row.workspace = .text workspace && row.isSeenBy user)
          order := by
    unfold Table.select
    rw [filter_eq_of_forall₂ h.commands.rows fun a b hab => ?_]
    rcases hab with rfl | ⟨c, d, rfl, rfl, -, hc, hd⟩
    · exact Or.inl rfl
    · exact Or.inr ⟨by simp [hc.not_seen], by simp [hd.not_seen]⟩
  unfold visibleCommands
  rw [hselect]
  exact bind_eq_bind (h.commands.naming_eq _) fun _ _ => rfl

/-! ## Commands that are made and removed -/

theorem store_createCommand_sameShown (c : Command) :
    Matches (SameShown user) (s.createCommand c) (t.createCommand c) := by
  refine bind_matches (h.commands.filling_eq _) fun _ _ => ?_
  have hinsert := h.commands.insert? (fun _ _ => CommandRow.SameShown.key_eq)
    (Or.inl (Eq.refl (CommandRow.ofCommand c)))
  generalize s.commands.insert? _ = x at hinsert ⊢
  generalize t.commands.insert? _ = y at hinsert ⊢
  cases hinsert with
  | none => exact .error _
  | some hrows => exact .ok { h with commands := hrows }

theorem store_removeCommand_sameShown (id : String) :
    Matches (SameShown user) (s.removeCommand id) (t.removeCommand id) := by
  refine bind_matches (h.commands.naming_eq _) fun _ _ => ?_
  rw [h.commands.hasKey_eq (fun _ _ => CommandRow.SameShown.key_eq)]
  split
  · exact .ok { h with
      commands := h.commands.erase (fun _ _ => CommandRow.SameShown.key_eq) _ }
  · exact .error _

/-! ## Commands of the user -/

/-- A command of the user is in one row, which is in both stores. -/
theorem find?_own {id : String} {c : Command} (hc : s.command id = .ok c)
    (hown : c.creator = user) :
    ∃ row, s.commands.find? [.text id] = some row ∧ t.commands.find? [.text id] = some row ∧
      row.command = .ok c := by
  obtain ⟨_, _, hc⟩ := bind_eq_ok.1 hc
  have hfind := h.commands.find? (fun _ _ => CommandRow.SameShown.key_eq) [.text id]
  generalize s.commands.find? [.text id] = x at hfind hc ⊢
  generalize t.commands.find? [.text id] = y at hfind ⊢
  cases hfind with
  | none => exact absurd hc (by simp)
  | @some a b hab =>
    have hread : a.command = .ok c := mapError_eq_ok.1 hc
    rcases hab with rfl | ⟨c', _, rfl, -, -, hhidden, -⟩
    · exact ⟨a, rfl, rfl, hread⟩
    · rw [CommandRow.command_ofCommand] at hread
      obtain rfl := Except.ok.inj hread
      exact absurd hown hhidden.2

/-- The command is the same in both stores. -/
theorem command_own {id : String} {c : Command} (hc : s.command id = .ok c)
    (hown : c.creator = user) : t.command id = .ok c := by
  have hmatch := command_sameShown h id
  rw [hc] at hmatch
  generalize t.command id = y at hmatch ⊢
  cases hmatch with
  | ok hcd =>
    rcases hcd with rfl | ⟨hhidden, -⟩
    · rfl
    · exact absurd hown hhidden.2

/-- A command of the user has its id for itself. -/
theorem id_own (hmade : s.commands.layout = .made) {id : String} {c : Command}
    (hc : s.command id = .ok c) (hown : c.creator = user) {d : Command}
    (hd : CommandRow.ofCommand d ∈ s.commands.rows) (hhidden : d.HiddenFrom user) : d.id ≠ id := by
  rintro rfl
  obtain ⟨row, hrow, -, hread⟩ := find?_own h hc hown
  obtain ⟨hmem, hkey⟩ := Table.find?_mem hrow
  rw [Table.eq_of_key hmade hmem hd hkey, CommandRow.command_ofCommand] at hread
  obtain rfl := Except.ok.inj hread
  exact hhidden.2 hown

/-- Changing a command of the user leaves all commands that are hidden. -/
theorem store_updateCommand_sameShown (hmade : s.commands.layout = .made) {id : String}
    {c : Command} (hc : s.command id = .ok c) (hown : c.creator = user) {u : CommandUpdate}
    (hid : u.id = some id) :
    Matches (SameShown user) (s.updateCommand u) (t.updateCommand u) := by
  have hcid : c.id = id := command_id hc
  unfold updateCommand
  rw [hid]
  simp only [hc, command_own h hc hown, ok_bind]
  refine bind_matches (h.commands.naming_eq _) fun _ _ => .ok { h with commands := ?_ }
  refine h.commands.modify (CommandRow.key_updated _) fun a ha b hab => ?_
  rcases hab with rfl | ⟨d, e, rfl, rfl, hde, hd, he⟩
  · exact Or.inl rfl
  · have hne : d.id ≠ id := id_own h hmade hc hown ha hd
    have hleft {d : Command} (hne : d.id ≠ id) :
        (CommandRow.ofCommand d).updated (c.apply u) = .ofCommand d := by
      refine if_neg fun heq => hne ?_
      rw [← hcid]
      exact Cell.text.inj heq
    rw [hleft hne, hleft (hde ▸ hne)]
    exact Or.inr ⟨d, e, rfl, rfl, hde, hd, he⟩

/-- It is the same in both stores afterwards. -/
theorem command_updated_sameShown {id : String} {c : Command} (hc : s.command id = .ok c)
    (hown : c.creator = user) {u : CommandUpdate} (hid : u.id = some id) {s' t' : Store}
    (hs' : s.updateCommand u = .ok s') (ht' : t.updateCommand u = .ok t') :
    s'.command id = t'.command id := by
  obtain ⟨row, hrow, hrow', -⟩ := find?_own h hc hown
  obtain ⟨id₁, c₁, hid₁, hc₁, rfl⟩ := updateCommand_ok hs'
  obtain ⟨id₂, c₂, hid₂, hc₂, rfl⟩ := updateCommand_ok ht'
  obtain rfl : id = id₁ := Option.some.inj (hid.symm.trans hid₁)
  obtain rfl : id = id₂ := Option.some.inj (hid.symm.trans hid₂)
  obtain rfl : c = c₁ := Except.ok.inj (hc.symm.trans hc₁)
  obtain rfl : c = c₂ := Except.ok.inj ((command_own h hc hown).symm.trans hc₂)
  have hfind {T : Table CommandRow} (hT : T.find? [.text id] = some row) :
      (T.modify (fun r => r.updated (c.apply u)) (CommandRow.key_updated _)).find? [.text id]
        = some (row.updated (c.apply u)) := by
    rw [Table.find?_modify, hT]
    rfl
  unfold command
  simp only [hfind hrow, hfind hrow']
  exact bind_eq_bind (h.commands.naming_eq _) fun _ _ => rfl

end

/-! ## Operations -/

section

variable (h : SameShown caller.user s t)
include h

theorem changing_sameShown (body : Bytes) :
    Platform.changing s caller body = Platform.changing t caller body := by
  refine changing_eq (fun id => (command_sameShown h id).mono fun c d hcd => ?_) body
  rcases hcd with rfl | ⟨hc, hd⟩
  · exact Iff.rfl
  · exact iff_of_false hc.2 hd.2

theorem showCommand_sameShown (id : String) :
    Agree (SameShown caller.user) (.shown s .command (Platform.command ctx s caller id))
      (.shown t .command (Platform.command ctx t caller id)) := by
  refine .shown h (bind_eq_bind rfl fun _ _ => ?_)
  refine Matches.eq ((command_sameShown h id).bind fun c d hcd => ?_)
  rcases hcd with rfl | ⟨hc, hd⟩
  · exact .refl (fun _ => rfl) _
  · simp only [hc.not_visible, hd.not_visible]
    exact .error _

theorem createCommand_sameShown (workspace : String) (body : Bytes) :
    Agree (SameShown caller.user)
      (.made .command (Platform.createCommand ctx s caller workspace body))
      (.made .command (Platform.createCommand ctx t caller workspace body)) :=
  createCommand_agree h (rowByRow_workspaces.workspaceRoles_eq h workspace caller.user)
    (store_createCommand_sameShown h) body

theorem updateCommand_sameShown (hmade : s.commands.layout = .made) (body : Bytes) :
    Agree (SameShown caller.user) (.done .command (Platform.updateCommand ctx s caller body))
      (.done .command (Platform.updateCommand ctx t caller body)) := by
  refine updateCommand_agree h (changing_sameShown h body) fun update id hchanging => ?_
  obtain ⟨c, hc⟩ := changing_ok hchanging
  refine (store_updateCommand_sameShown h hmade hc.found hc.own hc.named).and fun u v hu hv => ?_
  exact command_updated_sameShown h hc.found hc.own hc.named hu hv

theorem removeCommand_sameShown (id : String) :
    Agree (SameShown caller.user) (.removed (Platform.removeCommand s caller id))
      (.removed (Platform.removeCommand t caller id)) := by
  refine removeCommand_agree h ((command_sameShown h id).mono fun c d hcd => ?_)
    (store_removeCommand_sameShown h id)
  rcases hcd with rfl | ⟨hc, hd⟩
  · rfl
  · rw [hc.mayRemove, hd.mayRemove]

/-- **Every operation says the same and leaves what is hidden.** -/
theorem perform_sameShown (hmade : s.commands.layout = .made) (op : Operation) :
    Agree (SameShown caller.user) (op.perform ctx s caller) (op.perform ctx t caller) := by
  have hrest {op : Operation} (hop : op.onCommands = false) :=
    perform_unseen variants_same (unseen_same ctx caller) h hop
  cases op with
  | createCommand workspace body => exact createCommand_sameShown h workspace body
  | showCommand id => exact showCommand_sameShown h id
  | updateCommand body => exact updateCommand_sameShown h hmade body
  | removeCommand id => exact removeCommand_sameShown h id
  | listCommands workspace =>
    exact .shown h (bind_eq_bind (visibleCommands_sameShown h workspace) fun _ _ => rfl)
  | _ => exact hrest rfl

end

/-- A request by a user, or by nobody. -/
def Request.From (r : Request) (user : String) : Prop :=
  ∀ caller, Caller.ofHeaders r.headers = .ok caller → caller.user = user

theorem respond_sameShown (hmade : s.commands.layout = .made) (h : SameShown user s t) {r : Request}
    (hr : r.From user) : Agree (SameShown user) (respond ctx s r) (respond ctx t r) := by
  refine respond_agree h fun d hd => ?_
  obtain ⟨_, _, hasks⟩ := Request.demand_ok hd
  obtain rfl := hr d.caller hasks.caller
  exact perform_sameShown h hmade d.operation

/-- The table of commands stays one that was made. -/
theorem respond_commands_made (hmade : s.commands.layout = .made) (r : Request) :
    (respond ctx s r).store.commands.layout = .made :=
  (respond_leads ctx s r).keeps (P := fun s => s.commands.layout = .made)
    (fun hmade hw => (layouts_write hw).commands.trans hmade) hmade

/-- **Private commands do not show to others than those who made them**, whatever roles these have.
From two stores that are the same but for private commands of others, the requests of a user get the
same responses, and leave stores that are the same but for them. -/
theorem private_hidden {h : History} (hfrom : ∀ e ∈ h, e.2.From user) {s t : Store}
    (hmade : s.commands.layout = .made) (hst : SameShown user s t) :
    h.responses s = h.responses t ∧ SameShown user (h.store s) (h.store t) := by
  have hrun := History.agree (R := fun s t => s.commands.layout = .made ∧ SameShown user s t)
    (h := h) (fun e he s t hst => ?_) ⟨hmade, hst⟩
  · exact ⟨hrun.1, hrun.2.2⟩
  · have hagree : Agree (SameShown user) (respond e.1 _ e.2) (respond e.1 _ e.2) :=
      respond_sameShown hst.1 hst.2 (hfrom e he)
    exact ⟨hagree.response, respond_commands_made hst.1 e.2, hagree.stores⟩

/-- A store that holds one command. -/
def keeping (c : Command) : Store :=
  { Store.empty with
    commands := ⟨.made, [.ofCommand c], fun _ => List.pairwise_singleton ..⟩ }

/-- A private command. -/
def bobsBuild : Command := ⟨"build", "Build", "make", "bob", "shop", .creatorOnly, none, none⟩

/-- Another one of the same id. -/
def evesBuild : Command :=
  ⟨"build", "Deploy", "make deploy", "eve", "lab", .creatorOnly, some "make", none⟩

theorem keeping_sameShown : SameShown "root" (keeping bobsBuild) (keeping evesBuild) where
  accounts := rfl
  members := rfl
  plans := rfl
  subscriptions := .of_same (fun _ => rfl) _
  workspaceMembers := rfl
  commands := by
    refine ⟨rfl, .cons (Or.inr ⟨bobsBuild, evesBuild, rfl, rfl, rfl, ?_, ?_⟩) .nil⟩
    · exact ⟨rfl, by decide⟩
    · exact ⟨rfl, by decide⟩
  others := rfl

/-- An administrator asks for the command, lists the commands of its workspace, tries to change the
command and removes it. -/
def adminsVisit : History :=
  [("GET", "/api/command/build", ""), ("GET", "/api/command/shop/all", ""),
    ("PUT", "/api/command", "\x7b\"id\":\"build\",\"name\":\"Test\"\x7d"),
    ("DELETE", "/api/command/build", "")].map fun (method, path, body) =>
      (mailOnly, administering method path body)

/-- The administrator does not see what the command is, or whose. -/
theorem private_hidden_keeping :
    (adminsVisit.responses (keeping bobsBuild)).map Response.status = [403, 200, 403, 204] ∧
      adminsVisit.responses (keeping bobsBuild) = adminsVisit.responses (keeping evesBuild) ∧
        SameShown "root" (adminsVisit.store (keeping bobsBuild))
          (adminsVisit.store (keeping evesBuild)) := by
  have hfrom : ∀ e ∈ adminsVisit, e.2.From "root" := by
    intro e he
    obtain ⟨_, -, rfl⟩ := List.mem_map.1 he
    intro caller hcaller
    obtain rfl : ⟨"root", RoleSet.ofList [Role.systemAdmin]⟩ = caller := Except.ok.inj hcaller
    rfl
  refine ⟨by decide +kernel, ?_⟩
  exact private_hidden hfrom rfl keeping_sameShown

end Http

end CloudIde
