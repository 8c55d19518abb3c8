import CloudIde.Proofs.CallHistory
import CloudIde.Proofs.CommandChange
import CloudIde.Proofs.WorkspaceRoles

/-!
# Whose the commands are

A command belongs to the user who made it, in the workspace for which it was made, and this never
changes. The creator changes its other parts; the creator and privileged callers remove it; nobody
else touches it. Who makes one has a role in the workspace. Along any run a command has a name, a
command line and a creator, though a request for a command and a request to change one are checked
in different ways: the first must have both texts, the second may leave them out, but not empty.

`commands_owned` puts this together with what `respond_workspaceMembers` says of the memberships on
which the roles in workspaces rest.
-/

namespace CloudIde

/-- A text is not blank that has a character other than white space. -/
def NotBlank (text : String) : Prop := ∃ c ∈ text.toList, isBlank c = false

/-- Trimming leaves nothing or a text that is not blank. -/
theorem notBlank_of_trim {text : String} (h : (trim text).isEmpty = false) :
    NotBlank (trim text) := by
  have hchars : (trim text).toList = trimChars text.toList := String.toList_ofList
  have hleft : ((text.toList.dropWhile isBlank).reverse.dropWhile isBlank) ≠ [] := by
    intro hnone
    have hempty : trim text = "" := by
      simp [trim, trimChars, trimEndChars, hnone]
    rw [hempty] at h
    exact absurd h (by decide)
  -- the last character that is left is where the trimming of the end has stopped
  refine ⟨_, ?_, List.head_dropWhile_not isBlank hleft⟩
  rw [hchars]
  exact List.mem_reverse.2 (List.head_mem hleft)

theorem Caller.user_notBlank {headers : Headers} {caller : Caller}
    (h : Caller.ofHeaders headers = .ok caller) : NotBlank caller.user := by
  unfold ofHeaders at h
  split at h
  · exact absurd h (by simp)
  · next user huser =>
    split at h
    · exact absurd h (by simp)
    · next hsome =>
      cases h
      obtain ⟨text, -, rfl⟩ := Option.map_eq_some_iff.1 huser
      exact notBlank_of_trim (Bool.eq_false_iff.2 hsome)

/-- What every stored command has. -/
structure Command.Proper (c : Command) : Prop where
  name : c.name ≠ ""
  commandLine : c.commandLine ≠ ""
  creator : NotBlank c.creator

/-- A part that an update has or leaves out is not empty when neither is. -/
theorem getD_ne_empty {new : Option String} {old : String} (hold : old ≠ "")
    (hnew : new ≠ some "") : new.getD old ≠ "" := by
  cases new with
  | none => exact hold
  | some text => exact fun hempty => hnew (congrArg some hempty)

/-- An update without empty texts keeps it. -/
theorem Command.Proper.apply {c : Command} (h : c.Proper) {u : CommandUpdate}
    (hname : u.name ≠ some "") (hline : u.commandLine ≠ some "") : (c.apply u).Proper :=
  ⟨getD_ne_empty h.name hname, getD_ne_empty h.commandLine hline, h.creator⟩

namespace Store

/-- All commands of a store are proper. -/
def ProperCommands (s : Store) : Prop :=
  ∀ row ∈ s.commands.rows, ∃ c, row = .ofCommand c ∧ c.Proper

theorem properCommands_empty : ProperCommands empty := by
  intro row hrow
  exact absurd hrow List.not_mem_nil

theorem ProperCommands.proper {s : Store} (h : ProperCommands s) {c : Command}
    (hc : .ofCommand c ∈ s.commands.rows) : c.Proper := by
  obtain ⟨d, hsame, hd⟩ := h _ hc
  rw [CommandRow.ofCommand_inj hsame]
  exact hd

/-- No command has an id that is free. -/
theorem not_mem_of_free {T : Table CommandRow} {c : Command}
    (hfree : T.hasKey [.text c.id] = false) : .ofCommand c ∉ T.rows := by
  intro hc
  have hthere : T.hasKey [.text c.id] = true := Table.hasKey_iff.2 ⟨_, hc, rfl⟩
  exact absurd (hthere.symm.trans hfree) (by simp)

end Store

namespace Http

open Store Platform

/-- A request that makes a command: its sender has a role in the workspace that the path names, and
is the creator. -/
structure Makes (s : Store) (r : Request) (c : Command) (caller : Caller) : Prop where
  sent : Caller.ofHeaders r.headers = .ok caller
  posted : r.method = "POST"
  path : ∃ raw, Resource.ofPath? r.path = some (.command raw) ∧
    Request.parameter "id" raw = .ok c.workspace
  may : ∃ role ∈ Role.workspace,
    caller.hasRole role = true ∨ s.GivesIn c.workspace caller.user role
  creator : c.creator = caller.user

/-- A request of its creator that changes a command into another. -/
structure Alters (r : Request) (c c' : Command) (caller : Caller) (update : CommandUpdate) :
    Prop where
  sent : Caller.ofHeaders r.headers = .ok caller
  put : r.method = "PUT"
  path : Resource.ofPath? r.path = some .commands
  body : Body.optional CommandUpdate r.body = .ok (some update)
  id : update.id = some c.id
  role : caller.hasRole Role.user = true
  own : c.creator = caller.user
  applied : c' = c.apply update

/-- A request that removes a command. The path names the command where it names the workspace when a
command is made. -/
structure Removes (r : Request) (c : Command) (caller : Caller) : Prop where
  sent : Caller.ofHeaders r.headers = .ok caller
  deleted : r.method = "DELETE"
  path : ∃ raw, Resource.ofPath? r.path = some (.command raw) ∧
    Request.parameter "id" raw = .ok c.id
  role : ∃ role ∈ Role.platform, caller.hasRole role = true
  may : c.creator = caller.user ∨ caller.isPrivileged = true

/-- What a request may do to commands: `t` is the store after it, `s` the one before. -/
structure CommandsOwned (s : Store) (r : Request) (t : Store) : Prop where
  /-- A command is of the same creator and workspace as before, and changed by its creator if it is
  changed. -/
  kept : ∀ c c', .ofCommand c ∈ s.commands.rows → .ofCommand c' ∈ t.commands.rows → c'.id = c.id →
    c'.creator = c.creator ∧ c'.workspace = c.workspace ∧
      (c' = c ∨ ∃ caller update, Alters r c c' caller update)
  removed : ∀ c, .ofCommand c ∈ s.commands.rows → t.commands.hasKey [.text c.id] = false →
    ∃ caller, Removes r c caller
  made : ∀ c, .ofCommand c ∈ t.commands.rows → s.commands.hasKey [.text c.id] = false →
    ∃ caller, Makes s r c caller

variable {P : Context → Prop} {ctx : Context} {s t : Store} {caller : Caller}

theorem commandsOwned_same (hs : Written s) (r : Request) (hsame : t.commands = s.commands) :
    CommandsOwned s r t where
  kept c c' hc hc' hid := by
    rw [hsame] at hc'
    obtain rfl := hs.command_eq hc' hc hid
    exact ⟨rfl, rfl, Or.inl rfl⟩
  removed c hc hgone := by
    rw [hsame] at hgone
    exact absurd hc (not_mem_of_free hgone)
  made c hc hnew := by
    rw [hsame] at hc
    exact absurd hc (not_mem_of_free hnew)

theorem commandsOwned_made {r : Request} {c : Command} (hs : Written s)
    (hmakes : Makes s r c caller) (hfresh : s.commands.hasKey [.text c.id] = false)
    (hrows : ∀ row, row ∈ t.commands.rows ↔ row = .ofCommand c ∨ row ∈ s.commands.rows) :
    CommandsOwned s r t where
  kept d d' hd hd' hid := by
    rcases (hrows _).1 hd' with hnew | hold
    · -- the id of the new command was free
      obtain rfl := CommandRow.ofCommand_inj hnew
      rw [hid] at hfresh
      exact absurd hd (not_mem_of_free hfresh)
    · obtain rfl := hs.command_eq hold hd hid
      exact ⟨rfl, rfl, Or.inl rfl⟩
  removed d hd hgone := absurd ((hrows _).2 (Or.inr hd)) (not_mem_of_free hgone)
  made d hd hnew := by
    rcases (hrows _).1 hd with hsame | hold
    · obtain rfl := CommandRow.ofCommand_inj hsame
      exact ⟨caller, hmakes⟩
    · exact absurd hold (not_mem_of_free hnew)

theorem commandsOwned_changed {r : Request} {c : Command} {update : CommandUpdate} (hs : Written s)
    (hc : .ofCommand c ∈ s.commands.rows) (halters : Alters r c (c.apply update) caller update)
    (hrows : ∀ row, row ∈ t.commands.rows ↔
      row = .ofCommand (c.apply update) ∨ row ∈ s.commands.rows ∧ row.id ≠ .text c.id) :
    CommandsOwned s r t where
  kept d d' hd hd' hid := by
    rcases (hrows _).1 hd' with hnew | ⟨hold, -⟩
    · obtain rfl := CommandRow.ofCommand_inj hnew
      obtain rfl := hs.command_eq hc hd hid
      exact ⟨rfl, rfl, Or.inr ⟨caller, update, halters⟩⟩
    · obtain rfl := hs.command_eq hold hd hid
      exact ⟨rfl, rfl, Or.inl rfl⟩
  removed d hd hgone := by
    by_cases hid : d.id = c.id
    · -- the changed command has its id
      have hthere : (c.apply update).id = d.id := hid.symm
      rw [← hthere] at hgone
      exact absurd ((hrows _).2 (Or.inl rfl)) (not_mem_of_free hgone)
    · have hother : (CommandRow.ofCommand d).id ≠ .text c.id := mt Cell.text.inj hid
      exact absurd ((hrows _).2 (Or.inr ⟨hd, hother⟩)) (not_mem_of_free hgone)
  made d hd hnew := by
    rcases (hrows _).1 hd with hsame | ⟨hold, -⟩
    · obtain rfl := CommandRow.ofCommand_inj hsame
      exact absurd hc (not_mem_of_free hnew)
    · exact absurd hold (not_mem_of_free hnew)

theorem commandsOwned_removed {r : Request} {c : Command} (hs : Written s)
    (hc : .ofCommand c ∈ s.commands.rows) (hremoves : Removes r c caller)
    (hrows : ∀ row, row ∈ t.commands.rows ↔ row ∈ s.commands.rows ∧ row.id ≠ .text c.id) :
    CommandsOwned s r t where
  kept d d' hd hd' hid := by
    obtain rfl := hs.command_eq ((hrows _).1 hd').1 hd hid
    exact ⟨rfl, rfl, Or.inl rfl⟩
  removed d hd hgone := by
    by_cases hid : d.id = c.id
    · obtain rfl := hs.command_eq hd hc hid
      exact ⟨caller, hremoves⟩
    · have hother : (CommandRow.ofCommand d).id ≠ .text c.id := mt Cell.text.inj hid
      exact absurd ((hrows _).2 ⟨hd, hother⟩) (not_mem_of_free hgone)
  made d hd hnew := absurd ((hrows _).1 hd).1 (not_mem_of_free hnew)

/-- **What requests do to commands, their creators do**, or in the workspace those who have a role
there, or to remove them the privileged. -/
theorem respond_commands (ctx : Context) (hs : Written s) (hroles : WorkspaceRoles s)
    (r : Request) : CommandsOwned s r (respond ctx s r).store := by
  rcases respond_effect ctx s r with hsame | ⟨d, resource, method, reply, hasks, heffect, hstore⟩
  · exact commandsOwned_same hs r (by rw [hsame])
  have hasked := hasks.askedAt
  have hchange := heffect.commandChange hs
  rw [hstore]
  generalize d.operation = op, reply.store = t at hasked hchange
  cases hchange with
  | none hsame => exact commandsOwned_same hs r hsame
  | made hthere hrole hcreator _ _ hfresh hrows =>
    obtain ⟨rfl, -, raw, rfl, hid⟩ := hasked
    obtain ⟨role, hrole, hholds⟩ := hroles.holds hthere hrole
    have hmakes : Makes s r _ d.caller := {
      sent := hasks.caller
      posted := (hasks.named_eq (by decide)).1
      path := ⟨raw, hasks.path, hid⟩
      may := ⟨role, hrole, hholds.imp_right And.left⟩
      creator := hcreator }
    exact commandsOwned_made hs hmakes hfresh hrows
  | changed h hrows =>
    obtain ⟨rfl, rfl, rfl⟩ := hasked
    have halters : Alters r _ _ d.caller _ := {
      sent := hasks.caller
      put := (hasks.named_eq (by decide)).1
      path := hasks.path
      body := h.given
      id := h.id
      role := h.role
      own := h.own
      applied := rfl }
    exact commandsOwned_changed hs h.stored halters hrows
  | removed hrole hc hmay hrows =>
    obtain ⟨rfl, raw, rfl, hid⟩ := hasked
    have hremoves : Removes r _ d.caller := {
      sent := hasks.caller
      deleted := (hasks.named_eq (by decide)).1
      path := ⟨raw, hasks.path, hid⟩
      role := Caller.require_iff.1 hrole
      may := by simpa [Command.mayRemove] using hmay }
    exact commandsOwned_removed hs hc hremoves hrows

/-- Commands stay proper: what is written was checked, and a caller is not blank. -/
theorem CommandChange.properCommands {op : Operation} (h : CommandChange s caller op t)
    (hcaller : NotBlank caller.user) (hs : ProperCommands s) : ProperCommands t := by
  intro row hrow
  cases h with
  | none hsame =>
    rw [hsame] at hrow
    exact hs row hrow
  | @made c _ _ _ _ _ hcreator hname hline _ hrows =>
    rcases (hrows row).1 hrow with hnew | hold
    · exact ⟨c, hnew, hname, hline, hcreator ▸ hcaller⟩
    · exact hs row hold
  | changed h hrows =>
    rcases (hrows row).1 hrow with hnew | ⟨hold, -⟩
    · exact ⟨_, hnew, (hs.proper h.stored).apply h.name h.commandLine⟩
    · exact hs row hold
  | removed _ _ _ hrows => exact hs row ((hrows row).1 hrow).1

theorem Reached.properCommands (h : Reached P s) : ProperCommands s := by
  induction h with
  | empty => exact properCommands_empty
  | @next s h ctx _ r ih =>
    rcases respond_effect ctx s r with hsame | ⟨d, _, _, reply, hasks, heffect, hstore⟩
    · rw [hsame]
      exact ih
    · rw [hstore]
      exact (heffect.commandChange h.written).properCommands (Caller.user_notBlank hasks.caller) ih

/-- **Commands and memberships of workspaces have their owners**, in every store that requests have
made and under every further request. -/
theorem commands_owned (hs : Reached P s) (ctx : Context) (r : Request) :
    ProperCommands s ∧ WorkspaceRoles s ∧ CommandsOwned s r (respond ctx s r).store ∧
      (∀ m, .ofMember m ∈ (respond ctx s r).store.workspaceMembers.rows →
        .ofMember m ∈ s.workspaceMembers.rows ∨ ∃ caller, Appoints s r m caller) ∧
      ∀ m, .ofMember m ∈ s.workspaceMembers.rows →
        ∃ m', .ofMember m' ∈ (respond ctx s r).store.workspaceMembers.rows ∧
          m'.workspace = m.workspace ∧ m'.user = m.user := by
  have hroles := hs.workspaceRoles
  exact ⟨hs.properCommands, hroles, respond_commands ctx hs.written hroles r,
    respond_workspaceMembers hs.written hroles r⟩

/-- Ann is made a developer, and makes a command. -/
def annsWork : History :=
  [(mailOnly, administering "POST" "/api/workspace/shop/members"
      "\x7b\"userId\":\"ann\",\"roles\":[\"workspace/developer\"]\x7d"),
    (mailOnly, { leaving with
      method := "POST", path := "/api/command/shop"
      body := Bytes.ofText "\x7b\"name\":\"Build\",\"commandLine\":\"make\"\x7d" })]

theorem annsWork_reached : Reached (· = mailOnly) (annsWork.store .empty) := by
  refine History.reached .empty annsWork fun e he => ?_
  rcases List.mem_cons.1 he with rfl | he
  · rfl
  · rw [List.mem_singleton.1 he]

/-- Ann's command. -/
def annsBuild : Command :=
  ⟨"command", "Build", "make", "ann", "shop", .creatorOnly, none, none⟩

/-- Ann gives the command another name. -/
def retitling : Request :=
  { leaving with
    method := "PUT", path := "/api/command"
    body := Bytes.ofText "\x7b\"id\":\"command\",\"name\":\"Test\"\x7d" }

/-- Her command has another name then, as she has asked for it. -/
theorem commands_owned_retitling :
    .ofCommand annsBuild ∈ (annsWork.store .empty).commands.rows ∧
      ∃ (caller : Caller) (update : CommandUpdate), caller.user = "ann" ∧
        Alters retitling annsBuild { annsBuild with name := "Test" } caller update := by
  have hbuild : .ofCommand annsBuild ∈ (annsWork.store .empty).commands.rows := by decide +kernel
  have htest : .ofCommand { annsBuild with name := "Test" }
      ∈ (respond mailOnly (annsWork.store .empty) retitling).store.commands.rows := by
    decide +kernel
  obtain ⟨-, -, howned, -⟩ := commands_owned annsWork_reached mailOnly retitling
  obtain ⟨-, -, hsame | ⟨caller, update, halters⟩⟩ := howned.kept _ _ hbuild htest rfl
  · exact absurd hsame (by decide)
  · exact ⟨hbuild, caller, update, halters.own.symm, halters⟩

end Http

end CloudIde
