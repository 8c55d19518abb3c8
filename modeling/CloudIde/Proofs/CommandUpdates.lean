import CloudIde.Proofs.CommandOwners
import CloudIde.Proofs.JsonFaithful

/-!
# Updates of commands

An update is merged with what is stored, and what comes of it is written over five of the eight
columns. Read again, the command has the parts that the update has, and its own for the others; who
made it, and for which workspace, stays. All other commands are read as before. An update that is
repeated changes nothing more, and one that follows another is like one with the parts of both.

Behind the route of requests there are more conditions: the caller has to be a user who has made the
command, and may leave its name or its command line out but not empty. `command_updates` says that
nothing else counts, but for the length of the body, which is looked at before it is read.
-/

namespace CloudIde

/-! ## Updates -/

/-- A command with the parts that an update has, and those of the command before for the others. -/
structure Patched (p : CommandUpdate) (c d : Command) : Prop where
  id : d.id = c.id
  creator : d.creator = c.creator
  workspace : d.workspace = c.workspace
  name : d.name = p.name.getD c.name
  commandLine : d.commandLine = p.commandLine.getD c.commandLine
  visibility : d.visibility = p.visibility.getD c.visibility
  /-- A command may have no kind and no directory, but an update cannot take them away. -/
  type : d.type = p.type.or c.type
  workingDir : d.workingDir = p.workingDir.or c.workingDir

variable {p q : CommandUpdate} {c d : Command}

theorem patched_apply (c : Command) (p : CommandUpdate) : Patched p c (c.apply p) where
  id := rfl
  creator := rfl
  workspace := rfl
  name := rfl
  commandLine := rfl
  visibility := rfl
  type := Option.orElse_eq_or
  workingDir := Option.orElse_eq_or

/-- Two updates one after the other are one update. -/
theorem Command.apply_merge (c : Command) (p q : CommandUpdate) :
    (c.apply p).apply q = c.apply (p.merge q) := by
  simp [apply, CommandUpdate.merge, Option.getD_or, Option.or_assoc]

theorem CommandUpdate.merge_self (p : CommandUpdate) : p.merge p = p := by
  simp [merge]

/-! ## Rows -/

namespace CommandRow

variable {row : CommandRow}

/-- What the columns that no update writes have been read as. -/
theorem command_cells (h : row.command = .ok c) :
    row.id.readText (.named "id") = .ok c.id ∧
      row.creator.readText (.named "creator") = .ok c.creator ∧
        row.workspace.readText (.named "workspace_id") = .ok c.workspace := by
  obtain ⟨_, hid, h⟩ := bind_eq_ok.1 h
  obtain ⟨_, _, h⟩ := bind_eq_ok.1 h
  obtain ⟨_, _, h⟩ := bind_eq_ok.1 h
  obtain ⟨_, hcreator, h⟩ := bind_eq_ok.1 h
  obtain ⟨_, hworkspace, h⟩ := bind_eq_ok.1 h
  obtain ⟨_, _, h⟩ := bind_eq_ok.1 h
  obtain ⟨_, _, h⟩ := bind_eq_ok.1 h
  obtain ⟨_, _, h⟩ := bind_eq_ok.1 h
  cases h
  exact ⟨hid, hcreator, hworkspace⟩

/-- A row over which a changed command was written is read as that command. -/
theorem command_updated (hrow : row.id = .text c.id) (h : row.command = .ok c) (hid : d.id = c.id)
    (hcreator : d.creator = c.creator) (hworkspace : d.workspace = c.workspace) :
    (row.updated d).command = .ok d := by
  obtain ⟨hreadId, hreadCreator, hreadWorkspace⟩ := command_cells h
  rw [← hid] at hrow hreadId
  rw [← hcreator] at hreadCreator
  rw [← hworkspace] at hreadWorkspace
  have htype := Cell.optionalText_ofOptionalText (.named "command_type") d.type
  have hdir := Cell.optionalText_ofOptionalText (.named "working_dir") d.workingDir
  unfold updated
  rw [if_pos hrow]
  simp only [command, hreadId, hreadCreator, hreadWorkspace, Cell.readText_text, htype, hdir,
    Visibility.ofText_text, ok_bind]

theorem updated_id (row : CommandRow) (c : Command) : (row.updated c).id = row.id := by
  unfold updated
  split <;> rfl

theorem updated_other (h : row.id ≠ .text c.id) : row.updated c = row := if_neg h

/-- What is written last remains. -/
theorem updated_updated (row : CommandRow) (hid : d.id = c.id) :
    (row.updated c).updated d = row.updated d := by
  by_cases hrow : row.id = .text c.id
  · simp [updated, hrow, hid]
  · simp [updated, hrow, hid]

end CommandRow

/-! ## The store -/

/-- A table that names some columns names any of them. -/
theorem Table.naming_of_subset {ρ : Type} [Row ρ] {t : Table ρ} {columns fewer : List String}
    (h : t.naming columns = .ok ()) (hsub : ∀ column ∈ fewer, column ∈ columns) :
    t.naming fewer = .ok () := by
  unfold naming at h ⊢
  cases hlayout : t.layout with
  | made => rfl
  | found table =>
    rw [hlayout] at h
    split at h
    · next hnone =>
      have hlacks : ∀ column ∈ columns, (!table.columns.any (sameName column)) ≠ true :=
        List.find?_eq_none.1 hnone
      have hfewer : table.lacks? fewer = none :=
        List.find?_eq_none.2 fun column hcolumn => hlacks column (hsub column hcolumn)
      simp [Layout.lacks?, hfewer]
    · exact absurd h (by simp)

namespace Store

variable {s t : Store} {id : String}

/-- Nothing but the row of one command has changed, and that one as an update does it. -/
structure OnlyUpdated (s t : Store) (id : String) : Prop where
  tables : t = { s with commands := t.commands }
  others : ∀ other, other ≠ id → t.command other = s.command other
  rows : ∀ row, row.id ≠ .text id → (row ∈ t.commands.rows ↔ row ∈ s.commands.rows)

/-- The store with a changed command written over the rows of its id. -/
def overwriteCommand (s : Store) (c : Command) : Store :=
  { s with commands := s.commands.modify (fun row => row.updated c) (CommandRow.key_updated c) }

theorem command_found (h : s.command id = .ok c) : ∃ row,
    s.commands.naming commandColumns = .ok () ∧ s.commands.find? [.text id] = some row ∧
      row.id = .text id ∧ row.command = .ok c := by
  obtain ⟨_, hnaming, h⟩ := bind_eq_ok.1 h
  split at h
  · next row hrow =>
    obtain ⟨-, hkey⟩ := Table.find?_mem hrow
    exact ⟨row, hnaming, hrow, (List.cons.inj hkey).1, mapError_eq_ok.1 h⟩
  · exact absurd h (by simp)

theorem updateCommand_eq (hc : s.command c.id = .ok c) (hp : p.id = some c.id) :
    s.updateCommand p = .ok (s.overwriteCommand (c.apply p)) := by
  obtain ⟨row, hnaming, -, -, -⟩ := command_found hc
  have hupdated : s.commands.naming updatedCommandColumns = .ok () :=
    Table.naming_of_subset hnaming (by decide)
  unfold updateCommand
  rw [hp]
  simp only [hc, ok_bind, hupdated]
  rfl

/-- A command that was written over its row is read there. -/
theorem command_overwritten (hc : s.command c.id = .ok c) (hid : d.id = c.id)
    (hcreator : d.creator = c.creator) (hworkspace : d.workspace = c.workspace) :
    (s.overwriteCommand d).command d.id = .ok d := by
  obtain ⟨row, hnaming, hfind, hrow, hread⟩ := command_found hc
  have hfound : (s.overwriteCommand d).commands.find? [.text d.id] = some (row.updated d) := by
    unfold overwriteCommand
    rw [Table.find?_modify, hid, hfind]
    rfl
  have hcolumns : (s.overwriteCommand d).commands.naming commandColumns = .ok () := hnaming
  unfold command
  rw [hcolumns, ok_bind, hfound]
  simp only [CommandRow.command_updated hrow hread hid hcreator hworkspace, mapError_ok]

theorem onlyUpdated_overwrite (s : Store) (d : Command) :
    OnlyUpdated s (s.overwriteCommand d) d.id where
  tables := rfl
  others other hother := by
    have hfind : (s.overwriteCommand d).commands.find? [.text other]
        = s.commands.find? [.text other] := by
      unfold overwriteCommand
      rw [Table.find?_modify]
      cases hrow : s.commands.find? [.text other] with
      | none => rfl
      | some row =>
        obtain ⟨-, hkey⟩ := Table.find?_mem hrow
        have hid : row.id = .text other := (List.cons.inj hkey).1
        have hne : row.id ≠ .text d.id := by simpa [hid] using hother
        exact congrArg some (CommandRow.updated_other hne)
    unfold command
    rw [hfind]
    rfl
  rows row hrow := by
    have hmem : row ∈ (s.overwriteCommand d).commands.rows ↔
        ∃ other ∈ s.commands.rows, other.updated d = row := List.mem_map
    rw [hmem]
    constructor
    · rintro ⟨other, hother, rfl⟩
      rw [CommandRow.updated_id] at hrow
      rwa [CommandRow.updated_other hrow]
    · exact fun hthere => ⟨row, hthere, CommandRow.updated_other hrow⟩

/-- What is written last over the rows of an id remains. -/
theorem overwriteCommand_overwrite (s : Store) {c d : Command} (hid : d.id = c.id) :
    (s.overwriteCommand c).overwriteCommand d = s.overwriteCommand d := by
  have hrows : (s.commands.rows.map fun row => row.updated c).map (fun row => row.updated d)
      = s.commands.rows.map fun row => row.updated d := by
    rw [List.map_map]
    exact List.map_congr_left fun row _ => CommandRow.updated_updated row hid
  unfold overwriteCommand Table.modify
  simp only [hrows]

/-- **An update reaches its command, and nothing else.** -/
theorem updateCommand_applied (hc : s.command c.id = .ok c) (hp : p.id = some c.id) :
    ∃ t, s.updateCommand p = .ok t ∧ t.command c.id = .ok (c.apply p) ∧ OnlyUpdated s t c.id :=
  ⟨_, updateCommand_eq hc hp, command_overwritten (d := c.apply p) hc rfl rfl rfl,
    onlyUpdated_overwrite s (c.apply p)⟩

/-- **One update after another is one update**, with the parts of both. -/
theorem updateCommand_merge (hc : s.command c.id = .ok c) (hp : p.id = some c.id)
    (hq : q.id = some c.id) :
    (s.updateCommand p >>= fun t => t.updateCommand q) = s.updateCommand (p.merge q) := by
  have hmerge : (p.merge q).id = some c.id := by simp [CommandUpdate.merge, hq]
  have hread : (s.overwriteCommand (c.apply p)).command (c.apply p).id = .ok (c.apply p) :=
    command_overwritten hc rfl rfl rfl
  have hlast : (c.apply (p.merge q)).id = (c.apply p).id := rfl
  rw [updateCommand_eq hc hp, ok_bind, updateCommand_eq hread hq, Command.apply_merge,
    overwriteCommand_overwrite s hlast, updateCommand_eq hc hmerge]

theorem updateCommand_twice (hc : s.command c.id = .ok c) (hp : p.id = some c.id) :
    (s.updateCommand p >>= fun t => t.updateCommand p) = s.updateCommand p := by
  rw [updateCommand_merge hc hp hp, CommandUpdate.merge_self]

end Store

/-! ## Requests -/

namespace Http

open Store Platform

variable {ctx : Context} {s : Store} {caller : Caller} {r : Request}

/-- A caller may update a command in this way. -/
structure MayUpdate (caller : Caller) (c : Command) (p : CommandUpdate) : Prop where
  role : caller.hasRole Role.user = true
  own : c.creator = caller.user
  name : p.name ≠ some ""
  commandLine : p.commandLine ≠ some ""

/-- Somebody asks for an update of a command. -/
structure Request.AsksUpdate (r : Request) (caller : Caller) (p : CommandUpdate) : Prop where
  method : r.method = "PUT"
  path : Resource.ofPath? r.path = some .commands
  sent : Caller.ofHeaders r.headers = .ok caller
  body : Body.optional CommandUpdate r.body = .ok (some p)

theorem require_user_iff :
    caller.require [Role.user] = .ok () ↔ caller.hasRole Role.user = true := by
  rw [Caller.require_iff]
  simp

theorem commandTextUnlessAbsent_eq (value : Option String) (part : String) :
    commandTextUnlessAbsent value part =
      if value = some "" then .error (.commandPartRequired part) else .ok () := by
  unfold commandTextUnlessAbsent
  cases value with
  | none => rfl
  | some text => simp

/-- What is asked for is granted to those who may have it, and forbidden to all others. -/
theorem changing_stored {body : Bytes} (hc : s.command c.id = .ok c) (hid : c.id ≠ "")
    (hgiven : Body.optional CommandUpdate body = .ok (some p)) (hp : p.id = some c.id) :
    (MayUpdate caller c p → changing s caller body = .ok (p, c.id)) ∧
      (¬ MayUpdate caller c p → ∃ f, changing s caller body = .error f ∧ f.status = 403) := by
  have hnamed : commandText p.id "Command id" = .ok c.id := by
    have hfilter : p.id.filter (fun text => !text.isEmpty) = some c.id := by simp [hp, hid]
    unfold commandText
    rw [hfilter]
    rfl
  have hstart (hrole : caller.hasRole Role.user = true) : changing s caller body =
      (commandTextUnlessAbsent p.name "Command name" >>= fun _ =>
        commandTextUnlessAbsent p.commandLine "Command line" >>= fun _ =>
          if c.creator = caller.user then .ok (p, c.id)
          else .error (.commandDenied caller.user .update c.id)) := by
    unfold changing
    rw [require_user_iff.2 hrole, hgiven]
    simp only [ok_bind, commandPart, hnamed, hc]
  refine ⟨fun h => ?_, fun h => ?_⟩
  · rw [hstart h.role]
    simp [commandTextUnlessAbsent_eq, h.name, h.commandLine, h.own]
  · by_cases hrole : caller.hasRole Role.user = true
    · rw [hstart hrole, commandTextUnlessAbsent_eq, commandTextUnlessAbsent_eq]
      by_cases hname : p.name = some ""
      · rw [if_pos hname]
        exact ⟨_, rfl, rfl⟩
      · by_cases hline : p.commandLine = some ""
        · rw [if_neg hname, if_pos hline]
          exact ⟨_, rfl, rfl⟩
        · have hother : c.creator ≠ caller.user := fun hown => h ⟨hrole, hown, hname, hline⟩
          rw [if_neg hname, if_neg hline, if_neg hother]
          exact ⟨_, rfl, rfl⟩
    · refine ⟨.accessDenied, ?_, rfl⟩
      have hdenied : caller.require [Role.user] = .error .accessDenied :=
        (caller.requireScoped_cases .empty [Role.user]).resolve_left
          fun hok => hrole (require_user_iff.1 hok)
      unfold changing
      rw [hdenied]
      rfl

/-- A request for an update gets as far as the update. -/
theorem Request.AsksUpdate.respond (h : r.AsksUpdate caller p) (hsize : r.body.length ≤ bodyLimit) :
    respond ctx s r = .done .command (Platform.updateCommand ctx s caller r.body) := by
  have hput : r.method = Method.put.text := h.method
  have hwanted : r.wanted .commands .put = .ok (.updateCommand r.body) := by
    have hcontent : r.content = .ok r.body := if_neg (by omega)
    show (r.content >>= _) = _
    rw [hcontent]
    rfl
  exact respond_asked h.path hput (by decide) (by simp) h.sent hwanted

/-- A body that is too long is not looked at. -/
theorem Request.AsksUpdate.too_long (h : r.AsksUpdate caller p)
    (hsize : bodyLimit < r.body.length) :
    (Http.respond ctx s r).response.status = 413 ∧ (Http.respond ctx s r).store = s := by
  have hput : r.method = Method.put.text := h.method
  have hcontent : ∃ response : Response, r.content = .error response ∧ response.status = 413 :=
    ⟨_, if_pos hsize, rfl⟩
  obtain ⟨response, hresponse, hstatus⟩ := hcontent
  have hdemand : r.demand = .error response := by
    rw [Request.demand_eq h.path hput (by decide), Request.operation, if_neg (by simp),
      Request.caller, h.sent, mapError_ok, ok_bind]
    have hwanted : r.wanted .commands .put = .error response := by
      show (r.content >>= _) = _
      rw [hresponse]
      rfl
    rw [hwanted]
    rfl
  rw [respond_of_no_demand hdemand]
  exact ⟨hstatus, rfl⟩

/-- **Who may update a command is answered with it**, as it is stored then. -/
theorem Request.AsksUpdate.granted (h : r.AsksUpdate caller p) (hsize : r.body.length ≤ bodyLimit)
    (hc : s.command c.id = .ok c) (hid : c.id ≠ "") (hp : p.id = some c.id)
    (hmay : MayUpdate caller c p) : ∃ t, s.updateCommand p = .ok t ∧
      Http.respond ctx s r =
        ⟨⟨200, .shown (.command ((c.apply p).descriptor ctx.baseUrl caller)), none⟩, t, []⟩ := by
  obtain ⟨t, ht, hread, -⟩ := updateCommand_applied hc hp
  refine ⟨t, ht, ?_⟩
  rw [h.respond hsize]
  unfold Platform.updateCommand
  rw [(changing_stored hc hid h.body hp).1 hmay]
  simp only [ht, hread, ok_bind]
  rfl

/-- Who may not is refused, and nothing is changed. -/
theorem Request.AsksUpdate.forbidden (h : r.AsksUpdate caller p)
    (hsize : r.body.length ≤ bodyLimit) (hc : s.command c.id = .ok c) (hid : c.id ≠ "")
    (hp : p.id = some c.id) (hmay : ¬ MayUpdate caller c p) :
    (Http.respond ctx s r).response.status = 403 ∧ (Http.respond ctx s r).store = s := by
  obtain ⟨f, hf, hstatus⟩ := (changing_stored hc hid h.body hp).2 hmay
  rw [h.respond hsize]
  unfold Platform.updateCommand
  rw [hf]
  exact ⟨hstatus, rfl⟩

/-! ## The property -/

theorem sound_commandUpdate : (Wire.shape CommandUpdate).SoundRecord :=
  Json.Fields.sound_of_faithful _ (by decide)

/-- **Updates of commands are partial, and add up.** Whatever else the store holds:

* an update of a stored command replaces the parts that it has and nothing else, the same one again
  changes nothing, and another one after it is like one with the parts of both, where those of the
  later one count;
* a body gives an update when it is an object with its parts, in any order, where those that the
  update does not have are null or left out;
* by a request, the creator of the command updates it when they are a user and leave neither name
  nor command line empty, and is answered with the command as it is stored then; anybody else who
  says who they are is forbidden to. From all of them a body that is too long is refused. -/
theorem command_updates :
    (∀ (s : Store) (c : Command) (p q : CommandUpdate), s.command c.id = .ok c →
      p.id = some c.id → q.id = some c.id →
      ∃ t, s.updateCommand p = .ok t ∧ t.command c.id = .ok (c.apply p) ∧
        Patched p c (c.apply p) ∧ OnlyUpdated s t c.id ∧ t.updateCommand p = .ok t ∧
          t.updateCommand q = s.updateCommand (p.merge q)) ∧
    (∀ (p : CommandUpdate) (entries : List (String × Json)) (blanks : List Char),
      Wire.Says p entries → (∀ c ∈ blanks, isBlank c = true) →
      Body.optional CommandUpdate
        ((Json.object entries).toBytes ++ Bytes.ofText (String.ofList blanks)) = .ok (some p)) ∧
    ∀ (ctx : Context) (s : Store) (r : Request) (caller : Caller) (c : Command)
      (p : CommandUpdate), s.command c.id = .ok c → c.id ≠ "" → p.id = some c.id →
      r.AsksUpdate caller p →
      (r.body.length ≤ bodyLimit →
        (MayUpdate caller c p → ∃ t, s.updateCommand p = .ok t ∧ respond ctx s r =
          ⟨⟨200, .shown (.command ((c.apply p).descriptor ctx.baseUrl caller)), none⟩, t, []⟩) ∧
        (¬ MayUpdate caller c p →
          (respond ctx s r).response.status = 403 ∧ (respond ctx s r).store = s)) ∧
      (bodyLimit < r.body.length →
        (respond ctx s r).response.status = 413 ∧ (respond ctx s r).store = s) := by
  refine ⟨fun s c p q hc hp hq => ?_, fun p entries blanks h hblanks =>
    Body.optional_object sound_commandUpdate h hblanks, fun ctx s r caller c p hc hid hp h =>
      ⟨fun hsize => ⟨h.granted hsize hc hid hp, h.forbidden hsize hc hid hp⟩, h.too_long⟩⟩
  obtain ⟨t, ht, hread, honly⟩ := updateCommand_applied hc hp
  have htwice := updateCommand_twice hc hp
  have hmerge := updateCommand_merge hc hp hq
  rw [ht, ok_bind] at htwice hmerge
  exact ⟨t, ht, hread, patched_apply c p, honly, htwice, hmerge⟩

/-- The other name for Ann's command. -/
def newTitle : CommandUpdate := ⟨some "command", some "Test", none, none, none, none⟩

/-- Ann makes her command public. -/
def publication : CommandUpdate := ⟨some "command", none, none, some .everybody, none, none⟩

theorem retitling_asks : retitling.AsksUpdate ⟨"ann", .ofList [Role.user]⟩ newTitle where
  method := rfl
  path := by decide +kernel
  sent := rfl
  body := rfl

/-- The command has the other name, and is public after that as by one update. Without the role of a
user Ann could not have done it. -/
theorem command_updates_retitling :
    ∃ t, (annsWork.store .empty).updateCommand newTitle = .ok t ∧
      t.command "command" = .ok { annsBuild with name := "Test" } ∧
      t.updateCommand publication = (annsWork.store .empty).updateCommand
        ⟨some "command", some "Test", none, some .everybody, none, none⟩ ∧
      respond mailOnly (annsWork.store .empty) retitling =
        ⟨⟨200, .shown (.command ({ annsBuild with name := "Test" }.descriptor mailOnly.baseUrl
          ⟨"ann", .ofList [Role.user]⟩)), none⟩, t, []⟩ ∧
      (respond mailOnly (annsWork.store .empty)
        { retitling with
          headers := [("x-user-id", Bytes.ofText "ann")] }).response.status = 403 := by
  have hc : (annsWork.store .empty).command annsBuild.id = .ok annsBuild := by decide +kernel
  have hsize : retitling.body.length ≤ bodyLimit := by decide +kernel
  have hnobody :
      Request.AsksUpdate { retitling with headers := [("x-user-id", Bytes.ofText "ann")] }
        ⟨"ann", .ofList []⟩ newTitle := { retitling_asks with sent := rfl }
  obtain ⟨hstore, -, hrequest⟩ := command_updates
  obtain ⟨t, ht, hread, -, -, -, hmerge⟩ :=
    hstore (annsWork.store .empty) annsBuild newTitle publication hc rfl rfl
  obtain ⟨hanswered, -⟩ :=
    hrequest mailOnly (annsWork.store .empty) retitling _ annsBuild newTitle hc (by decide) rfl
      retitling_asks
  obtain ⟨hdenied, -⟩ := hrequest mailOnly (annsWork.store .empty) _ _ annsBuild newTitle hc
    (by decide) rfl hnobody
  have hmay : MayUpdate ⟨"ann", .ofList [Role.user]⟩ annsBuild newTitle :=
    ⟨by decide, rfl, by decide, by decide⟩
  have hnot : ¬ MayUpdate ⟨"ann", .ofList []⟩ annsBuild newTitle := fun h =>
    absurd h.role (by decide)
  obtain ⟨t', ht', hresponse⟩ := (hanswered hsize).1 hmay
  obtain rfl : t = t' := Except.ok.inj (ht.symm.trans ht')
  exact ⟨t, ht, hread, hmerge, hresponse, ((hdenied hsize).2 hnot).1⟩

/-- Ann's request, with white space behind it. -/
def spacedRetitling (n : Nat) : Request :=
  { retitling with
    body := retitling.body ++ Bytes.ofText (String.ofList (List.replicate n ' ')) }

/-- Most parts of an update are left out here. -/
theorem newTitle_says : Wire.Says newTitle [("id", .text "command"), ("name", .text "Test")] := by
  refine ⟨by decide, fun entry hentry => ?_, ?_⟩
  · rcases List.mem_cons.1 hentry with rfl | hentry
    · exact List.mem_cons_self
    · rw [List.mem_singleton.1 hentry]
      exact List.mem_cons_of_mem _ List.mem_cons_self
  · exact ⟨Or.inl rfl, Or.inl rfl, Or.inr rfl, Or.inr rfl, Or.inr rfl, Or.inr rfl, trivial⟩

theorem spacedRetitling_asks (n : Nat) :
    (spacedRetitling n).AsksUpdate ⟨"ann", .ofList [Role.user]⟩ newTitle := by
  have hblanks : ∀ c ∈ List.replicate n ' ', isBlank c = true := by
    intro c hc
    rw [(List.mem_replicate.1 hc).2]
    decide
  have hbody : retitling.body =
      (Json.object [("id", .text "command"), ("name", .text "Test")]).toBytes := by decide +kernel
  have hgiven := Body.optional_object sound_commandUpdate newTitle_says hblanks
  rw [← hbody] at hgiven
  exact { retitling_asks with body := hgiven }

/-- With two mebibytes of it she is refused, although she asks for the same. -/
theorem update_too_long :
    (annsWork.store .empty).command annsBuild.id = .ok annsBuild ∧
      newTitle.id = some annsBuild.id ∧ MayUpdate ⟨"ann", .ofList [Role.user]⟩ annsBuild newTitle ∧
      (spacedRetitling bodyLimit).AsksUpdate ⟨"ann", .ofList [Role.user]⟩ newTitle ∧
      (respond mailOnly (annsWork.store .empty) (spacedRetitling bodyLimit)).response.status
        = 413 := by
  have hlength (n : Nat) : (spacedRetitling n).body.length = retitling.body.length + n := by
    unfold spacedRetitling
    rw [Bytes.ofText_ofList]
    simp [String.utf8EncodeChar]
  have hlong : bodyLimit < (spacedRetitling bodyLimit).body.length := by
    have hbody : 0 < retitling.body.length := by decide +kernel
    rw [hlength]
    omega
  exact ⟨by decide +kernel, rfl, ⟨by decide, rfl, by decide, by decide⟩, spacedRetitling_asks _,
    ((spacedRetitling_asks _).too_long hlong).1⟩

end Http

end CloudIde
