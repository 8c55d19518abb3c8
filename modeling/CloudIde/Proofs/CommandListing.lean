import CloudIde.Proofs.Constraints
import CloudIde.Proofs.Entitlement
import CloudIde.Proofs.Order
import CloudIde.Proofs.PrivateCommands

/-!
# Commands in lists and one by one

Whether a user sees a command is decided in two places. The list asks the rows: it takes those with
one text for the visibility, or with the user for the creator. A command that is asked for by its id
is read first, and the visibility that it is read with decides. A row may have any text there, and
all texts but one are read as private, so the two agree (`command_listing`): the list has exactly
the commands that the user is shown one by one.
-/

namespace CloudIde

/-- The command that a row is read as, whatever text it has for the visibility. -/
def Command.seenAs (c : Command) (text : String) : Command :=
  { c with visibility := .ofText text }

namespace CommandRow

theorem command_worded (c : Command) (text : String) :
    (worded c text).command = .ok (c.seenAs text) := by
  have htype := Cell.optionalText_ofOptionalText (.named "command_type") c.type
  have hdir := Cell.optionalText_ofOptionalText (.named "working_dir") c.workingDir
  simp [command, worded, ofCommand, Command.seenAs, Cell.readText_text, htype, hdir]

/-- **The rows that are listed are those of commands that are seen.** -/
theorem isSeenBy_worded (c : Command) (text user : String) :
    (worded c text).isSeenBy user = (c.seenAs text).isVisibleTo user := by
  have hcreator : decide (Cell.text c.creator = .text user) = decide (c.creator = user) := by simp
  unfold isSeenBy Command.isVisibleTo
  show (decide (Cell.text text = .text Visibility.everybody.text)
    || decide (Cell.text c.creator = .text user)) = _
  rw [hcreator]
  by_cases hpublic : text = "public"
  · simp [hpublic, Visibility.text, Command.seenAs, Visibility.ofText]
  · simp [hpublic, Visibility.text, Command.seenAs, Visibility.ofText]

end CommandRow

/-- A command stands before another one: by the bytes of its name, and then by those of its id. -/
def Command.Before (c d : Command) : Prop :=
  Bytes.ofText c.name < Bytes.ofText d.name ∨
    c.name = d.name ∧ Bytes.ofText c.id < Bytes.ofText d.id

namespace Store

variable {s : Store} {c : Command} {workspace user : String}

/-- The table of commands was made, and its rows are those of commands, with any texts for the
visibility. -/
structure Worded (s : Store) : Prop where
  made : s.commands.layout = .made
  row : ∀ row ∈ s.commands.rows, ∃ c text, row = .worded c text

theorem Constrained.worded (hs : Constrained s) : Worded s := ⟨hs.made.commands, hs.command⟩

theorem Written.worded (hs : Written s) : Worded s where
  made := hs.made.commands
  row row hrow := by
    obtain ⟨c, rfl⟩ := hs.command row hrow
    exact ⟨c, c.visibility.text, rfl⟩

/-- A command is found by its id when there is a row that is read as it. -/
theorem Worded.command_iff (hs : Worded s) : s.command c.id = .ok c ↔
    ∃ d text, CommandRow.worded d text ∈ s.commands.rows ∧ d.seenAs text = c := by
  have hlook (row : CommandRow) (hfind : s.commands.find? [.text c.id] = some row) :
      s.command c.id = row.command.mapError .database := by
    unfold command
    rw [Table.naming_made hs.made, ok_bind, hfind]
  constructor
  · intro hc
    cases hfind : s.commands.find? [.text c.id] with
    | none =>
      unfold command at hc
      rw [Table.naming_made hs.made, ok_bind, hfind] at hc
      exact absurd hc (by simp)
    | some row =>
      obtain ⟨hrow, -⟩ := Table.find?_mem hfind
      obtain ⟨d, text, rfl⟩ := hs.row row hrow
      rw [hlook _ hfind, CommandRow.command_worded] at hc
      exact ⟨d, text, hrow, Except.ok.inj hc⟩
  · rintro ⟨d, text, hrow, rfl⟩
    have hfind : s.commands.find? [.text (d.seenAs text).id] = some (.worded d text) :=
      Table.find?_eq hs.made hrow rfl
    rw [hlook _ hfind, CommandRow.command_worded]
    rfl

/-- Whether a row is listed to a user among those of a workspace. -/
def listedTo (workspace user : String) (row : CommandRow) : Bool :=
  row.workspace = .text workspace && row.isSeenBy user

theorem listedTo_worded (c : Command) (text : String) :
    listedTo workspace user (.worded c text) = true ↔
      (c.seenAs text).workspace = workspace ∧ (c.seenAs text).isVisibleTo user = true := by
  unfold listedTo
  rw [CommandRow.isSeenBy_worded, Bool.and_eq_true, decide_eq_true_eq]
  exact and_congr_left' ⟨fun h => Cell.text.inj h, fun h => congrArg Cell.text h⟩

/-- **The list has the commands of the workspace that the user sees**, in their order. -/
theorem Worded.visibleCommands (hs : Worded s) (workspace user : String) :
    ∃ cs, s.visibleCommands workspace user = .ok cs ∧
      (∀ c, c ∈ cs ↔
        s.command c.id = .ok c ∧ c.workspace = workspace ∧ c.isVisibleTo user = true) ∧
      cs.Pairwise Command.Before := by
  have hrows : ∀ row ∈ s.commands.rows,
      ∃ w : Command × String, row = CommandRow.worded w.1 w.2 := by
    intro row hrow
    obtain ⟨c, text, hc⟩ := hs.row row hrow
    exact ⟨(c, text), hc⟩
  obtain ⟨ws, hws, hsorted⟩ := Table.select_map hs.made hrows (listedTo workspace user)
    fun row => [row.name, row.id]
  have hmem (row : CommandRow) : row ∈ (ws.map fun w => CommandRow.worded w.1 w.2) ↔
      row ∈ s.commands.rows ∧ listedTo workspace user row = true := by
    rw [← hws]
    exact Table.mem_select
  refine ⟨ws.map fun w => w.1.seenAs w.2, ?_, fun c => ?_, ?_⟩
  · unfold Store.visibleCommands
    rw [Table.naming_made hs.made, ok_bind]
    show ((s.commands.select (listedTo workspace user) fun row => [row.name, row.id]).mapM
      CommandRow.command).mapError Failure.database = _
    rw [hws, mapM_map fun w _ => CommandRow.command_worded w.1 w.2]
    rfl
  · rw [hs.command_iff, List.mem_map]
    constructor
    · rintro ⟨w, hw, rfl⟩
      obtain ⟨hrow, hyes⟩ := (hmem (.worded w.1 w.2)).1 (List.mem_map_of_mem hw)
      exact ⟨⟨w.1, w.2, hrow, rfl⟩, (listedTo_worded w.1 w.2).1 hyes⟩
    · rintro ⟨⟨d, text, hrow, rfl⟩, hyes⟩
      obtain ⟨w, hw, hsame⟩ :=
        List.mem_map.1 ((hmem _).2 ⟨hrow, (listedTo_worded d text).2 hyes⟩)
      refine ⟨w, hw, ?_⟩
      -- one row is read as one command
      have hread := CommandRow.command_worded w.1 w.2
      rw [hsame, CommandRow.command_worded] at hread
      exact (Except.ok.inj hread).symm
  · refine List.pairwise_map.2 (hsorted.imp fun {v w} ⟨hle, hkey⟩ => ?_)
    have hid : v.1.id ≠ w.1.id := fun hid => hkey (congrArg (fun id => [Cell.text id]) hid)
    rcases Cell.listLe_texts hle hid with hlt | ⟨hsame, hlt⟩
    · exact Or.inl (Bytes.ofText_lt_ofText.2 hlt)
    · exact Or.inr ⟨hsame, Bytes.ofText_lt_ofText.2 hlt⟩

end Store

namespace Http

open Store

variable {ctx : Context} {s : Store} {caller : Caller} {r : Request} {id workspace : String}

/-! ## The requests -/

/-- Somebody asks for the command with an id. -/
structure Request.FetchesCommand (r : Request) (caller : Caller) (id : String) : Prop where
  method : r.method = "GET"
  path : ∃ raw, Resource.ofPath? r.path = some (.command raw) ∧ parameter "id" raw = .ok id
  sent : Caller.ofHeaders r.headers = .ok caller

/-- Somebody asks for the commands of a workspace. -/
structure Request.ListsCommands (r : Request) (caller : Caller) (workspace : String) : Prop where
  method : r.method = "GET"
  path : ∃ raw, Resource.ofPath? r.path = some (.workspaceCommands raw) ∧
    parameter "id" raw = .ok workspace
  sent : Caller.ofHeaders r.headers = .ok caller

/-- Where a command is. -/
def commandPath (id : String) : String := "/api/command/" ++ id

theorem Request.fetchesCommand (hid : TameId id) (hmethod : r.method = "GET")
    (hpath : r.path = commandPath id) (hsent : Caller.ofHeaders r.headers = .ok caller) :
    r.FetchesCommand caller id where
  method := hmethod
  path := by
    rw [hpath]
    exact ⟨id, commandPath_tame hid.1 hid.2, parameter_tame hid.1 "id"⟩
  sent := hsent

theorem Request.FetchesCommand.respond (h : r.FetchesCommand caller id) :
    respond ctx s r = .shown s .command (Platform.command ctx s caller id) := by
  obtain ⟨raw, hpath, hid⟩ := h.path
  have hget : r.method = Method.get.text := h.method
  have hwanted : r.wanted (.command raw) .get = .ok (.showCommand id) := by
    show (parameter "id" raw >>= _) = _
    rw [hid]
    rfl
  exact respond_asked hpath hget (by simp [Resource.methods]) (by simp) h.sent hwanted

theorem Request.ListsCommands.respond (h : r.ListsCommands caller workspace) :
    respond ctx s r = .shown s .commands (Platform.commands ctx s caller workspace) := by
  obtain ⟨raw, hpath, hid⟩ := h.path
  have hget : r.method = Method.get.text := h.method
  have hwanted : r.wanted (.workspaceCommands raw) .get = .ok (.listCommands workspace) := by
    show (parameter "id" raw >>= _) = _
    rw [hid]
    rfl
  exact respond_asked hpath hget (by simp [Resource.methods]) (by simp) h.sent hwanted

/-- A stored command is shown to those who see it, and denied to others. -/
theorem Request.FetchesCommand.response {c : Command} (h : r.FetchesCommand caller c.id)
    (hplatform : caller.require Role.platform = .ok ()) (hc : s.command c.id = .ok c) :
    (Http.respond ctx s r).response = if c.isVisibleTo caller.user then
      ⟨200, .shown (.command (c.descriptor ctx.baseUrl caller)), none⟩
    else .failed (.commandDenied caller.user .read c.id) := by
  rw [h.respond]
  unfold Platform.command
  rw [hplatform, hc, ok_bind, ok_bind]
  split <;> rfl

/-- What a caller is shown when they ask for a command, compared with the list of its workspace. -/
theorem fetched_iff_listed (hs : Worded s) {c : Command} {fetch list : Request}
    (hplatform : caller.require Role.platform = .ok ()) (hc : s.command c.id = .ok c)
    (hfetch : fetch.FetchesCommand caller c.id) (hlist : list.ListsCommands caller c.workspace) :
    ∃ ds, (respond ctx s list).response = ⟨200, .shown (.commands ds), none⟩ ∧
      ((respond ctx s fetch).response.status = 200 ↔ ∃ d ∈ ds, d.command = c) ∧
      ∀ d ∈ ds, d.command.id = c.id →
        (respond ctx s fetch).response = ⟨200, .shown (.command d), none⟩ := by
  obtain ⟨cs, hcs, hmem, -⟩ := hs.visibleCommands c.workspace caller.user
  have hlisted : (respond ctx s list).response
      = ⟨200, .shown (.commands (cs.map fun c => c.descriptor ctx.baseUrl caller)), none⟩ := by
    rw [hlist.respond]
    unfold Platform.commands
    rw [hcs]
    rfl
  -- a command of the list that has the id is the command that is stored
  have hsame : ∀ d ∈ cs, d.id = c.id → d = c ∧ c.isVisibleTo caller.user = true := by
    intro d hd hid
    obtain ⟨hstored, -, hvisible⟩ := (hmem d).1 hd
    rw [hid, hc] at hstored
    obtain rfl := Except.ok.inj hstored
    exact ⟨rfl, hvisible⟩
  refine ⟨_, hlisted, ⟨fun hstatus => ?_, ?_⟩, ?_⟩
  · rw [hfetch.response hplatform hc] at hstatus
    by_cases hvisible : c.isVisibleTo caller.user = true
    · have hin : c ∈ cs := (hmem c).2 ⟨hc, rfl, hvisible⟩
      exact ⟨_, List.mem_map_of_mem hin, rfl⟩
    · rw [if_neg hvisible] at hstatus
      have hdenied : (403 : Nat) = 200 := hstatus
      exact absurd hdenied (by decide)
  · rintro ⟨d, hd, hdc⟩
    obtain ⟨e, he, rfl⟩ := List.mem_map.1 hd
    obtain ⟨-, hvisible⟩ := hsame e he (congrArg Command.id hdc)
    rw [hfetch.response hplatform hc, if_pos hvisible]
  · intro d hd hid
    obtain ⟨e, he, rfl⟩ := List.mem_map.1 hd
    obtain ⟨rfl, hvisible⟩ := hsame e he hid
    rw [hfetch.response hplatform hc, if_pos hvisible]

/-- **Commands are listed to those to whom they are shown.** Whatever texts there are for the
visibility:

* the commands of a workspace that a user sees are listed, once each, in ascending order of the
  bytes of the names and then of the ids;
* who is known to the platform is shown a command by its id if and only if it is in their list of
  the commands of its workspace, and as it is there. -/
theorem command_listing (hs : Worded s) :
    (∀ workspace user, ∃ cs, s.visibleCommands workspace user = .ok cs ∧
      (∀ c, c ∈ cs ↔
        s.command c.id = .ok c ∧ c.workspace = workspace ∧ c.isVisibleTo user = true) ∧
      cs.Pairwise Command.Before) ∧
    ∀ ctx caller, caller.require Role.platform = .ok () → ∀ c, s.command c.id = .ok c →
      (TameId c.id → ∀ r : Request, r.method = "GET" → r.path = commandPath c.id →
        Caller.ofHeaders r.headers = .ok caller → r.FetchesCommand caller c.id) ∧
      ∀ fetch list : Request, fetch.FetchesCommand caller c.id →
        list.ListsCommands caller c.workspace →
          ∃ ds, (respond ctx s list).response = ⟨200, .shown (.commands ds), none⟩ ∧
            ((respond ctx s fetch).response.status = 200 ↔ ∃ d ∈ ds, d.command = c) ∧
            ∀ d ∈ ds, d.command.id = c.id →
              (respond ctx s fetch).response = ⟨200, .shown (.command d), none⟩ := by
  refine ⟨hs.visibleCommands, fun ctx caller hplatform c hc => ⟨?_, ?_⟩⟩
  · exact fun hid r hmethod hpath hsent => Request.fetchesCommand hid hmethod hpath hsent
  · exact fun fetch list hfetch hlist => fetched_iff_listed hs hplatform hc hfetch hlist

/-- A store with a command for whose visibility somebody has set a text that means nothing. -/
def shouting : Store :=
  (Store.empty.run [.call (.createCommand bobsBuild)]).meddle "commands" ["build"] "visibility"
    (.text "PUBLIC")

/-- Whoever made the command is listed it. An administrator is not, and is not shown it. -/
theorem command_listing_shouting :
    shouting.commands.rows = [.worded bobsBuild "PUBLIC"] ∧
    (∃ cs, shouting.visibleCommands "shop" "bob" = .ok cs ∧ bobsBuild ∈ cs) ∧
      ∃ ds, (respond mailOnly shouting
          (administering "GET" "/api/command/shop/all" "")).response
            = ⟨200, .shown (.commands ds), none⟩ ∧
        (∀ d ∈ ds, d.command ≠ bobsBuild) ∧
        (respond mailOnly shouting (administering "GET" "/api/command/build" "")).response.status
          = 403 := by
  have htouched : Touched shouting := (Touched.empty.run _).meddle _ _ _ Cell.noConfusion
  have hworded : Worded shouting := htouched.constrained.worded
  have hstored : shouting.command "build" = .ok bobsBuild := rfl
  have htext : shouting.commands.rows = [.worded bobsBuild "PUBLIC"] := rfl
  obtain ⟨hlists, hshows⟩ := command_listing hworded
  obtain ⟨cs, hcs, hmem, -⟩ := hlists "shop" "bob"
  refine ⟨htext, ⟨cs, hcs, (hmem bobsBuild).2 ⟨hstored, rfl, by decide⟩⟩, ?_⟩
  obtain ⟨hfetches, hagree⟩ :=
    hshows mailOnly ⟨"root", RoleSet.ofList [Role.systemAdmin]⟩ (by decide) bobsBuild hstored
  have hfetch := hfetches ⟨by decide, by decide⟩ (administering "GET" "/api/command/build" "")
    rfl rfl rfl
  have hpath : Resource.ofPath? "/api/command/shop/all" = some (.workspaceCommands "shop") := by
    decide +kernel
  obtain ⟨ds, hds, hiff, -⟩ := hagree _ (administering "GET" "/api/command/shop/all" "") hfetch
    ⟨rfl, ⟨"shop", hpath, rfl⟩, rfl⟩
  have hstatus : (respond mailOnly shouting
      (administering "GET" "/api/command/build" "")).response.status = 403 := by decide +kernel
  refine ⟨ds, hds, fun d hd hsame => ?_, hstatus⟩
  have hshown := hiff.2 ⟨d, hd, hsame⟩
  rw [hstatus] at hshown
  exact absurd hshown (by decide)

end Http

end CloudIde
