import CloudIde.Proofs.CommandListing
import CloudIde.Proofs.CommandUpdates
import CloudIde.Proofs.PropertiesShown

/-!
# Where the links to commands lead

A descriptor of a command offers to read it, and to remove it. What is offered is decided by who
made the command and who is privileged; a request for the command is decided by its visibility, too,
and one for its removal by the roles that the platform knows. `command_links_lead` says that they
agree, for everybody whom the platform knows: the command is read as it was shown, and the removal
is offered to those for whom it succeeds. A descriptor never comes without the first link, as nobody
is shown a command that they do not see (`ShowsCommand`): a command is shown to its creator when it
is made or changed, and to others when they ask for it or list it.
-/

namespace CloudIde

open Store

/-! ## Ids -/

namespace Http

variable {P : Context → Prop} {ctx : Context} {s t : Store} {caller : Caller}

/-- The ids of all commands can stand in a path. -/
def TameCommands (s : Store) : Prop := ∀ c, .ofCommand c ∈ s.commands.rows → TameId c.id

theorem Effect.tameCommands (hs : Written s) (htame : TameCommands s) {op : Operation}
    {reply : Reply} (h : Effect ctx s caller op reply) : TameCommands reply.store := by
  rcases h.frame.commands with hwritten | hsame
  · cases h with
    | looked | refused => exact htame
    | commandMade _ _ hid _ _ _ _ ht =>
      obtain ⟨T, hT, rfl⟩ := createCommand_ok ht
      intro d hd
      rcases hT.mem_iff.1 hd with hnew | hold
      · rw [CommandRow.ofCommand_inj hnew, hid]
        exact tameId_ofDigits (by decide) (by decide) ctx.digits
      · exact htame d hold
    | commandChanged _ ht =>
      obtain ⟨id, c, -, hc, rfl⟩ := updateCommand_ok ht
      obtain ⟨hstored, -⟩ := hs.command_stored hc
      intro d hd
      rcases (hs.updateCommand_rows hstored _).1 hd with hnew | ⟨hold, -⟩
      · -- an update leaves the id
        rw [CommandRow.ofCommand_inj hnew]
        exact htame c hstored
      · exact htame d hold
    | commandRemoved _ _ _ ht =>
      cases removeCommand_ok ht
      exact fun d hd => htame d (Table.mem_erase.1 hd).1
    | _ => exact absurd hwritten (by simp [Operation.writes])
  · intro d hd
    rw [hsame] at hd
    exact htame d hd

theorem Reached.tameCommands (h : Reached P s) : TameCommands s := by
  induction h with
  | empty => exact fun c hc => absurd hc List.not_mem_nil
  | @next s h ctx _ r ih =>
    exact respond_keeps ih (fun heffect => heffect.tameCommands h.written ih) r

/-! ## What is shown -/

/-- The descriptors of commands in a content. -/
def Content.commandDescriptors : Content → List CommandDescriptor
  | .shown (.command d) => [d]
  | .shown (.commands ds) => ds
  | _ => []

/-- A descriptor shows a stored command to a caller who sees it. -/
structure ShowsCommand (ctx : Context) (t : Store) (caller : Caller) (d : CommandDescriptor)
    (c : Command) : Prop where
  descriptor : d = c.descriptor ctx.baseUrl caller
  stored : t.command c.id = .ok c
  visible : c.isVisibleTo caller.user = true

theorem isVisibleTo_creator {c : Command} {user : String} (h : c.creator = user) :
    c.isVisibleTo user = true := by
  simp [Command.isVisibleTo, h]

variable {op : Operation} {d : CommandDescriptor}

/-- Whoever makes a command is shown it as it is stored then. -/
theorem createCommand_shows (hs : Written s) {workspace : String} {body : Bytes} {reply : Reply}
    (h : Effect ctx s caller (.createCommand workspace body) reply)
    (hd : d ∈ reply.response.content.commandDescriptors) :
    ∃ c, ShowsCommand ctx reply.store caller d c := by
  cases h with
  | looked hlooks => exact absurd hlooks (by simp [Operation.looks])
  | refused => exact absurd hd List.not_mem_nil
  | @commandMade _ _ _ c t _ _ _ hcreator _ _ _ ht =>
    have hwritten : Written t := written_write (w := .createCommand c) hs ht
    obtain ⟨T, hT, rfl⟩ := createCommand_ok ht
    obtain rfl : d = _ := List.mem_singleton.1 hd
    exact ⟨c, rfl, hwritten.command_of_row (hT.mem_iff.2 (Or.inl rfl)),
      isVisibleTo_creator hcreator⟩

/-- Whoever changes a command is shown it as it is stored then. -/
theorem updateCommand_shows (hs : Written s) {body : Bytes} {reply : Reply}
    (h : Effect ctx s caller (.updateCommand body) reply)
    (hd : d ∈ reply.response.content.commandDescriptors) :
    ∃ c, ShowsCommand ctx reply.store caller d c := by
  cases h with
  | looked hlooks => exact absurd hlooks (by simp [Operation.looks])
  | refused => exact absurd hd List.not_mem_nil
  | commandChanged hupdate ht =>
    obtain ⟨a, ha, hd⟩ := ofOutcome_parts (fun _ => rfl) hd
    obtain rfl : d = a := List.mem_singleton.1 hd
    obtain ⟨updated, hupdated, hd⟩ := bind_eq_ok.1 ha
    cases hd
    obtain ⟨c, hc⟩ := changing_ok hupdate
    obtain ⟨-, rfl⟩ := hs.command_stored hc.found
    obtain ⟨t', ht', hread, -⟩ := updateCommand_applied hc.found hc.named
    obtain rfl := Except.ok.inj (ht.symm.trans ht')
    obtain rfl := Except.ok.inj (hread.symm.trans hupdated)
    exact ⟨_, rfl, hread, isVisibleTo_creator hc.own⟩

/-- A reply shows no command but a stored one that the caller sees. -/
theorem perform_showsCommand (hs : Written s)
    (h : d ∈ (op.perform ctx s caller).response.content.commandDescriptors) :
    ∃ c, ShowsCommand ctx (op.perform ctx s caller).store caller d c := by
  cases op with
  | createCommand workspace body => exact createCommand_shows hs (perform_effect _) h
  | updateCommand body => exact updateCommand_shows hs (perform_effect _) h
  | showCommand id =>
    obtain ⟨a, ha, hd⟩ := ofOutcome_parts (fun _ => rfl) h
    obtain rfl : d = a := List.mem_singleton.1 hd
    obtain ⟨_, _, ha⟩ := bind_eq_ok.1 ha
    obtain ⟨c, hc, ha⟩ := bind_eq_ok.1 ha
    split at ha
    · next hvisible =>
      cases ha
      obtain ⟨-, rfl⟩ := hs.command_stored hc
      exact ⟨c, rfl, hc, hvisible⟩
    · exact absurd ha (by simp)
  | listCommands workspace =>
    obtain ⟨ds, hds, hd⟩ := ofOutcome_parts (fun _ => rfl) h
    obtain ⟨cs, hcs, hds⟩ := bind_eq_ok.1 hds
    cases hds
    obtain ⟨c, hc, rfl⟩ := List.mem_map.1 hd
    obtain ⟨found, hfound, hmem, -⟩ := hs.worded.visibleCommands workspace caller.user
    obtain rfl : cs = found := Except.ok.inj (hcs.symm.trans hfound)
    obtain ⟨hstored, -, hvisible⟩ := (hmem c).1 hc
    exact ⟨c, rfl, hstored, hvisible⟩
  | _ =>
    obtain ⟨a, -, hd⟩ := ofOutcome_parts (fun _ => rfl) h
    exact absurd hd List.not_mem_nil

theorem Bare.commandDescriptors {response : Response} (h : Bare response) :
    response.content.commandDescriptors = [] := by
  unfold Content.commandDescriptors
  split
  · next hshown => exact absurd (h.payload hshown) Payload.noConfusion
  · next hshown => exact absurd (h.payload hshown) Payload.noConfusion
  · rfl

/-- A response shows no command but a stored one that the caller sees. -/
theorem respond_showsCommand (hs : Written s) {r : Request}
    (hsent : Caller.ofHeaders r.headers = .ok caller)
    (h : d ∈ (respond ctx s r).response.content.commandDescriptors) :
    ∃ c, ShowsCommand ctx (respond ctx s r).store caller d c := by
  obtain ⟨op, hstore, hmem⟩ := respond_parts Bare.commandDescriptors hsent h
  rw [hstore]
  exact perform_showsCommand hs hmem

/-! ## Following the links -/

variable {r : Request} {c : Command}

/-- The path to a command is below the prefix of all paths. -/
theorem commandPath_below (id : String) : "/api" ++ ("/command/" ++ id) = commandPath id := by
  rw [← String.append_assoc]
  rfl

/-- Links to a command lead to where it is. -/
theorem Visits.command {base id : String} {link : Link} (h : Visits base link r)
    (hlink : link.href = Command.href base id) : r.path = commandPath id := by
  rw [Command.href, String.append_assoc] at hlink
  rw [h.path_eq hlink, commandPath_below]

/-- Somebody asks for the removal of the command with an id. -/
structure Request.AsksRemoval (r : Request) (caller : Caller) (id : String) : Prop where
  method : r.method = "DELETE"
  path : r.path = commandPath id
  sent : Caller.ofHeaders r.headers = .ok caller

theorem Request.AsksRemoval.respond {id : String} (h : r.AsksRemoval caller id) (hid : TameId id) :
    respond ctx s r = .removed (Platform.removeCommand s caller id) := by
  have hpath : Resource.ofPath? r.path = some (.command id) := by
    rw [h.path]
    exact commandPath_tame hid.1 hid.2
  have hdelete : r.method = Method.delete.text := h.method
  have hwanted : r.wanted (.command id) .delete = .ok (.removeCommand id) := by
    show (parameter "id" id >>= _) = _
    rw [parameter_tame hid.1]
    rfl
  exact respond_asked hpath hdelete (by simp [Resource.methods]) (by simp) h.sent hwanted

/-- A command is removed for its creator and for the privileged, and for nobody else. -/
theorem Request.AsksRemoval.status (hs : Written s) (h : r.AsksRemoval caller c.id)
    (hid : TameId c.id) (hplatform : caller.require Role.platform = .ok ())
    (hc : s.command c.id = .ok c) :
    (Http.respond ctx s r).response.status = if c.mayRemove caller then 204 else 403 := by
  have hkey : s.commands.hasKey [.text c.id] = true :=
    Table.hasKey_iff.2 ⟨_, (hs.command_stored hc).1, rfl⟩
  have hremoved : s.removeCommand c.id
      = .ok { s with commands := s.commands.erase [.text c.id] } := by
    unfold Store.removeCommand
    rw [Table.naming_made hs.made.commands, ok_bind, if_pos hkey]
  rw [h.respond hid]
  unfold Platform.removeCommand
  rw [hplatform, hc, hremoved, ok_bind, ok_bind]
  split <;> rfl

/-- Where the links of a command lead its reader. -/
structure CommandLinksLead (ctx later : Context) (t : Store) (caller : Caller)
    (d : CommandDescriptor) : Prop where
  /-- The command can be read, and the link for it leads to where the command is. -/
  offered : ∃ link ∈ d.links, link.rel = "get command" ∧
    ∀ r, r.method = "GET" → r.path = commandPath d.command.id → Visits ctx.baseUrl link r
  /-- What is read is what was shown. -/
  reading : ∀ link ∈ d.links, link.rel = "get command" → ∀ r, Visits ctx.baseUrl link r →
    Caller.ofHeaders r.headers = .ok caller →
      (respond later t r).response = ⟨200, .shown (.command d), none⟩
  /-- A link for removing is a link for removing this command. -/
  removing : ∀ link ∈ d.links, link.rel = "remove command" → ∀ r, Visits ctx.baseUrl link r →
    Caller.ofHeaders r.headers = .ok caller → r.AsksRemoval caller d.command.id
  /-- The removal is offered to those for whom it succeeds. -/
  removal : ∀ r, r.AsksRemoval caller d.command.id →
    ((∃ link ∈ d.links, link.rel = "remove command") ↔ (respond later t r).response.status = 204)
  /-- The others are refused. -/
  refusal : (∀ link ∈ d.links, link.rel ≠ "remove command") →
    ∀ r, r.AsksRemoval caller d.command.id → (respond later t r).response.status = 403

/-- The links of a command. -/
theorem mem_commandLinks {base : String} {link : Link} :
    link ∈ c.links base caller ↔ link = .get (Command.href base c.id) "get command" ∨
      link = .delete (Command.href base c.id) "remove command" ∧ c.mayRemove caller = true := by
  unfold Command.links
  rw [List.mem_cons]
  split
  · next hmay => simp [hmay]
  · next hmay => simp [hmay]

/-- The removal is offered to those who may remove the command. -/
theorem offersRemoval_command {base : String} :
    (∃ link ∈ c.links base caller, link.rel = "remove command") ↔ c.mayRemove caller = true := by
  constructor
  · rintro ⟨link, hlink, hrel⟩
    rcases mem_commandLinks.1 hlink with rfl | ⟨-, hmay⟩
    · exact absurd hrel (by simp [Link.get])
    · exact hmay
  · exact fun hmay => ⟨_, mem_commandLinks.2 (Or.inr ⟨rfl, hmay⟩), rfl⟩

/-- Where the links lead to a command that is shown. -/
theorem ShowsCommand.linksLead {later : Context} (hbase : later.baseUrl = ctx.baseUrl)
    (ht : Written t) (hid : TameId c.id) (hplatform : caller.require Role.platform = .ok ())
    (h : ShowsCommand ctx t caller d c) : CommandLinksLead ctx later t caller d := by
  obtain ⟨rfl, hstored, hvisible⟩ := h
  constructor
  case offered =>
    refine ⟨_, mem_commandLinks.2 (Or.inl rfl), rfl, fun r hmethod hpath => ⟨hmethod, ?_⟩⟩
    exact ⟨"/command/" ++ c.id, String.append_assoc, hpath.trans (commandPath_below c.id).symm⟩
  case reading =>
    intro link hlink hrel r hvisits hsent
    rcases mem_commandLinks.1 hlink with rfl | ⟨rfl, -⟩
    · have hfetches := Request.fetchesCommand hid hvisits.method (hvisits.command rfl) hsent
      rw [hfetches.response hplatform hstored, if_pos hvisible, hbase]
    · exact absurd hrel (by simp [Link.delete])
  case removing =>
    intro link hlink hrel r hvisits hsent
    rcases mem_commandLinks.1 hlink with rfl | ⟨rfl, -⟩
    · exact absurd hrel (by simp [Link.get])
    · exact ⟨hvisits.method, hvisits.command rfl, hsent⟩
  case removal =>
    intro r (hasks : r.AsksRemoval caller c.id)
    rw [hasks.status ht hid hplatform hstored]
    refine offersRemoval_command.trans ?_
    split
    · next hmay => simp [hmay]
    · next hmay => simp [hmay]
  case refusal =>
    intro hnone r (hasks : r.AsksRemoval caller c.id)
    have hmay : ¬ c.mayRemove caller = true := fun hmay => by
      obtain ⟨link, hlink, hrel⟩ := offersRemoval_command.2 hmay
      exact hnone link hlink hrel
    rw [hasks.status ht hid hplatform hstored, if_neg hmay]

/-- **Where the links to commands lead.** Every command in a reply to somebody whom the platform
knows, in any store that requests have made, is read as it is shown there when its reader follows
the link; and the removal is offered exactly when it would succeed. -/
theorem command_links_lead (hs : Reached P s) {ctx later : Context} (hctx : P ctx)
    (hbase : later.baseUrl = ctx.baseUrl) {r : Request} {caller : Caller}
    (hsent : Caller.ofHeaders r.headers = .ok caller)
    (hplatform : caller.require Role.platform = .ok ()) :
    ∀ d ∈ (respond ctx s r).response.content.commandDescriptors,
      CommandLinksLead ctx later (respond ctx s r).store caller d := by
  intro d hd
  have ht : Reached P (respond ctx s r).store := hs.next ctx hctx r
  obtain ⟨c, hshows⟩ := respond_showsCommand hs.written hsent hd
  have hid : TameId c.id := ht.tameCommands c (ht.written.command_stored hshows.stored).1
  exact hshows.linksLead hbase ht.written hid hplatform

/-- Ann gives her command another name. -/
def retitled : Reply := respond mailOnly (annsWork.store .empty) retitling

/-- Ann is shown the command with both links: she reads it, and removes it. -/
theorem command_links_lead_retitled :
    ∃ d ∈ retitled.response.content.commandDescriptors,
      CommandLinksLead mailOnly mailOnly retitled.store ⟨"ann", .ofList [Role.user]⟩ d ∧
      (respond mailOnly retitled.store
        { leaving with
          method := "DELETE", path := commandPath "command" }).response.status = 204 := by
  have hshown : ∃ d ∈ retitled.response.content.commandDescriptors, d.command.id = "command" ∧
      ∃ link ∈ d.links, link.rel = "remove command" := by decide +kernel
  obtain ⟨d, hd, hid, hoffered⟩ := hshown
  unfold retitled at hd ⊢
  have hleads : CommandLinksLead mailOnly mailOnly _ ⟨"ann", .ofList [Role.user]⟩ d :=
    command_links_lead annsWork_reached rfl rfl rfl rfl d hd
  exact ⟨d, hd, hleads, (hleads.removal _ ⟨rfl, by rw [hid], rfl⟩).1 hoffered⟩

end Http

end CloudIde
