import CloudIde.Proofs.Frame
import CloudIde.Proofs.Run
import CloudIde.Proofs.WrittenReads

/-!
# What requests do to commands

Three operations write commands. One makes a command for its caller, one changes a command of its
caller, one takes a command away; `CommandChange` has no other cases. An update is written over the
row as a whole, from what was read of the command before, so the row says again who made it and for
which workspace.
-/

namespace CloudIde

/-- A row is that of one command. -/
theorem CommandRow.ofCommand_inj {c d : Command} (h : ofCommand c = ofCommand d) : c = d := by
  have hread := command_ofCommand c
  rw [h, command_ofCommand] at hread
  exact (Except.ok.inj hread).symm

/-- The row of a command that is written over it, changed. -/
theorem CommandRow.updated_self {c d : Command} (hid : d.id = c.id)
    (hcreator : d.creator = c.creator) (hworkspace : d.workspace = c.workspace) :
    (ofCommand c).updated d = ofCommand d := by
  have hcell : (ofCommand c).id = .text d.id := congrArg Cell.text hid.symm
  unfold updated
  rw [if_pos hcell]
  simp [ofCommand, hid, hcreator, hworkspace]

namespace Store

variable {s t : Store}

/-- There is one command of an id. -/
theorem Written.command_eq (hs : Written s) {c d : Command}
    (hc : .ofCommand c ∈ s.commands.rows) (hd : .ofCommand d ∈ s.commands.rows)
    (hid : c.id = d.id) : c = d := by
  refine CommandRow.ofCommand_inj (Table.eq_of_key hs.made.commands hc hd ?_)
  show [Cell.text c.id] = [Cell.text d.id]
  rw [hid]

theorem Written.command_stored (hs : Written s) {id : String} {c : Command}
    (h : s.command id = .ok c) : .ofCommand c ∈ s.commands.rows ∧ c.id = id := by
  obtain ⟨_, _, h⟩ := bind_eq_ok.1 h
  split at h
  · next row hrow =>
    obtain ⟨hmem, hkey⟩ := Table.find?_mem hrow
    obtain ⟨d, rfl⟩ := hs.command row hmem
    rw [CommandRow.command_ofCommand] at h
    cases h
    exact ⟨hmem, Cell.text.inj (List.cons.inj hkey).1⟩
  · exact absurd h (by simp)

/-- An update changes the row of its command and leaves the others. -/
theorem Written.updateCommand_rows (hs : Written s) {c : Command} {u : CommandUpdate}
    (hc : .ofCommand c ∈ s.commands.rows) (row : CommandRow) :
    row ∈ (s.commands.modify (fun row => row.updated (c.apply u))
        (CommandRow.key_updated (c.apply u))).rows ↔
      row = .ofCommand (c.apply u) ∨ row ∈ s.commands.rows ∧ row.id ≠ .text c.id := by
  have hself : (CommandRow.ofCommand c).updated (c.apply u) = .ofCommand (c.apply u) :=
    CommandRow.updated_self rfl rfl rfl
  rw [Table.mem_modify _ (CommandRow.key_updated _)]
  constructor
  · rintro ⟨other, hother, rfl⟩
    by_cases hid : other.id = .text c.id
    · obtain rfl : other = .ofCommand c :=
        Table.eq_of_key hs.made.commands hother hc (by simp [Row.key, hid, CommandRow.ofCommand])
      exact Or.inl hself
    · have hleft : other.updated (c.apply u) = other := if_neg hid
      rw [hleft]
      exact Or.inr ⟨hother, hid⟩
  · rintro (rfl | ⟨hrow, hid⟩)
    · exact ⟨_, hc, hself⟩
    · exact ⟨row, hrow, if_neg hid⟩

end Store

namespace Http

open Store Platform

/-- A body is an update of a command that the caller has made, and the update is in order. -/
structure Changing (s : Store) (caller : Caller) (body : Bytes) (update : CommandUpdate)
    (c : Command) : Prop where
  role : caller.hasRole Role.user = true
  given : Body.optional CommandUpdate body = .ok (some update)
  id : update.id = some c.id
  /-- A name may be left out, but not left empty. -/
  name : update.name ≠ some ""
  commandLine : update.commandLine ≠ some ""
  stored : .ofCommand c ∈ s.commands.rows
  own : c.creator = caller.user

/-- What an operation does to the commands of a store. -/
inductive CommandChange (s : Store) (caller : Caller) : Operation → Store → Prop
  | none {op : Operation} {t : Store} (hsame : t.commands = s.commands) :
      CommandChange s caller op t
  | made {c : Command} {body : Bytes} {there : RoleSet} {t : Store}
      (hthere : s.workspaceRoles c.workspace caller.user = .ok there)
      (hrole : caller.requireScoped there Role.workspace = .ok ())
      (hcreator : c.creator = caller.user) (hname : c.name ≠ "") (hline : c.commandLine ≠ "")
      (hfresh : s.commands.hasKey [.text c.id] = false)
      (hrows : ∀ row, row ∈ t.commands.rows ↔ row = .ofCommand c ∨ row ∈ s.commands.rows) :
      CommandChange s caller (.createCommand c.workspace body) t
  | changed {c : Command} {body : Bytes} {update : CommandUpdate} {t : Store}
      (hchanging : Changing s caller body update c)
      (hrows : ∀ row, row ∈ t.commands.rows ↔
        row = .ofCommand (c.apply update) ∨ row ∈ s.commands.rows ∧ row.id ≠ .text c.id) :
      CommandChange s caller (.updateCommand body) t
  | removed {c : Command} {t : Store} (hrole : caller.require Role.platform = .ok ())
      (hc : .ofCommand c ∈ s.commands.rows) (hmay : c.mayRemove caller = true)
      (hrows : ∀ row, row ∈ t.commands.rows ↔ row ∈ s.commands.rows ∧ row.id ≠ .text c.id) :
      CommandChange s caller (.removeCommand c.id) t

variable {ctx : Context} {s : Store} {caller : Caller}

theorem ne_empty_of_isEmpty {text : String} (h : text.isEmpty = false) : text ≠ "" := by
  rintro rfl
  exact absurd h (by decide)

theorem commandTextUnlessAbsent_ok {value : Option String} {part : String}
    (h : commandTextUnlessAbsent value part = .ok ()) : value ≠ some "" := by
  rintro rfl
  exact absurd h (by simp [commandTextUnlessAbsent])

theorem Changeable.changing (hs : Written s) {body : Bytes} {update : CommandUpdate} {id : String}
    {c : Command} (h : Changeable s caller body update id c) :
    c.id = id ∧ Changing s caller body update c := by
  obtain ⟨hstored, rfl⟩ := hs.command_stored h.found
  refine ⟨rfl, {
    role := ?_
    given := h.given
    id := h.named
    name := commandTextUnlessAbsent_ok h.name
    commandLine := commandTextUnlessAbsent_ok h.commandLine
    stored := hstored
    own := h.own }⟩
  simpa using Caller.require_iff.1 h.role

/-- **No operation does anything else to commands.** -/
theorem Effect.commandChange (hs : Written s) {op : Operation} {reply : Reply}
    (h : Effect ctx s caller op reply) : CommandChange s caller op reply.store := by
  rcases h.frame.commands with hwritten | hsame
  · cases h with
    | looked | refused => exact .none rfl
    | commandMade hthere hrole _ hcreator hworkspace hname hline ht =>
      obtain ⟨T, hT, rfl⟩ := createCommand_ok ht
      subst hworkspace
      exact .made hthere hrole hcreator (ne_empty_of_isEmpty hname) (ne_empty_of_isEmpty hline)
        (hT.not_hasKey hs.made.commands) fun row => hT.mem_iff
    | commandChanged hupdate ht =>
      obtain ⟨c, hc⟩ := changing_ok hupdate
      obtain ⟨rfl, hchanging⟩ := hc.changing hs
      obtain ⟨id, c', hid, hc', rfl⟩ := updateCommand_ok ht
      obtain rfl : c.id = id := Option.some.inj (hc.named.symm.trans hid)
      obtain rfl : c = c' := Except.ok.inj (hc.found.symm.trans hc')
      exact .changed hchanging (hs.updateCommand_rows hchanging.stored)
    | commandRemoved hrole hc hmay ht =>
      obtain ⟨hstored, rfl⟩ := hs.command_stored hc
      cases removeCommand_ok ht
      refine .removed hrole hstored hmay fun row => ?_
      rw [Table.mem_erase]
      simp [Row.key]
    | _ => exact absurd hwritten (by simp [Operation.writes])
  · exact .none hsame

end Http

end CloudIde
