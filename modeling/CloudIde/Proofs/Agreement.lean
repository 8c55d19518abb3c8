import CloudIde.Proofs.History

/-!
# Runs that cannot be told apart

Take a relation of stores such that the same request, answered in the same circumstances, gives the
same response from related stores and leaves related stores. Then whatever is asked for in whatever
order, all responses are the same, and the stores at the end are related (`History.agree`). So
nothing in which related stores differ can be learned from a history.

What a request does is settled operation by operation (`respond_agree`). The operations on the
members and the commands of workspaces look at nothing else, so they agree whenever the relation
asks for the same members and commands, and for nothing more of them (`SharesWorkspaces`,
`SharesCommands`).
-/

namespace CloudIde.Http

open Store

variable {R : Store → Store → Prop} {ctx : Context} {s t : Store} {caller : Caller}

/-- Two replies say the same and leave related stores. -/
structure Agree (R : Store → Store → Prop) (a b : Reply) : Prop where
  response : a.response = b.response
  stores : R a.store b.store

namespace Agree

theorem refused (h : R s t) {f : Failure} {c d : List ServiceCall} :
    Agree R ⟨.failed f, s, c⟩ ⟨.failed f, t, d⟩ := ⟨rfl, h⟩

theorem shown (h : R s t) {α : Type} {payload : α → Payload} {x y : Except Failure α}
    (hxy : x = y) : Agree R (.shown s payload x) (.shown t payload y) := by
  subst hxy
  exact ⟨rfl, h⟩

/-- Operations with one write at their end. -/
theorem writing (h : R s t) {α : Type} {status : Nat} {content : α → Content}
    {m n : Except Failure (Store × α)}
    (hmn : Matches (fun a b => R a.1 b.1 ∧ a.2 = b.2) m n) :
    Agree R (.ofOutcome status content (.writing s m))
      (.ofOutcome status content (.writing t n)) := by
  cases hmn with
  | error f => exact ⟨rfl, h⟩
  | @ok a b hab =>
    obtain ⟨u, x⟩ := a
    obtain ⟨v, y⟩ := b
    obtain ⟨hstores, rfl⟩ := hab
    exact ⟨rfl, hstores⟩

end Agree

/-- **A request agrees when the operation does that it asks for.** -/
theorem respond_agree (h : R s t) {r : Request}
    (hperform : ∀ d, r.demand = .ok d →
      Agree R (d.operation.perform ctx s d.caller) (d.operation.perform ctx t d.caller)) :
    Agree R (respond ctx s r) (respond ctx t r) := by
  cases hd : r.demand with
  | error response =>
    -- what is refused before the store is looked at is refused in both
    rw [respond_of_no_demand hd, respond_of_no_demand hd]
    exact ⟨rfl, h⟩
  | ok d =>
    have hagree := hperform d hd
    rw [respond_of_demand hd, respond_of_demand hd]
    refine ⟨?_, ?_⟩
    · unfold Demand.reply
      simp only
      split
      · simp only [Reply.withoutContent, hagree.response]
      · exact hagree.response
    · rw [Demand.reply_store, Demand.reply_store]
      exact hagree.stores

namespace History

/-- The responses on the way. -/
def responses (s : Store) : History → List Response
  | [] => []
  | (ctx, r) :: rest => (respond ctx s r).response :: responses (respond ctx s r).store rest

/-- **What each request keeps, a history keeps**: the responses are the same, and the stores at the
end are related. -/
theorem agree {h : History}
    (hstep : ∀ e ∈ h, ∀ s t, R s t → Agree R (respond e.1 s e.2) (respond e.1 t e.2))
    {s t : Store} (hst : R s t) : responses s h = responses t h ∧ R (store s h) (store t h) := by
  induction h generalizing s t with
  | nil => exact ⟨rfl, hst⟩
  | cons e rest ih =>
    obtain ⟨ctx, r⟩ := e
    have hfirst := hstep (ctx, r) List.mem_cons_self s t hst
    have hlater := ih (fun e he => hstep e (List.mem_cons_of_mem _ he)) hfirst.stores
    refine ⟨?_, hlater.2⟩
    unfold responses
    rw [hfirst.response, hlater.1]

end History

/-! ## The members of workspaces -/

/-- A relation of stores that asks for the same members of workspaces, and for nothing more of
them. -/
structure SharesWorkspaces (R : Store → Store → Prop) : Prop where
  same : ∀ {s t}, R s t → s.workspaceMembers = t.workspaceMembers
  set : ∀ {s t} (T : Table WorkspaceMemberRow), R s t →
    R { s with workspaceMembers := T } { t with workspaceMembers := T }

namespace SharesWorkspaces

variable (hR : SharesWorkspaces R) (h : R s t)
include hR h

theorem workspaceRoles_eq (workspace user : String) :
    s.workspaceRoles workspace user = t.workspaceRoles workspace user := by
  unfold workspaceRoles
  rw [hR.same h]

theorem workspaceMembersOf_eq (workspace : String) :
    s.workspaceMembersOf workspace = t.workspaceMembersOf workspace := by
  unfold workspaceMembersOf
  rw [hR.same h]

theorem store_addWorkspaceMember (m : WorkspaceMember) :
    Matches R (s.addWorkspaceMember m) (t.addWorkspaceMember m) := by
  unfold Store.addWorkspaceMember
  rw [hR.same h]
  refine bind_matches rfl fun _ _ => ?_
  exact .ok (hR.set _ h)

theorem listWorkspaceMembers (workspace : String) :
    Agree R (.shown s .workspaceMembers (Platform.workspaceMembers s caller workspace))
      (.shown t .workspaceMembers (Platform.workspaceMembers t caller workspace)) := by
  refine .shown h ?_
  refine bind_eq_bind (hR.workspaceRoles_eq h workspace caller.user) fun _ _ => ?_
  exact bind_eq_bind rfl fun _ _ => hR.workspaceMembersOf_eq h workspace

theorem addWorkspaceMember (workspace : String) (new : NewWorkspaceMember) :
    Agree R (.made .workspaceMember (Platform.addWorkspaceMember s caller workspace new))
      (.made .workspaceMember (Platform.addWorkspaceMember t caller workspace new)) := by
  refine .writing h ?_
  refine bind_matches (hR.workspaceRoles_eq h workspace caller.user) fun _ _ => ?_
  refine bind_matches rfl fun _ _ => ?_
  refine bind_matches rfl fun _ _ => ?_
  exact (hR.store_addWorkspaceMember h _).bind fun _ _ hstores => .ok ⟨hstores, rfl⟩

end SharesWorkspaces

/-! ## Commands -/

section

variable (h : R s t)
include h

/-- A command is made alike where the caller has the same roles and the stores take it alike. -/
theorem createCommand_agree {workspace : String}
    (hroles : s.workspaceRoles workspace caller.user = t.workspaceRoles workspace caller.user)
    (hcreate : ∀ c, Matches R (s.createCommand c) (t.createCommand c)) (body : Bytes) :
    Agree R (.made .command (Platform.createCommand ctx s caller workspace body))
      (.made .command (Platform.createCommand ctx t caller workspace body)) := by
  refine .writing h ?_
  refine bind_matches hroles fun _ _ => ?_
  refine bind_matches rfl fun _ _ => ?_
  refine bind_matches rfl fun _ _ => ?_
  refine bind_matches rfl fun _ _ => ?_
  refine bind_matches rfl fun _ _ => ?_
  refine bind_matches rfl fun _ _ => ?_
  exact (hcreate _).bind fun _ _ hstores => .ok ⟨hstores, rfl⟩

/-- A command is changed alike where the same is asked for, and what it has become is the same. -/
theorem updateCommand_agree {body : Bytes}
    (hchanging : Platform.changing s caller body = Platform.changing t caller body)
    (hupdate : ∀ update id, Platform.changing s caller body = .ok (update, id) →
      Matches (fun u v => R u v ∧ u.command id = v.command id) (s.updateCommand update)
        (t.updateCommand update)) :
    Agree R (.done .command (Platform.updateCommand ctx s caller body))
      (.done .command (Platform.updateCommand ctx t caller body)) := by
  unfold Platform.updateCommand
  rw [← hchanging]
  cases hasked : Platform.changing s caller body with
  | error f => exact .refused h
  | ok changing =>
    obtain ⟨update, id⟩ := changing
    have hupdate := hupdate update id hasked
    simp only
    generalize s.updateCommand update = x at hupdate ⊢
    generalize t.updateCommand update = y at hupdate ⊢
    cases hupdate with
    | error f => exact .refused h
    | ok huv => exact .shown huv.1 (bind_eq_bind huv.2 fun _ _ => rfl)

/-- A command is removed alike where the caller may remove what is found in either store. -/
theorem removeCommand_agree {id : String}
    (hcommand : Matches (fun c d => c.mayRemove caller = d.mayRemove caller) (s.command id)
      (t.command id))
    (hremove : Matches R (s.removeCommand id) (t.removeCommand id)) :
    Agree R (.removed (Platform.removeCommand s caller id))
      (.removed (Platform.removeCommand t caller id)) := by
  refine .writing h (bind_matches rfl fun _ _ => ?_)
  refine hcommand.bind fun c d hmay => ?_
  rw [hmay]
  split
  · exact hremove.bind fun _ _ hstores => .ok ⟨hstores, rfl⟩
  · exact .error _

end

/-- What is asked of a command to change it is whether the caller made it. -/
theorem changing_eq
    (hcommand : ∀ id, Matches (fun c d => c.creator = caller.user ↔ d.creator = caller.user)
      (s.command id) (t.command id)) (body : Bytes) :
    Platform.changing s caller body = Platform.changing t caller body := by
  refine bind_eq_bind rfl fun _ _ => ?_
  refine bind_eq_bind rfl fun _ _ => ?_
  refine bind_eq_bind rfl fun update _ => ?_
  refine bind_eq_bind rfl fun id _ => ?_
  refine bind_eq_bind rfl fun _ _ => ?_
  refine bind_eq_bind rfl fun _ _ => ?_
  refine Matches.eq ((hcommand id).bind fun c d hcd => ?_)
  simp only [hcd]
  exact .refl (fun _ => rfl) _

/-- A relation of stores that asks for the same commands, and for nothing more of them. -/
structure SharesCommands (R : Store → Store → Prop) : Prop where
  same : ∀ {s t}, R s t → s.commands = t.commands
  set : ∀ {s t} (T : Table CommandRow), R s t →
    R { s with commands := T } { t with commands := T }

namespace SharesCommands

variable (hR : SharesCommands R) (h : R s t)
include hR h

theorem command_eq (id : String) : s.command id = t.command id := by
  unfold command
  rw [hR.same h]

theorem visibleCommands_eq (workspace user : String) :
    s.visibleCommands workspace user = t.visibleCommands workspace user := by
  unfold visibleCommands
  rw [hR.same h]

theorem store_createCommand (c : Command) :
    Matches R (s.createCommand c) (t.createCommand c) := by
  unfold Store.createCommand
  rw [hR.same h]
  refine bind_matches rfl fun _ _ => ?_
  split
  · exact .ok (hR.set _ h)
  · exact .error _

theorem store_updateCommand (u : CommandUpdate) :
    Matches R (s.updateCommand u) (t.updateCommand u) := by
  unfold Store.updateCommand
  split
  · exact .error _
  · refine bind_matches (hR.command_eq h _) fun c _ => ?_
    rw [hR.same h]
    refine bind_matches rfl fun _ _ => ?_
    exact .ok (hR.set _ h)

theorem store_removeCommand (id : String) :
    Matches R (s.removeCommand id) (t.removeCommand id) := by
  unfold Store.removeCommand
  rw [hR.same h]
  refine bind_matches rfl fun _ _ => ?_
  split
  · exact .ok (hR.set _ h)
  · exact .error _

theorem showCommand (id : String) :
    Agree R (.shown s .command (Platform.command ctx s caller id))
      (.shown t .command (Platform.command ctx t caller id)) :=
  .shown h (bind_eq_bind rfl fun _ _ => bind_eq_bind (hR.command_eq h id) fun _ _ => rfl)

theorem listCommands (workspace : String) :
    Agree R (.shown s .commands (Platform.commands ctx s caller workspace))
      (.shown t .commands (Platform.commands ctx t caller workspace)) :=
  .shown h (bind_eq_bind (hR.visibleCommands_eq h workspace caller.user) fun _ _ => rfl)

theorem createCommand (hworkspaces : SharesWorkspaces R) (workspace : String) (body : Bytes) :
    Agree R (.made .command (Platform.createCommand ctx s caller workspace body))
      (.made .command (Platform.createCommand ctx t caller workspace body)) :=
  createCommand_agree h (hworkspaces.workspaceRoles_eq h workspace caller.user)
    (hR.store_createCommand h) body

theorem updateCommand (body : Bytes) :
    Agree R (.done .command (Platform.updateCommand ctx s caller body))
      (.done .command (Platform.updateCommand ctx t caller body)) := by
  have hcommand (id : String) :
      Matches (fun c d : Command => c.creator = caller.user ↔ d.creator = caller.user)
        (s.command id) (t.command id) := by
    rw [hR.command_eq h id]
    refine .refl ?_ _
    exact fun _ => Iff.rfl
  refine updateCommand_agree h (changing_eq hcommand body) fun update id _ => ?_
  refine (hR.store_updateCommand h update).mono fun u v hstores => ?_
  exact ⟨hstores, hR.command_eq hstores id⟩

theorem removeCommand (id : String) :
    Agree R (.removed (Platform.removeCommand s caller id))
      (.removed (Platform.removeCommand t caller id)) := by
  refine removeCommand_agree h ?_ (hR.store_removeCommand h id)
  rw [hR.command_eq h id]
  refine .refl ?_ _
  exact fun _ => rfl

end SharesCommands

end CloudIde.Http
