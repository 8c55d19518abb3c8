import CloudIde.Proofs.Frame
import CloudIde.Proofs.Reached
import CloudIde.Proofs.WrittenReads

/-!
# Who has roles in workspaces

Workspaces are not stored, only who has which roles in them. A membership of a workspace is written
as a whole, in the place of an earlier one, by a caller who manages the members of that workspace.
So the stored roles are always some, and always roles of workspaces (`Reached.workspaceRoles`); and
nobody comes to be a member, or to have other roles, but by somebody who may appoint them
(`respond_workspaceMembers`).
-/

namespace CloudIde

namespace WorkspaceMemberRow

theorem readOne_ofMember (m : WorkspaceMember) : readOne read (ofMember m) = .ok m := by
  have hread : read (ofMember m)
      = .ok ⟨writeColumn m.roles, fun roles => ⟨m.workspace, m.user, roles⟩⟩ := rfl
  refine readOne_ok.2 ⟨_, hread, ?_⟩
  rw [Unread.value, readColumn_roles]
  rfl

theorem readOne_readRoles (m : WorkspaceMember) :
    readOne readRoles (ofMember m) = .ok (RoleSet.ofList m.roles) := by
  have hread : readRoles (ofMember m) = .ok ⟨writeColumn m.roles, RoleSet.ofList⟩ := rfl
  refine readOne_ok.2 ⟨_, hread, ?_⟩
  rw [Unread.value, readColumn_roles]
  rfl

/-- A row is that of one membership. -/
theorem ofMember_inj {m m' : WorkspaceMember} (h : ofMember m = ofMember m') : m = m' := by
  have hread := readOne_ofMember m
  rw [h, readOne_ofMember] at hread
  exact (Except.ok.inj hread).symm

end WorkspaceMemberRow

namespace Store

/-- A stored membership of a user in a workspace that gives a role. -/
def GivesIn (s : Store) (workspace user role : String) : Prop :=
  ∃ m : WorkspaceMember, .ofMember m ∈ s.workspaceMembers.rows ∧ m.workspace = workspace ∧
    m.user = user ∧ role ∈ m.roles

/-- Every membership of a workspace gives some roles of workspaces, and no others. -/
def WorkspaceRoles (s : Store) : Prop :=
  ∀ row ∈ s.workspaceMembers.rows, ∃ m, row = .ofMember m ∧ SomeOf Role.workspace m.roles

theorem workspaceRoles_empty : WorkspaceRoles empty := by
  intro row hrow
  exact absurd hrow List.not_mem_nil

variable {s : Store} {workspace user role : String}

/-- **A role in a workspace comes from a stored membership.** -/
theorem WorkspaceRoles.gives (h : WorkspaceRoles s) {there : RoleSet}
    (hthere : s.workspaceRoles workspace user = .ok there) (hrole : role ∈ there) :
    s.GivesIn workspace user role ∧ role ∈ Role.workspace := by
  obtain ⟨_, _, hthere⟩ := bind_eq_ok.1 hthere
  split at hthere
  · next row hrow =>
    obtain ⟨hmem, hkey⟩ := Table.find?_mem hrow
    obtain ⟨m, rfl, -, hknown⟩ := h row hmem
    rw [WorkspaceMemberRow.readOne_readRoles] at hthere
    cases hthere
    have hcells : m.workspace = workspace ∧ m.user = user := by
      simpa [Row.key, WorkspaceMemberRow.ofMember] using hkey
    have hrole : role ∈ m.roles := RoleSet.mem_ofList.1 hrole
    exact ⟨⟨m, hmem, hcells.1, hcells.2, hrole⟩, hknown role hrole⟩
  · cases hthere
    exact absurd hrole RoleSet.not_mem_empty

/-- Whoever passes a check of roles in a workspace holds one of them, in the request or in the
workspace; there one holds roles of workspaces only. -/
theorem WorkspaceRoles.holds (h : WorkspaceRoles s) {caller : Caller} {there : RoleSet}
    (hthere : s.workspaceRoles workspace caller.user = .ok there) {allowed : List String}
    (hmay : caller.requireScoped there allowed = .ok ()) :
    ∃ role ∈ allowed, caller.hasRole role = true ∨
      s.GivesIn workspace caller.user role ∧ role ∈ Role.workspace := by
  obtain ⟨role, hrole, hholds⟩ := Caller.requireScoped_iff.1 hmay
  exact ⟨role, hrole, hholds.imp_right (h.gives hthere)⟩

/-- An administrator of the platform is known by the request alone, as no membership of a workspace
gives that role. -/
theorem WorkspaceRoles.manages (h : WorkspaceRoles s) {caller : Caller} {there : RoleSet}
    (hthere : s.workspaceRoles workspace caller.user = .ok there)
    (hmay : caller.requireScoped there Platform.memberManagers = .ok ()) :
    caller.hasRole Role.workspaceAdmin = true ∨ caller.hasRole Role.systemAdmin = true ∨
      s.GivesIn workspace caller.user Role.workspaceAdmin := by
  obtain ⟨role, hrole, hholds⟩ := h.holds hthere hmay
  simp only [Platform.memberManagers, List.mem_cons, List.not_mem_nil, or_false] at hrole
  rcases hrole with rfl | rfl
  · rcases hholds with hglobal | ⟨hgives, -⟩
    · exact Or.inl hglobal
    · exact Or.inr (Or.inr hgives)
  · rcases hholds with hglobal | ⟨-, hknown⟩
    · exact Or.inr (Or.inl hglobal)
    · exact absurd hknown (by decide)

end Store

namespace Http

open Store Platform

variable {P : Context → Prop} {ctx : Context} {s : Store} {caller : Caller}

/-- A membership of a workspace is written, after the checks, in the place of the one that the user
has had; no other operation touches memberships of workspaces. -/
theorem Effect.workspaceMembers {op : Operation} {reply : Reply}
    (h : Effect ctx s caller op reply) :
    reply.store.workspaceMembers = s.workspaceMembers ∨
      ∃ (m : WorkspaceMember) (there : RoleSet),
        op = .addWorkspaceMember m.workspace ⟨m.user, m.roles⟩ ∧
        s.workspaceRoles m.workspace caller.user = .ok there ∧
        caller.requireScoped there memberManagers = .ok () ∧ SomeOf Role.workspace m.roles ∧
        reply.store.workspaceMembers = s.workspaceMembers.put (.ofMember m) := by
  rcases h.frame.workspaceMembers with hwritten | hsame
  · cases h with
    | looked | refused => exact Or.inl rfl
    | @workspaceMemberAdded workspace new there t hthere hrole hroles ht =>
      cases addWorkspaceMember_ok ht
      exact Or.inr ⟨⟨workspace, new.user, new.roles⟩, there, rfl, hthere, hrole,
        checkRoles_iff.1 hroles, rfl⟩
    | _ => exact absurd hwritten (by simp [Operation.writes])
  · exact Or.inl hsame

theorem Effect.workspaceRoles {op : Operation} {reply : Reply}
    (h : Effect ctx s caller op reply) (hs : WorkspaceRoles s) : WorkspaceRoles reply.store := by
  unfold WorkspaceRoles
  rcases h.workspaceMembers with hsame | ⟨m, _, -, -, -, hroles, hput⟩
  · rw [hsame]
    exact hs
  · rw [hput]
    intro row hrow
    rcases Table.mem_of_mem_put hrow with rfl | hrow
    · exact ⟨m, rfl, hroles⟩
    · exact hs row hrow

/-- **The roles in workspaces are always some, and none but roles of workspaces.** -/
theorem Reached.workspaceRoles (h : Reached P s) : WorkspaceRoles s := by
  induction h with
  | empty => exact workspaceRoles_empty
  | next _ ctx _ r ih => exact respond_keeps ih (fun heffect => heffect.workspaceRoles ih) r

/-- A request that makes a user a member of a workspace, or changes what roles they have there. The
one who sends it administrates the workspace, or the platform. -/
structure Appoints (s : Store) (r : Request) (m : WorkspaceMember) (caller : Caller) : Prop where
  sent : Caller.ofHeaders r.headers = .ok caller
  posted : r.method = "POST"
  path : ∃ raw, Resource.ofPath? r.path = some (.workspaceMembers raw) ∧
    Request.parameter "workspace_id" raw = .ok m.workspace
  body : r.value NewWorkspaceMember = .ok ⟨m.user, m.roles⟩
  may : caller.hasRole Role.workspaceAdmin = true ∨ caller.hasRole Role.systemAdmin = true ∨
    s.GivesIn m.workspace caller.user Role.workspaceAdmin
  roles : SomeOf Role.workspace m.roles

/-- **What becomes of the memberships of workspaces when a request is answered.** Those that are new
or have changed were written by who may appoint members; nobody's membership goes away. -/
theorem respond_workspaceMembers (hs : Written s) (hroles : WorkspaceRoles s) (r : Request) :
    (∀ m, .ofMember m ∈ (respond ctx s r).store.workspaceMembers.rows →
      .ofMember m ∈ s.workspaceMembers.rows ∨ ∃ caller, Appoints s r m caller) ∧
    (∀ m, .ofMember m ∈ s.workspaceMembers.rows →
      ∃ m', .ofMember m' ∈ (respond ctx s r).store.workspaceMembers.rows ∧
        m'.workspace = m.workspace ∧ m'.user = m.user) := by
  have hkept {t : Store} (hsame : t.workspaceMembers = s.workspaceMembers) :
      (∀ m, .ofMember m ∈ t.workspaceMembers.rows → .ofMember m ∈ s.workspaceMembers.rows ∨
        ∃ caller, Appoints s r m caller) ∧
      (∀ m, .ofMember m ∈ s.workspaceMembers.rows → ∃ m', .ofMember m' ∈ t.workspaceMembers.rows ∧
        m'.workspace = m.workspace ∧ m'.user = m.user) := by
    rw [hsame]
    exact ⟨fun m hm => Or.inl hm, fun m hm => ⟨m, hm, rfl, rfl⟩⟩
  rcases respond_effect ctx s r with hsame | ⟨d, resource, method, reply, hasks, heffect, hstore⟩
  · exact hkept (by rw [hsame])
  rw [hstore]
  rcases heffect.workspaceMembers with hsame | ⟨m, there, hop, hthere, hrole, hsome, hput⟩
  · exact hkept hsame
  have hasked := hasks.askedAt
  rw [hop] at hasked
  obtain ⟨rfl, hbody, raw, rfl, hid⟩ := hasked
  have happoints : Appoints s r m d.caller := {
    sent := hasks.caller
    posted := (hasks.named_eq (by decide)).1
    path := ⟨raw, hasks.path, hid⟩
    body := hbody
    may := hroles.manages hthere hrole
    roles := hsome }
  have hmade := hs.made.workspaceMembers
  rw [hput]
  refine ⟨fun m' hm' => ?_, fun m' hm' => ?_⟩
  · rcases (Table.mem_put hmade).1 hm' with hsame | ⟨hold, -⟩
    · obtain rfl := WorkspaceMemberRow.ofMember_inj hsame
      exact Or.inr ⟨d.caller, happoints⟩
    · exact Or.inl hold
  · -- the new row stands for the old one of its workspace and user, and leaves the others
    by_cases hkey : m'.workspace = m.workspace ∧ m'.user = m.user
    · exact ⟨m, (Table.mem_put hmade).2 (Or.inl rfl), hkey.1.symm, hkey.2.symm⟩
    · refine ⟨m', (Table.mem_put hmade).2 (Or.inr ⟨hm', fun horder => hkey ?_⟩), rfl, rfl⟩
      simpa [Row.order, Row.key, WorkspaceMemberRow.ofMember, Cell.spelling] using horder

end Http

end CloudIde
