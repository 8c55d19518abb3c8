import CloudIde.Proofs.CallHistory
import CloudIde.Proofs.Failures

/-!
# How accounts lose their owners

Whoever makes an account owns it, and the membership of a user is replaced as a whole when the user
is added again. Nothing looks at who else owns the account then, so an account can be left without
an owner (`last_owner_left`), by an owner who gives up ownership themselves, say. There is no other
way to it: an account has members at all times, and in the run that has led to an account without an
owner somebody who may add members has given the last owner roles that are not those of an owner
(`last_owner_deposed`).
-/

namespace CloudIde

namespace Store

/-- Somebody owns the account. -/
def Owned (s : Store) (id : String) : Prop := ∃ user, s.Gives id user Role.accountOwner

/-- Every account has members. -/
def Inhabited (s : Store) : Prop :=
  ∀ id, s.hasAccount id = true → ∃ m, .ofMember m ∈ s.members.rows ∧ m.account = id

end Store

namespace Http

open Store Platform

variable {P : Context → Prop} {ctx : Context} {s t : Store} {caller : Caller} {id : String}

/-- What an operation does to the memberships of accounts. -/
inductive MemberChange (s : Store) (caller : Caller) : Operation → Store → Prop
  | none {op : Operation} {t : Store} (hmembers : t.members = s.members)
      (haccounts : ∀ id, t.hasAccount id = s.hasAccount id) : MemberChange s caller op t
  /-- An account is opened, and the caller is its owner. -/
  | opened {new : NewAccount} {id : String} {t : Store} (hnew : s.hasAccount id = false)
      (hmembers : t.members = s.members.put (.ofMember ⟨id, caller.user, [Role.accountOwner]⟩))
      (haccounts : ∀ other, t.hasAccount other = true ↔ id = other ∨ s.hasAccount other = true) :
      MemberChange s caller (.createAccount new) t
  /-- A user has the roles that a caller gives them who may add members. -/
  | added {m : Member} {there : RoleSet} {t : Store}
      (hthere : s.accountRoles m.account caller.user = .ok there)
      (hrole : caller.requireScoped there [Role.accountOwner, Role.systemAdmin] = .ok ())
      (hroles : SomeOf Role.account m.roles) (haccount : s.hasAccount m.account = true)
      (hmembers : t.members = s.members.put (.ofMember m)) (haccounts : t.accounts = s.accounts) :
      MemberChange s caller (.addMember m.account ⟨m.user, m.roles⟩) t

/-- **No operation does anything else to memberships.** The owner of a new account can always be
added. -/
theorem Effect.memberChange (hs : Written s) {op : Operation} {reply : Reply}
    (h : Effect ctx s caller op reply) : MemberChange s caller op reply.store := by
  by_cases hwritten : .members ∈ op.writes
  · cases h with
    | looked | refused => exact .none rfl fun _ => rfl
    | accountMade _ _ ht hu =>
      obtain ⟨T, hT, rfl⟩ := createAccount_ok ht
      obtain ⟨-, rfl⟩ := addMember_ok hu
      refine .opened (hT.not_hasKey hs.made.accounts) rfl fun other => ?_
      unfold hasAccount
      rw [hT.hasKey_iff]
      simp [Row.key, AccountRow.ofAccount]
    | @ownerMissing new a t f _ _ ht hf =>
      have hwritten := written_createAccount hs ht
      obtain ⟨T, hT, rfl⟩ := createAccount_ok ht
      have hthere : Store.hasAccount { s with accounts := T } a.id = true :=
        hT.hasKey_iff.2 (Or.inl rfl)
      obtain ⟨u, hu⟩ := hwritten.addMember_succeeds (m := ⟨a.id, caller.user, _⟩) hthere
      rw [hu] at hf
      exact absurd hf (by simp)
    | @memberAdded account new there t hthere hrole hroles ht =>
      obtain ⟨haccount, rfl⟩ := addMember_ok ht
      exact .added (m := ⟨account, new.user, new.roles⟩) hthere hrole (checkRoles_iff.1 hroles)
        (haccount hs.made.members) rfl rfl
    | _ => exact absurd hwritten (by simp [Operation.writes])
  · have hneither : .accounts ∉ op.writes := by cases op <;> simp_all [Operation.writes]
    refine .none (h.frame.members.resolve_left hwritten) fun id => ?_
    unfold hasAccount
    rw [h.frame.accounts.resolve_left hneither]

/-- An account that is new has an owner. -/
theorem MemberChange.owned {op : Operation} (h : MemberChange s caller op t) (ht : Written t)
    (hmade : s.members.layout = .made) (hnew : s.hasAccount id = false)
    (hid : t.hasAccount id = true) : t.Owned id := by
  cases h with
  | none _ haccounts =>
    rw [haccounts, hnew] at hid
    exact absurd hid (by simp)
  | @opened _ opened _ _ hmembers haccounts =>
    rcases (haccounts id).1 hid with rfl | hold
    · let owner : Member := ⟨opened, caller.user, [Role.accountOwner]⟩
      refine ⟨caller.user, ht.gives_iff.2 ⟨owner, ?_, rfl, rfl, List.mem_singleton.2 rfl⟩⟩
      rw [hmembers]
      exact (Table.mem_put hmade).2 (Or.inl rfl)
    · rw [hnew] at hold
      exact absurd hold (by simp)
  | added _ _ _ _ _ haccounts =>
    have hsame : t.hasAccount id = s.hasAccount id := by unfold hasAccount; rw [haccounts]
    rw [hsame, hnew] at hid
    exact absurd hid (by simp)

/-- What is put in the place of a membership is one of the same account. -/
theorem exists_member_put {m m' : Member} (hmade : s.members.layout = .made)
    (hm' : .ofMember m' ∈ s.members.rows) :
    ∃ k, .ofMember k ∈ (s.members.put (.ofMember m)).rows ∧ k.account = m'.account := by
  by_cases horder : Row.order (MemberRow.ofMember m') = Row.order (MemberRow.ofMember m)
  · refine ⟨m, (Table.mem_put hmade).2 (Or.inl rfl), ?_⟩
    have hcells : m'.account = m.account ∧ m'.user = m.user := by
      simpa [Row.order, Row.key, MemberRow.ofMember, Cell.spelling] using horder
    exact hcells.1.symm
  · exact ⟨m', (Table.mem_put hmade).2 (Or.inr ⟨hm', horder⟩), rfl⟩

theorem MemberChange.inhabited {op : Operation} (h : MemberChange s caller op t)
    (hmade : s.members.layout = .made) (hs : Inhabited s) : Inhabited t := by
  intro id hid
  cases h with
  | none hmembers haccounts =>
    rw [haccounts] at hid
    rw [hmembers]
    exact hs id hid
  | opened _ hmembers haccounts =>
    rw [hmembers]
    rcases (haccounts id).1 hid with rfl | hold
    · exact ⟨_, (Table.mem_put hmade).2 (Or.inl rfl), rfl⟩
    · obtain ⟨m, hm, rfl⟩ := hs id hold
      exact exists_member_put hmade hm
  | added _ _ _ _ hmembers haccounts =>
    have hsame : t.hasAccount id = s.hasAccount id := by unfold hasAccount; rw [haccounts]
    rw [hsame] at hid
    rw [hmembers]
    obtain ⟨m, hm, rfl⟩ := hs id hid
    exact exists_member_put hmade hm

/-! ## The last owner -/

/-- A request that gives the one owner of an account roles that are not those of an owner. Its
sender owns the account, or owns all of them, or administrates the platform. -/
structure Deposes (s : Store) (r : Request) (id : String) (caller : Caller) (new : NewMember) :
    Prop where
  sent : Caller.ofHeaders r.headers = .ok caller
  posted : r.method = "POST"
  path : ∃ raw, Resource.ofPath? r.path = some (.members raw) ∧
    Request.parameter "account_id" raw = .ok id
  body : r.value NewMember = .ok new
  may : caller.hasRole Role.accountOwner = true ∨ caller.hasRole Role.systemAdmin = true ∨
    s.Gives id caller.user Role.accountOwner
  roles : SomeOf Role.account new.roles
  resigned : Role.accountOwner ∉ new.roles
  last : ∀ user, s.Gives id user Role.accountOwner → user = new.user

/-- Who may add members to an account. -/
theorem may_addMember (hs : Written s) (hknown : KnownRoles s) {there : RoleSet}
    (hthere : s.accountRoles id caller.user = .ok there) :
    caller.requireScoped there [Role.accountOwner, Role.systemAdmin] = .ok () ↔
      caller.hasRole Role.accountOwner = true ∨ caller.hasRole Role.systemAdmin = true ∨
        s.Gives id caller.user Role.accountOwner := by
  rw [Caller.requireScoped_iff]
  have hscoped (role : String) : role ∈ there ↔ s.Gives id caller.user role :=
    ⟨accountRoles_mem hthere, fun h => hs.accountRoles_gives h hthere⟩
  -- no membership gives the role of administrators
  have hadmin : ¬ s.Gives id caller.user Role.systemAdmin := fun h =>
    absurd (hknown.gives h) (by decide)
  simp [hscoped, hadmin, or_comm, or_left_comm]

/-- After it, nobody owns the account. -/
theorem not_owned_of_put (hs : Written s) (ht : Written t) {new : NewMember}
    (hmembers : t.members = s.members.put (.ofMember ⟨id, new.user, new.roles⟩))
    (hresigned : Role.accountOwner ∉ new.roles)
    (hlast : ∀ user, s.Gives id user Role.accountOwner → user = new.user) : ¬ t.Owned id := by
  rintro ⟨user, hgives⟩
  obtain ⟨m, hm, haccount, huser, hrole⟩ := ht.gives_iff.1 hgives
  rw [hmembers] at hm
  rcases (Table.mem_put hs.made.members).1 hm with hsame | ⟨hold, horder⟩
  · rw [MemberRow.ofMember_inj hsame] at hrole
    exact hresigned hrole
  · -- the owner was the one whose membership is not there any more
    have hnew := hlast user (hs.gives_iff.2 ⟨m, hold, haccount, huser, hrole⟩)
    refine horder ?_
    simp [Row.order, Row.key, MemberRow.ofMember, haccount, huser, hnew]

theorem respond_deposes (ctx : Context) (hs : Written s) (hknown : KnownRoles s) {r : Request}
    {new : NewMember} (haccount : s.hasAccount id = true) (h : Deposes s r id caller new) :
    ¬ (respond ctx s r).store.Owned id := by
  obtain ⟨raw, hpath, hid⟩ := h.path
  have hwanted : r.wanted (.members raw) .post = .ok (.addMember id new) := by
    show (Request.parameter "account_id" raw >>= _) = _
    rw [hid, ok_bind, h.body]
    rfl
  obtain ⟨there, hthere⟩ := hs.accountRoles_ok id caller.user
  obtain ⟨a, hfound⟩ := hs.account_found haccount
  obtain ⟨t, ht⟩ := hs.addMember_succeeds (m := ⟨id, new.user, new.roles⟩) haccount
  have hmay := (may_addMember hs hknown hthere).2 h.may
  have hwritten := written_addMember hs ht
  have hposted : r.method = Method.post.text := h.posted
  have hanswer : respond ctx s r = (Operation.addMember id new).perform ctx s caller :=
    respond_asked hpath hposted (by simp [Resource.methods]) (by simp) h.sent hwanted
  have hstore : (respond ctx s r).store = t := by
    rw [hanswer]
    simp only [Operation.perform, Platform.addMember, hthere, hmay, hfound, ok_bind,
      checkRoles_iff.2 h.roles, ht]
    rfl
  rw [hstore]
  exact not_owned_of_put hs hwritten (by rw [(addMember_ok ht).2]) h.resigned h.last

theorem respond_memberChange (ctx : Context) (hs : Written s) (r : Request) :
    (respond ctx s r).store = s ∨ ∃ d resource method, Asks r d resource method ∧
      MemberChange s d.caller d.operation (respond ctx s r).store := by
  rcases respond_effect ctx s r with hsame | ⟨d, resource, method, reply, hasks, heffect, hstore⟩
  · exact Or.inl hsame
  · rw [hstore]
    exact Or.inr ⟨d, resource, method, hasks, heffect.memberChange hs⟩

/-- An owner that a put membership has not replaced is still there. -/
theorem owned_of_put (hs : Written s) (ht : Written t) {m : Member}
    (hmembers : t.members = s.members.put (.ofMember m)) {user : String}
    (howner : s.Gives id user Role.accountOwner) (hother : ¬ (m.account = id ∧ m.user = user)) :
    t.Owned id := by
  obtain ⟨k, hk, haccount, huser, hrole⟩ := hs.gives_iff.1 howner
  refine ⟨user, ht.gives_iff.2 ⟨k, ?_, haccount, huser, hrole⟩⟩
  rw [hmembers]
  refine (Table.mem_put hs.made.members).2 (Or.inr ⟨hk, fun horder => hother ?_⟩)
  have hcells : k.account = m.account ∧ k.user = m.user := by
    simpa [Row.order, Row.key, MemberRow.ofMember, Cell.spelling] using horder
  exact ⟨hcells.1 ▸ haccount, hcells.2 ▸ huser⟩

/-- Whatever takes the last owner of an account deposes them. -/
theorem MemberChange.deposes (hs : Written s) (hknown : KnownRoles s) (ht : Written t)
    {r : Request} {d : Demand} {resource : Resource} {method : Method}
    (hasks : Asks r d resource method) (h : MemberChange s d.caller d.operation t)
    (howned : s.Owned id) (hlost : ¬ t.Owned id) : ∃ new, Deposes s r id d.caller new := by
  obtain ⟨owner, howner⟩ := howned
  have hasked := hasks.askedAt
  generalize d.operation = op at h hasked
  cases h with
  | none hmembers _ =>
    refine absurd ⟨owner, ht.gives_iff.2 ?_⟩ hlost
    rw [hmembers]
    exact hs.gives_iff.1 howner
  | @opened _ opened _ hnew hmembers _ =>
    -- the new account is another one
    refine absurd (owned_of_put hs ht hmembers howner fun hsame => ?_) hlost
    obtain ⟨k, hk, haccount, -⟩ := hs.gives_iff.1 howner
    obtain ⟨k', hsame', hthere⟩ := hs.member _ hk
    rw [← MemberRow.ofMember_inj hsame', haccount, ← hsame.1] at hthere
    exact absurd (hnew.symm.trans hthere) (by simp)
  | @added m there _ hthere hrole hroles _ hmembers _ =>
    obtain ⟨rfl, hbody, raw, rfl, hraw⟩ := hasked
    have hlast : ∀ user, s.Gives id user Role.accountOwner → m.account = id ∧ m.user = user :=
      fun user hgives => Decidable.byContradiction fun hother =>
        hlost (owned_of_put hs ht hmembers hgives hother)
    obtain ⟨rfl, rfl⟩ := hlast owner howner
    refine ⟨⟨m.user, m.roles⟩, {
      sent := hasks.caller
      posted := (hasks.named_eq (by decide)).1
      path := ⟨raw, hasks.path, hraw⟩
      body := hbody
      may := (may_addMember hs hknown hthere).1 hrole
      roles := hroles
      resigned := fun hrole => hlost ⟨m.user, ht.gives_iff.2 ⟨m, ?_, rfl, rfl, hrole⟩⟩
      last := fun user hgives => (hlast user hgives).2.symm }⟩
    rw [hmembers]
    exact (Table.mem_put hs.made.members).2 (Or.inl rfl)

/-- **Who loses their last owner is known from the request**: the owner was deposed. -/
theorem respond_ownerless (hs : Reached P s) (ctx : Context) (r : Request) (howned : s.Owned id) :
    ¬ (respond ctx s r).store.Owned id ↔ ∃ caller new, Deposes s r id caller new := by
  have hwritten := hs.written
  constructor
  · intro hlost
    rcases respond_memberChange ctx hwritten r with hsame | ⟨d, _, _, hasks, hchange⟩
    · rw [hsame] at hlost
      exact absurd howned hlost
    · have ht := (respond_leads ctx s r).keeps written_write hwritten
      obtain ⟨new, hdeposes⟩ := hchange.deposes hwritten hs.knownRoles ht hasks howned hlost
      exact ⟨d.caller, new, hdeposes⟩
  · rintro ⟨caller, new, hdeposes⟩
    obtain ⟨owner, howner⟩ := howned
    have haccount := hwritten.hasAccount_of_isMember (hwritten.isMember_of_gives howner)
    exact respond_deposes ctx hwritten hs.knownRoles haccount hdeposes

/-! ## Runs -/

theorem Reached.inhabited (h : Reached P s) : Inhabited s := by
  induction h with
  | empty =>
    intro id hid
    obtain ⟨row, hrow, -⟩ := hasAccount_iff.1 hid
    exact absurd hrow List.not_mem_nil
  | @next s h ctx _ r ih =>
    rcases respond_memberChange ctx h.written r with hsame | ⟨d, _, _, -, hchange⟩
    · rw [hsame]
      exact ih
    · exact hchange.inhabited h.written.made.members ih

/-- On the way, somebody has deposed the last owner of an account. -/
def History.Deposed (s : Store) (h : History) (id : String) : Prop :=
  ∃ (earlier : History) (ctx : Context) (r : Request) (later : History),
    h = earlier ++ (ctx, r) :: later ∧ (earlier.store s).Owned id ∧
      (∃ caller new, Deposes (earlier.store s) r id caller new) ∧
      ¬ (respond ctx (earlier.store s) r).store.Owned id

theorem History.deposed_cons {ctx : Context} {r : Request} {h : History}
    (hlater : h.Deposed (respond ctx s r).store id) : Deposed s ((ctx, r) :: h) id := by
  obtain ⟨earlier, ctx', r', later, rfl, hcases⟩ := hlater
  exact ⟨(ctx, r) :: earlier, ctx', r', later, rfl, hcases⟩

/-- An account without an owner had none at the beginning, or its last owner was deposed. -/
theorem History.ownerless (hs : Reached P s) {h : History} (hP : ∀ e ∈ h, P e.1)
    (hid : (store s h).hasAccount id = true) (hlost : ¬ (store s h).Owned id) :
    (s.hasAccount id = true ∧ ¬ s.Owned id) ∨ h.Deposed s id := by
  induction h generalizing s with
  | nil => exact Or.inl ⟨hid, hlost⟩
  | cons e rest ih =>
    obtain ⟨ctx, r⟩ := e
    have hctx := hP (ctx, r) List.mem_cons_self
    have hrest : ∀ e ∈ rest, P e.1 := fun e he => hP e (List.mem_cons_of_mem _ he)
    rcases ih (hs.next ctx hctx r) hrest hid hlost with ⟨hthere, hnone⟩ | hlater
    · -- the account had no owner after the first request
      by_cases howned : s.Owned id
      · have hdeposes := (respond_ownerless hs ctx r howned).1 hnone
        exact Or.inr ⟨[], ctx, r, rest, rfl, howned, hdeposes, hnone⟩
      · refine Or.inl ⟨Decidable.byContradiction fun hnew => hnone ?_, howned⟩
        rcases respond_memberChange ctx hs.written r with hsame | ⟨d, _, _, -, hchange⟩
        · rw [hsame] at hthere
          exact absurd hthere hnew
        · exact hchange.owned (hs.next ctx hctx r).written hs.written.made.members
            (Bool.eq_false_iff.2 hnew) hthere
    · exact Or.inr (History.deposed_cons hlater)

/-- **An account has members at all times, and an owner unless the last one was deposed**, which
takes a request by somebody who may add members and gives the last owner other roles. -/
theorem last_owner_deposed (h : History) (id : String)
    (hid : (History.store .empty h).hasAccount id = true) :
    (∃ m, .ofMember m ∈ (History.store .empty h).members.rows ∧ m.account = id ∧
        SomeOf Role.account m.roles) ∧
      ((History.store .empty h).Owned id ∨ h.Deposed .empty id) ∧
      ((History.store .empty h).Owned id → ∀ ctx r,
        ¬ (respond ctx (History.store .empty h) r).store.Owned id ↔
          ∃ caller new, Deposes (History.store .empty h) r id caller new) := by
  have hreached : Reached (fun _ => True) (History.store .empty h) :=
    History.reached .empty h fun _ _ => trivial
  refine ⟨?_, ?_, fun howned ctx r => respond_ownerless hreached ctx r howned⟩
  · obtain ⟨m, hm, haccount⟩ := hreached.inhabited id hid
    obtain ⟨m', hsame, hroles⟩ := hreached.knownRoles _ hm
    rw [← MemberRow.ofMember_inj hsame] at hroles
    exact ⟨m, hm, haccount, hroles⟩
  · by_cases howned : (History.store .empty h).Owned id
    · exact Or.inl howned
    · rcases History.ownerless (P := fun _ => True) .empty (fun _ _ => trivial) hid howned with
        ⟨hthere, -⟩ | hdeposed
      · obtain ⟨row, hrow, -⟩ := hasAccount_iff.1 hthere
        exact absurd hrow List.not_mem_nil
      · exact Or.inr hdeposed

/-- Ann opens an account, and makes herself a mere member of it. -/
def resigning : History :=
  [("/api/account", "\x7b\"name\":\"Acme\"\x7d"),
    ("/api/account/account/members",
      "\x7b\"userId\":\"ann\",\"roles\":[\"account/member\"]\x7d")].map
    fun (path, body) => (mailOnly, { administering "POST" path body with
      headers := [("x-user-id", Bytes.ofText "ann"), ("x-user-roles", Bytes.ofText "user"),
        ("content-type", Bytes.ofText "application/json")] })

theorem resigning_hasAccount : (resigning.store .empty).hasAccount "account" = true := by
  decide +kernel

theorem resigning_members : (resigning.store .empty).members.rows =
    [.ofMember ⟨"account", "ann", [Role.accountMember]⟩] := by
  decide +kernel

theorem resigning_ownerless : ¬ (resigning.store .empty).Owned "account" := by
  rintro ⟨user, hgives⟩
  have hwritten := History.written written_empty resigning
  obtain ⟨m, hm, -, -, hrole⟩ := hwritten.gives_iff.1 hgives
  rw [resigning_members, List.mem_singleton] at hm
  rw [MemberRow.ofMember_inj hm] at hrole
  exact absurd hrole (by decide)

/-- The last owner of the account was deposed, by herself. -/
theorem last_owner_deposed_resigning :
    (resigning.store .empty).hasAccount "account" = true ∧ resigning.Deposed .empty "account" := by
  obtain ⟨-, howned | hdeposed, -⟩ := last_owner_deposed resigning "account" resigning_hasAccount
  · exact absurd howned resigning_ownerless
  · exact ⟨resigning_hasAccount, hdeposed⟩

/-- An account can be left without an owner. -/
theorem last_owner_left :
    Reached (· = mailOnly) (resigning.store .empty) ∧
      (resigning.store .empty).hasAccount "account" = true ∧
      ¬ ∃ user, (resigning.store .empty).Gives "account" user Role.accountOwner := by
  refine ⟨History.reached .empty resigning fun e he => ?_, resigning_hasAccount, ?_⟩
  · obtain ⟨_, -, rfl⟩ := List.mem_map.1 he
    rfl
  · exact resigning_ownerless

end Http

end CloudIde
