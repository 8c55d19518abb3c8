import CloudIde.Proofs.SameAccount
import CloudIde.Proofs.WrittenReads

/-!
# Stores that look alike to a user

Two stores are alike to a user when they hold the same of everything that is not the business of an
account, and the same of the accounts that the user is a member of; and when they have
subscriptions of the same ids. The other accounts may differ in everything else.

What a look at an account of the user gives is the same in both, as the account is
(`SameAccount.account_eq` and the like). Where the look could be at another account, the roles of
the user decide before, and these are the same in both as well (`Alike.accountRoles_eq`).

A call that writes what the user may write either fails in both stores with one failure, or leaves
them alike. The conditions under which it fails look at more than the account: a new id must not be
taken, and no other row may clash. But ids are taken in the one store when they are in the other,
and rows clash only with rows of the same account.
-/

namespace CloudIde.Store

/-- Two stores are alike to a user. -/
structure Alike (user : String) (s t : Store) : Prop where
  plans : s.plans = t.plans
  commands : s.commands = t.commands
  workspaceMembers : s.workspaceMembers = t.workspaceMembers
  /-- The user is a member of the same accounts. -/
  member : ∀ id, s.IsMember user id ↔ t.IsMember user id
  same : ∀ id, s.IsMember user id → SameAccount s t id
  /-- There are subscriptions of the same ids. -/
  ids : ∀ id, s.subscriptions.hasKey [.text id] = t.subscriptions.hasKey [.text id]

variable {s t : Store} {user id : String}

theorem Alike.symm (h : Alike user s t) : Alike user t s where
  plans := h.plans.symm
  commands := h.commands.symm
  workspaceMembers := h.workspaceMembers.symm
  member id := (h.member id).symm
  same id hid := (h.same id ((h.member id).2 hid)).symm
  ids id := (h.ids id).symm

/-! ## The roles of the user -/

section

variable (hs : Written s) (ht : Written t) (h : Alike user s t)
include hs ht h

theorem Alike.memberships_eq : s.memberships user = t.memberships user := by
  have hrow {s t : Store} (hs : Written s) (h : Alike user s t) {r : MemberRow}
      (hr : r ∈ s.members.rows) (huser : r.user = .text user) : r ∈ t.members.rows := by
    obtain ⟨m, rfl, -, hmember⟩ := hs.isMember_of_row hr huser
    exact ((h.same _ hmember).mem_member rfl).1 hr
  have hselect := Table.select_eq (p := fun row => decide (row.user = .text user)) hs.made.members
    ht.made.members (fun r hr => ?_) fun row => [row.account]
  · unfold memberships
    rw [Table.naming_made hs.made.members, Table.naming_made ht.made.members, hselect]
  · have huser : r.user = .text user := by simpa using hr
    exact ⟨fun hmem => hrow hs h hmem huser, fun hmem => hrow ht h.symm hmem huser⟩

theorem Alike.accountRoles_eq (id : String) : s.accountRoles id user = t.accountRoles id user := by
  unfold accountRoles
  rw [h.memberships_eq hs ht]

end

/-! ## Tables that are the same -/

theorem Alike.with_commands (h : Alike user s t) (T : Table CommandRow) :
    Alike user { s with commands := T } { t with commands := T } where
  plans := h.plans
  commands := rfl
  workspaceMembers := h.workspaceMembers
  member := h.member
  same id hid := ⟨(h.same id hid).account, (h.same id hid).members, (h.same id hid).subscriptions⟩
  ids := h.ids

theorem Alike.with_workspaceMembers (h : Alike user s t) (T : Table WorkspaceMemberRow) :
    Alike user { s with workspaceMembers := T } { t with workspaceMembers := T } where
  plans := h.plans
  commands := h.commands
  workspaceMembers := rfl
  member := h.member
  same id hid := ⟨(h.same id hid).account, (h.same id hid).members, (h.same id hid).subscriptions⟩
  ids := h.ids

section

variable (h : Alike user s t)
include h

theorem Alike.plan_eq (id : String) : s.plan id = t.plan id := by
  unfold Store.plan
  rw [h.plans]

theorem Alike.allPlans_eq : s.allPlans = t.allPlans := by
  unfold allPlans
  rw [h.plans]

end

/-! ## Members -/

/-- A row makes way for a membership of the same account and user. -/
theorem order_ofMember {m : Member} {row : MemberRow} (haccount : row.account = .text id)
    (huser : row.user = .text user) (h : Row.order row = Row.order (MemberRow.ofMember m)) :
    m.account = id ∧ m.user = user := by
  simp only [Row.order, Row.key, MemberRow.ofMember, haccount, huser, Cell.spelling, List.map_cons,
    List.map_nil] at h
  cases h
  exact ⟨rfl, rfl⟩

/-- The user is a member where they were, or where the new membership makes them one. -/
theorem isMember_put {m : Member} {id : String} (hs : AllMade s) :
    IsMember { s with members := s.members.put (.ofMember m) } user id
      ↔ (m.account = id ∧ m.user = user) ∨ s.IsMember user id := by
  constructor
  · rintro ⟨row, hrow, haccount, huser⟩
    rcases (Table.mem_put hs.members).1 hrow with rfl | ⟨hrow, -⟩
    · exact Or.inl ⟨Cell.text.inj haccount, Cell.text.inj huser⟩
    · exact Or.inr ⟨row, hrow, haccount, huser⟩
  · rintro (⟨rfl, rfl⟩ | ⟨row, hrow, haccount, huser⟩)
    · exact ⟨.ofMember m, (Table.mem_put hs.members).2 (Or.inl rfl), rfl, rfl⟩
    · by_cases horder : Row.order row = Row.order (MemberRow.ofMember m)
      · obtain ⟨rfl, rfl⟩ := order_ofMember haccount huser horder
        exact ⟨.ofMember m, (Table.mem_put hs.members).2 (Or.inl rfl), rfl, rfl⟩
      · exact ⟨row, (Table.mem_put hs.members).2 (Or.inr ⟨hrow, horder⟩), haccount, huser⟩

/-- The accounts of the user with one more, which two stores hold the same of. -/
theorem Alike.put_member (hs : AllMade s) (ht : AllMade t) (h : Alike user s t) {m : Member}
    (hm : SameAccount s t m.account) :
    Alike user { s with members := s.members.put (.ofMember m) }
      { t with members := t.members.put (.ofMember m) } where
  plans := h.plans
  commands := h.commands
  workspaceMembers := h.workspaceMembers
  member id := by
    rw [isMember_put hs, isMember_put ht, h.member id]
  same id hid := by
    have hsame : SameAccount s t id := by
      rcases (isMember_put hs).1 hid with ⟨rfl, -⟩ | hid
      · exact hm
      · exact h.same id hid
    refine ⟨hsame.account, ?_, hsame.subscriptions⟩
    refine Table.filter_eq (Table.put_layout.trans hs.members)
      (Table.put_layout.trans ht.members) fun r hr => ?_
    rw [Table.mem_put hs.members, Table.mem_put ht.members,
      hsame.mem_member (by simpa using hr)]
  ids := h.ids

theorem Alike.addMember (hs : AllMade s) (ht : AllMade t) (h : Alike user s t) {m : Member}
    (hm : SameAccount s t m.account) :
    Matches (Alike user) (s.addMember m) (t.addMember m) := by
  have hkey : s.accounts.hasKey [.text m.account] = t.accounts.hasKey [.text m.account] :=
    hm.hasAccount_eq
  refine bind_matches (hm.account_eq hs ht) fun _ _ => ?_
  simp only [Table.filling_made hs.members, Table.filling_made ht.members, relating_made hs,
    relating_made ht, ok_bind]
  refine bind_matches ?_ fun _ _ => .ok (h.put_member hs ht hm)
  simp only [referring, hs.members, ht.members, hkey]

/-! ## Accounts -/

theorem Alike.createAccount (hs : Written s) (ht : Written t) (h : Alike user s t) {a : Account}
    (hnew : s.hasAccount a.id = false) (hnew' : t.hasAccount a.id = false) :
    ∃ s' t', s.createAccount a = .ok s' ∧ t.createAccount a = .ok t' ∧ Alike user s' t'
      ∧ SameAccount s' t' a.id := by
  obtain ⟨S, hS, hs'⟩ := hs.createAccount_new hnew
  obtain ⟨T, hT, ht'⟩ := ht.createAccount_new hnew'
  refine ⟨_, _, hs', ht', ?_, ?_⟩
  · refine { h with same := fun id hid => ?_, member := h.member, ids := h.ids }
    -- the user's accounts are there already, so none of them is the new one
    have hsid := hs.hasAccount_of_isMember hid
    have htid := ht.hasAccount_of_isMember ((h.member id).1 hid)
    have hleft := sameAccount_createAccount hs.made hs' (ne_of_createAccount hs.made hs' hsid)
    have hright := sameAccount_createAccount ht.made ht' (ne_of_createAccount ht.made ht' htid)
    exact hleft.symm.trans ((h.same id hid).trans hright)
  · -- of the new account there is one row in either store, the same
    obtain ⟨haccount, hmember, hsubscription⟩ := hs.no_rows hnew
    obtain ⟨haccount', hmember', hsubscription'⟩ := ht.no_rows hnew'
    refine ⟨?_, ?_, ?_⟩
    · refine Table.filter_eq (hS.layout.trans hs.made.accounts) (hT.layout.trans ht.made.accounts)
        fun r hr => ?_
      have hid : r.id = .text a.id := by simpa using hr
      rw [hS.mem_iff, hT.mem_iff]
      exact ⟨fun hor => Or.inl (hor.resolve_right fun hmem => haccount r hmem hid),
        fun hor => Or.inl (hor.resolve_right fun hmem => haccount' r hmem hid)⟩
    · refine Table.filter_eq hs.made.members ht.made.members fun r hr => ?_
      have hid : r.account = .text a.id := by simpa using hr
      exact ⟨fun hmem => absurd hid (hmember r hmem), fun hmem => absurd hid (hmember' r hmem)⟩
    · refine Table.filter_eq hs.made.subscriptions ht.made.subscriptions fun r hr => ?_
      have hid : r.account = .text a.id := by simpa using hr
      exact ⟨fun hmem => absurd hid (hsubscription r hmem),
        fun hmem => absurd hid (hsubscription' r hmem)⟩

/-! ## Subscriptions -/

section

variable {v : Subscription} (hs : Written s) (ht : Written t) (h : Alike user s t)
  (hv : SameAccount s t v.account)
include hv

/-- Rows clash only with rows of their account. -/
theorem SameAccount.clashes_eq :
    s.subscriptions.rows.any (SubscriptionRow.ofSubscription v).clashesWith
      = t.subscriptions.rows.any (SubscriptionRow.ofSubscription v).clashesWith := by
  have hone {s t : Store} (hv : SameAccount s t v.account)
      (h : s.subscriptions.rows.any (SubscriptionRow.ofSubscription v).clashesWith = true) :
      t.subscriptions.rows.any (SubscriptionRow.ofSubscription v).clashesWith = true := by
    obtain ⟨r, hr, hclash⟩ := List.any_eq_true.1 h
    refine List.any_eq_true.2 ⟨r, (hv.mem_subscription ?_).1 hr, hclash⟩
    simp only [SubscriptionRow.clashesWith, Bool.and_eq_true, decide_eq_true_eq] at hclash
    exact hclash.1.2.symm
  exact Bool.eq_iff_iff.2 ⟨hone hv, hone hv.symm⟩

theorem SameAccount.referring_eq (hs : AllMade s) (ht : AllMade t) :
    s.referring s.subscriptions (.text v.account)
      = t.referring t.subscriptions (.text v.account) := by
  have hkey : s.accounts.hasKey [.text v.account] = t.accounts.hasKey [.text v.account] :=
    hv.hasAccount_eq
  simp only [referring, hs.subscriptions, ht.subscriptions, hkey]

include hs ht h

theorem Alike.insertSubscription :
    Matches (Alike user) (s.insertSubscription v) (t.insertSubscription v) := by
  -- the id is taken in both stores or in none
  have hsome : (s.subscriptions.insert? (.ofSubscription v)).isSome
      = (t.subscriptions.insert? (.ofSubscription v)).isSome := by
    rw [hs.insert?_isSome, ht.insert?_isSome, h.ids]
  unfold Store.insertSubscription
  simp only [Table.filling_made hs.made.subscriptions, Table.filling_made ht.made.subscriptions,
    relating_made hs.made, relating_made ht.made, ok_bind, hv.clashes_eq]
  cases hS : s.subscriptions.insert? (.ofSubscription v) with
  | none =>
    rw [hS] at hsome
    have hT : t.subscriptions.insert? (.ofSubscription v) = none := by simpa using hsome.symm
    rw [hT]
    exact .error _
  | some S =>
    rw [hS] at hsome
    obtain ⟨T, hT⟩ := Option.isSome_iff_exists.1 hsome.symm
    rw [hT]
    simp only
    have hS := Table.insert?_some hS
    have hT := Table.insert?_some hT
    split
    · exact .error _
    · refine bind_matches (hv.referring_eq hs.made ht.made) fun _ _ => .ok ?_
      refine { h with same := fun id hid => ?_, member := h.member, ids := fun id => ?_ }
      · have hsame := h.same id hid
        refine ⟨hsame.account, hsame.members, ?_⟩
        refine Table.filter_eq (hS.layout.trans hs.made.subscriptions)
          (hT.layout.trans ht.made.subscriptions) fun r hr => ?_
        rw [hS.mem_iff, hT.mem_iff, hsame.mem_subscription (by simpa using hr)]
      · refine Bool.eq_iff_iff.2 ?_
        rw [hS.hasKey_iff, hT.hasKey_iff, h.ids id]

theorem Alike.addSubscription :
    Matches (Alike user) (s.addSubscription v) (t.addSubscription v) := by
  have hkey : s.accounts.hasKey [.text v.account] = t.accounts.hasKey [.text v.account] :=
    hv.hasAccount_eq
  unfold Store.addSubscription
  simp only [Table.naming_made hs.made.accounts, Table.naming_made ht.made.accounts, ok_bind, hkey]
  split
  · split
    · refine bind_matches (hv.activeSubscription_eq hs.made ht.made v.service) fun found _ => ?_
      cases found with
      | some _ => exact .error _
      | none => exact h.insertSubscription hs ht hv
    · exact h.insertSubscription hs ht hv
  · exact .error _

/-- A subscription that is made inactive clashes with no other. -/
theorem Alike.updateSubscription (hstate : v.state = .inactive) :
    Matches (Alike user) (s.updateSubscription v) (t.updateSubscription v) := by
  have hclash (s : Store) := clashesElsewhere_inactive s hstate
  have hkey : s.subscriptions.hasKey (Row.key (SubscriptionRow.ofSubscription v))
      = t.subscriptions.hasKey (Row.key (SubscriptionRow.ofSubscription v)) := h.ids v.id
  unfold Store.updateSubscription
  simp only [Table.naming_made hs.made.subscriptions, Table.naming_made ht.made.subscriptions,
    relating_made hs.made, relating_made ht.made, ok_bind, hclash, hkey]
  split
  · refine bind_matches (hv.referring_eq hs.made ht.made) fun _ _ => .ok ?_
    refine { h with same := fun id hid => ?_, member := h.member, ids := fun id => ?_ }
    · have hsame := h.same id hid
      refine ⟨hsame.account, hsame.members, ?_⟩
      refine Table.filter_eq (t := s.subscriptions.replace (.ofSubscription v))
        (u := t.subscriptions.replace (.ofSubscription v)) hs.made.subscriptions
        ht.made.subscriptions fun r hr => ?_
      rw [Table.mem_replace, Table.mem_replace, hkey, hsame.mem_subscription (by simpa using hr)]
    · show (s.subscriptions.replace _).hasKey _ = (t.subscriptions.replace _).hasKey _
      rw [Table.replace_hasKey, Table.replace_hasKey, h.ids id]
  · exact .error _

end

end CloudIde.Store
