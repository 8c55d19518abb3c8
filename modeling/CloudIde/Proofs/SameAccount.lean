import CloudIde.Proofs.Written

/-!
# What a write leaves of an account

`SameAccount` says that two stores hold the same of an account: its row, its members and its
subscriptions. For each call that writes one of the three tables there is a lemma that says of which
accounts it leaves everything as it was; all other calls leave every account so.
-/

namespace CloudIde.Store

/-- Two stores have the same rows of an account, its own one, its members' and its
subscriptions'. -/
structure SameAccount (s t : Store) (id : String) : Prop where
  account : s.accounts.rows.filter (·.id = .text id) = t.accounts.rows.filter (·.id = .text id)
  members :
    s.members.rows.filter (·.account = .text id) = t.members.rows.filter (·.account = .text id)
  subscriptions : s.subscriptions.rows.filter (·.account = .text id)
    = t.subscriptions.rows.filter (·.account = .text id)

variable {s t u : Store} {id : String}

theorem SameAccount.refl (s : Store) (id : String) : SameAccount s s id := ⟨rfl, rfl, rfl⟩

theorem SameAccount.trans (h : SameAccount s t id) (k : SameAccount t u id) : SameAccount s u id :=
  ⟨h.account.trans k.account, h.members.trans k.members, h.subscriptions.trans k.subscriptions⟩

theorem SameAccount.symm (h : SameAccount s t id) : SameAccount t s id :=
  ⟨h.account.symm, h.members.symm, h.subscriptions.symm⟩

/-! A row of the account is in the one store when it is in the other. -/

theorem SameAccount.mem_account (h : SameAccount s t id) {r : AccountRow} (hr : r.id = .text id) :
    r ∈ s.accounts.rows ↔ r ∈ t.accounts.rows :=
  Table.mem_of_filter_eq h.account (decide_eq_true hr)

theorem SameAccount.mem_member (h : SameAccount s t id) {r : MemberRow}
    (hr : r.account = .text id) : r ∈ s.members.rows ↔ r ∈ t.members.rows :=
  Table.mem_of_filter_eq h.members (decide_eq_true hr)

theorem SameAccount.mem_subscription (h : SameAccount s t id) {r : SubscriptionRow}
    (hr : r.account = .text id) : r ∈ s.subscriptions.rows ↔ r ∈ t.subscriptions.rows :=
  Table.mem_of_filter_eq h.subscriptions (decide_eq_true hr)

theorem SameAccount.hasAccount_eq (h : SameAccount s t id) : s.hasAccount id = t.hasAccount id := by
  refine Bool.eq_iff_iff.2 ?_
  rw [hasAccount_iff, hasAccount_iff]
  exact ⟨fun ⟨r, hr, hid⟩ => ⟨r, (h.mem_account hid).1 hr, hid⟩,
    fun ⟨r, hr, hid⟩ => ⟨r, (h.mem_account hid).2 hr, hid⟩⟩

/-! ## Looking at the account -/

section

variable (hs : AllMade s) (ht : AllMade t) (h : SameAccount s t id)
include hs ht h

theorem SameAccount.account_eq : s.account id = t.account id := by
  have hfind : s.accounts.find? [.text id] = t.accounts.find? [.text id] := by
    refine Table.find_eq hs.accounts ht.accounts fun r hr => ?_
    exact h.mem_account (by simpa [Row.key] using hr)
  unfold Store.account
  rw [Table.naming_made hs.accounts, Table.naming_made ht.accounts, hfind]

theorem SameAccount.membersOf_eq : s.membersOf id = t.membersOf id := by
  have hselect := Table.select_eq (p := fun row => decide (row.account = .text id)) hs.members
    ht.members (fun r hr => h.mem_member (by simpa using hr)) fun row => [row.user]
  unfold membersOf
  rw [Table.naming_made hs.members, Table.naming_made ht.members, hselect]

theorem SameAccount.activeSubscription_eq (service : String) :
    s.activeSubscription id service = t.activeSubscription id service := by
  have hfind : s.subscriptions.rows.find? (fun row => row.gives id service)
      = t.subscriptions.rows.find? fun row => row.gives id service := by
    refine Table.find_eq hs.subscriptions ht.subscriptions fun r hr => h.mem_subscription ?_
    simp only [SubscriptionRow.gives, Bool.and_eq_true, decide_eq_true_eq] at hr
    exact hr.1.1
  unfold activeSubscription
  rw [Table.naming_made hs.subscriptions, Table.naming_made ht.subscriptions, hfind]

theorem SameAccount.activeSubscriptions_eq :
    s.activeSubscriptions id = t.activeSubscriptions id := by
  have hselect := Table.select_eq (p := fun row => row.account = .text id && row.isActive)
    hs.subscriptions ht.subscriptions (fun r hr => h.mem_subscription ?_) fun row =>
      [row.service, row.id]
  · unfold activeSubscriptions
    rw [Table.naming_made hs.subscriptions, Table.naming_made ht.subscriptions, hselect]
  · simp only [Bool.and_eq_true, decide_eq_true_eq] at hr
    exact hr.1

end

/-! ## Writing -/

/-- What writes other tables leaves accounts as they were. -/
theorem sameAccount_of_tables (ha : t.accounts = s.accounts) (hm : t.members = s.members)
    (hv : t.subscriptions = s.subscriptions) : SameAccount s t id := by
  refine ⟨?_, ?_, ?_⟩
  · rw [ha]
  · rw [hm]
  · rw [hv]

/-- An account that is there is not the one that is made. -/
theorem ne_of_createAccount {a : Account} (hs : AllMade s) (hw : s.createAccount a = .ok t)
    (hid : s.hasAccount id = true) : id ≠ a.id := by
  obtain ⟨T, hT, -⟩ := createAccount_ok hw
  have hnew : s.hasAccount a.id = false := hT.not_hasKey hs.accounts
  rintro rfl
  exact absurd hid (by simp [hnew])

theorem sameAccount_createAccount {a : Account} (hs : AllMade s) (hw : s.createAccount a = .ok t)
    (hid : id ≠ a.id) : SameAccount s t id := by
  obtain ⟨T, hT, rfl⟩ := createAccount_ok hw
  refine ⟨Table.filter_eq hs.accounts (hT.layout.trans hs.accounts) fun r hr => ?_, rfl, rfl⟩
  have hne : r ≠ .ofAccount a := by
    rintro rfl
    exact hid (by simpa [AccountRow.ofAccount, eq_comm] using hr)
  rw [hT.mem_iff]
  exact ⟨Or.inr, fun h => h.resolve_left hne⟩

theorem sameAccount_addMember {m : Member} (hs : AllMade s) (hw : s.addMember m = .ok t)
    (hid : id ≠ m.account) : SameAccount s t id := by
  obtain ⟨-, rfl⟩ := addMember_ok hw
  refine ⟨rfl, ?_, rfl⟩
  refine Table.filter_eq hs.members (Table.put_layout.trans hs.members) fun r hr => ?_
  -- the texts that order the rows tell rows of two accounts apart
  have horder : Row.order r ≠ Row.order (MemberRow.ofMember m) := by
    have hacc : r.account = .text id := by simpa using hr
    simp [Row.order, Row.key, MemberRow.ofMember, Cell.spelling, hacc, hid]
  have hne : r ≠ .ofMember m := fun he => horder (by rw [he])
  rw [Table.mem_put hs.members]
  exact ⟨fun h => Or.inr ⟨h, horder⟩, fun h => (h.resolve_left hne).1⟩

theorem sameAccount_insertSubscription {v : Subscription} (hs : AllMade s)
    (hw : s.insertSubscription v = .ok t) (hid : id ≠ v.account) : SameAccount s t id := by
  obtain ⟨-, -, T, hT, rfl⟩ := insertSubscription_ok hw
  refine ⟨rfl, rfl, ?_⟩
  refine Table.filter_eq hs.subscriptions (hT.layout.trans hs.subscriptions) fun r hr => ?_
  have hne : r ≠ .ofSubscription v := by
    rintro rfl
    exact hid (by simpa [SubscriptionRow.ofSubscription, eq_comm] using hr)
  rw [hT.mem_iff]
  exact ⟨Or.inr, fun h => h.resolve_left hne⟩

/-- An update touches the account that the subscription was of, and the one that it is of now. -/
theorem sameAccount_updateSubscription {v : Subscription} (hs : AllMade s)
    (hw : s.updateSubscription v = .ok t) (hid : id ≠ v.account)
    (hold : ∀ r ∈ s.subscriptions.rows, r.id = .text v.id → r.account ≠ .text id) :
    SameAccount s t id := by
  obtain ⟨-, -, -, rfl⟩ := updateSubscription_ok hw
  refine ⟨rfl, rfl, ?_⟩
  refine Table.filter_eq (u := s.subscriptions.replace (.ofSubscription v)) hs.subscriptions
    hs.subscriptions fun r hr => ?_
  have hacc : r.account = .text id := by simpa using hr
  have hne : r ≠ .ofSubscription v := by
    rintro rfl
    exact hid (by simpa [SubscriptionRow.ofSubscription, eq_comm] using hr)
  rw [Table.mem_replace]
  -- rows of the account are neither written over nor written
  constructor
  · intro h
    refine Or.inr ⟨h, fun hkey => hold r h ?_ hacc⟩
    simpa [Row.key, SubscriptionRow.ofSubscription] using hkey
  · rintro (⟨he, -⟩ | ⟨h, -⟩)
    · exact absurd he hne
    · exact h

end CloudIde.Store
