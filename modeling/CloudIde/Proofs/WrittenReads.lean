import CloudIde.Proofs.ReadBack
import CloudIde.Proofs.Written

/-!
# What written stores hold

In a store that nothing but calls has written, every look succeeds that finds something: the rows
are of values, and what was written is read. So the roles of a user, a subscription and a command
are either there or not, and whether an id is taken is known from the ids alone.
-/

namespace CloudIde

/-- A row is that of one membership. -/
theorem MemberRow.ofMember_inj {m m' : Member} (h : ofMember m = ofMember m') : m = m' := by
  have hread := readOne_ofMember m
  rw [h, readOne_ofMember] at hread
  exact (Except.ok.inj hread).symm

namespace SubscriptionRow

theorem key_eq_iff {row : SubscriptionRow} {id : String} :
    Row.key row = [Cell.text id] ↔ row.id = .text id := by
  simp [Row.key]

theorem isActive_ofSubscription (v : Subscription) : (ofSubscription v).isActive = v.isActive := by
  unfold isActive Subscription.isActive ofSubscription
  cases v.state <;> rfl

/-- An active row clashes with those that give the same service to the same account. -/
theorem clashesWith_ofSubscription (v : Subscription) (row : SubscriptionRow) :
    (ofSubscription v).clashesWith row = (v.isActive && row.gives v.account v.service) := by
  have haccount : (ofSubscription v).account ≠ .null := Cell.noConfusion
  have hservice : (ofSubscription v).service ≠ .null := Cell.noConfusion
  have hsame (cell : Cell) (text : String) :
      decide (Cell.text text = cell) = decide (cell = .text text) := decide_eq_decide.2 eq_comm
  unfold clashesWith gives
  rw [isActive_ofSubscription]
  simp only [haccount, hservice, ne_eq, not_false_eq_true, decide_true, Bool.and_true,
    Bool.and_assoc]
  show (v.isActive && (row.isActive && (decide (Cell.text v.account = row.account)
    && decide (Cell.text v.service = row.service)))) = _
  rw [hsame, hsame, Bool.and_comm row.isActive, Bool.and_assoc]

end SubscriptionRow

namespace Store

/-- Whether there is a membership of a user in an account. -/
def IsMember (s : Store) (user id : String) : Prop :=
  ∃ row ∈ s.members.rows, row.account = .text id ∧ row.user = .text user

variable {s : Store} {user id : String}

/-! ## Memberships -/

theorem Written.isMember_of_row (hs : Written s) {row : MemberRow} (hrow : row ∈ s.members.rows)
    (huser : row.user = .text user) :
    ∃ m, row = .ofMember m ∧ m.user = user ∧ s.IsMember user m.account := by
  obtain ⟨m, rfl, -⟩ := hs.member row hrow
  refine ⟨m, rfl, ?_, _, hrow, rfl, huser⟩
  simpa [MemberRow.ofMember] using huser

theorem Written.gives_iff (hs : Written s) {role : String} : s.Gives id user role ↔
    ∃ m, .ofMember m ∈ s.members.rows ∧ m.account = id ∧ m.user = user ∧ role ∈ m.roles := by
  constructor
  · rintro ⟨row, hrow, huser, m, hread, haccount, hrole⟩
    obtain ⟨m', rfl, -⟩ := hs.member row hrow
    rw [MemberRow.readOne_ofMember] at hread
    obtain rfl := Except.ok.inj hread
    exact ⟨_, hrow, haccount, Cell.text.inj huser, hrole⟩
  · rintro ⟨m, hrow, haccount, rfl, hrole⟩
    exact ⟨_, hrow, rfl, m, MemberRow.readOne_ofMember m, haccount, hrole⟩

/-- A role in an account makes a member. -/
theorem Written.isMember_of_gives (hs : Written s) {role : String} (h : s.Gives id user role) :
    s.IsMember user id := by
  obtain ⟨row, hrow, huser, m, hread, haccount, -⟩ := h
  obtain ⟨m', rfl, -, hmember⟩ := hs.isMember_of_row hrow huser
  rw [MemberRow.readOne_ofMember] at hread
  cases hread
  exact haccount ▸ hmember

theorem Written.isMember_of_roles (hs : Written s) {there : RoleSet}
    (h : s.accountRoles id user = .ok there) {role : String} (hrole : role ∈ there) :
    s.IsMember user id := hs.isMember_of_gives (accountRoles_mem h hrole)

theorem Written.hasAccount_of_isMember (hs : Written s) (h : s.IsMember user id) :
    s.hasAccount id = true := by
  obtain ⟨row, hrow, haccount, -⟩ := h
  obtain ⟨m, rfl, hthere⟩ := hs.member row hrow
  cases haccount
  exact hthere

/-- Memberships in a written store can be read. -/
theorem Written.memberships_ok (hs : Written s) (user : String) :
    ∃ all, s.memberships user = .ok all ∧ ∀ m ∈ all, s.IsMember user m.account := by
  have hread : ∀ row ∈ s.members.select (fun row => row.user = .text user)
      (fun row => [row.account]), ∃ m, readOne MemberRow.read row = .ok m := by
    intro row hrow
    obtain ⟨m, rfl, -⟩ := hs.member row (Table.mem_select.1 hrow).1
    exact ⟨m, MemberRow.readOne_ofMember m⟩
  obtain ⟨all, hall⟩ := readAll_ok hread
  refine ⟨all, ?_, fun m hm => ?_⟩
  · unfold memberships
    rw [Table.naming_made hs.made.members, ok_bind, hall]
  · obtain ⟨row, hrow, hm⟩ := readAll_mem hall m hm
    obtain ⟨hrow, huser⟩ := Table.mem_select.1 hrow
    have huser : row.user = .text user := by simpa using huser
    obtain ⟨m', rfl, -, hmember⟩ := hs.isMember_of_row hrow huser
    rw [MemberRow.readOne_ofMember] at hm
    cases hm
    exact hmember

theorem Written.accountRoles_ok (hs : Written s) (account user : String) :
    ∃ there, s.accountRoles account user = .ok there := by
  obtain ⟨all, hall, -⟩ := hs.memberships_ok user
  unfold accountRoles
  rw [hall, ok_bind]
  split
  · exact ⟨_, rfl⟩
  · exact ⟨_, rfl⟩

/-- A role that a stored membership gives is among the roles in the account. -/
theorem Written.accountRoles_gives (hs : Written s) {account role : String}
    (h : s.Gives account user role) {there : RoleSet}
    (hthere : s.accountRoles account user = .ok there) : role ∈ there := by
  obtain ⟨row, hrow, huser, m, hread, rfl, hrole⟩ := h
  obtain ⟨all, hall, hthere⟩ := bind_eq_ok.1 hthere
  obtain ⟨_, _, hall⟩ := bind_eq_ok.1 hall
  obtain ⟨m', hm', hread'⟩ := readAll_all hall row (Table.mem_select.2 ⟨hrow, by simpa using huser⟩)
  obtain rfl : m = m' := Except.ok.inj (hread.symm.trans hread')
  split at hthere
  · next n hn =>
    cases hthere
    -- the membership that is found is that of the row, as there is one for the account
    obtain ⟨row', hrow', hfound⟩ := readAll_mem hall n (List.mem_of_find?_eq_some hn)
    obtain ⟨hrow', huser'⟩ := Table.mem_select.1 hrow'
    have huser' : row'.user = .text user := by simpa using huser'
    have haccount : n.account = m.account := by simpa using List.find?_some hn
    obtain ⟨k, rfl, -⟩ := hs.member row hrow
    obtain ⟨k', rfl, -⟩ := hs.member row' hrow'
    obtain rfl : k = m := Except.ok.inj ((MemberRow.readOne_ofMember k).symm.trans hread)
    obtain rfl : k' = n := Except.ok.inj ((MemberRow.readOne_ofMember k').symm.trans hfound)
    have hkey : Row.key (MemberRow.ofMember k') = Row.key (MemberRow.ofMember k) := by
      have hsame : (MemberRow.ofMember k').user = (MemberRow.ofMember k).user :=
        huser'.trans huser.symm
      show [_, (MemberRow.ofMember k').user] = [_, (MemberRow.ofMember k).user]
      rw [hsame]
      exact congrArg (fun account => [Cell.text account, _]) haccount
    have hagain := MemberRow.readOne_ofMember k'
    rw [Table.eq_of_key hs.made.members hrow' hrow hkey, hread] at hagain
    obtain rfl : k = k' := Except.ok.inj hagain
    exact RoleSet.mem_ofList.2 hrole
  · next hnone =>
    have hno := List.find?_eq_none.1 hnone m hm'
    exact absurd hno (by simp)

/-- **Who is no member has no roles.** -/
theorem Written.accountRoles_nonmember (hs : Written s) (hno : ¬ s.IsMember user id) :
    s.accountRoles id user = .ok RoleSet.empty := by
  obtain ⟨all, hall, hmember⟩ := hs.memberships_ok user
  have hnone : all.find? (fun m => m.account = id) = none := by
    refine List.find?_eq_none.2 fun m hm hid => hno ?_
    have hid : m.account = id := by simpa using hid
    exact hid ▸ hmember m hm
  unfold accountRoles
  rw [hall, ok_bind, hnone]

/-! ## Accounts -/

theorem Written.account_found (hs : Written s) (hid : s.hasAccount id = true) :
    ∃ a, s.account id = .ok a := by
  obtain ⟨r, hr, hrid⟩ := hasAccount_iff.1 hid
  obtain ⟨a, rfl⟩ := hs.account r hr
  have hfind : s.accounts.find? [.text id] = some (.ofAccount a) :=
    Table.find?_eq hs.made.accounts hr (by simp [Row.key, hrid])
  refine ⟨a, ?_⟩
  unfold Store.account
  rw [Table.naming_made hs.made.accounts, hfind]
  rfl

theorem Written.account_missing (hs : Written s) (hid : s.hasAccount id = false) :
    s.account id = .error (.accountNotFound id) := by
  unfold Store.account
  rw [Table.naming_made hs.made.accounts, Table.find?_eq_none.2 hid]
  rfl

/-- A new account is made where none has its id. -/
theorem Written.createAccount_new (hs : Written s) {a : Account}
    (hnew : s.hasAccount a.id = false) :
    ∃ T, s.accounts.Inserted (.ofAccount a) T ∧
      s.createAccount a = .ok { s with accounts := T } := by
  unfold Store.createAccount
  rw [Table.filling_made hs.made.accounts, ok_bind]
  split
  · next T hT => exact ⟨T, Table.insert?_some hT, rfl⟩
  · next hT =>
    obtain ⟨r, hr, horder⟩ := Table.insert?_none hT
    obtain ⟨b, rfl⟩ := hs.account r hr
    have hid : b.id = a.id := by
      simpa [Row.order, Row.key, AccountRow.ofAccount, Cell.spelling] using horder
    have hthere : s.hasAccount a.id = true := hasAccount_iff.2 ⟨_, hr, by rw [← hid]; rfl⟩
    rw [hnew] at hthere
    exact absurd hthere (by simp)

/-- What does not exist has no members and no subscriptions. -/
theorem Written.no_rows (hs : Written s) {id : String} (hnew : s.hasAccount id = false) :
    (∀ r ∈ s.accounts.rows, r.id ≠ .text id) ∧ (∀ r ∈ s.members.rows, r.account ≠ .text id) ∧
      ∀ r ∈ s.subscriptions.rows, r.account ≠ .text id := by
  have hno : ¬ s.hasAccount id = true := by simp [hnew]
  refine ⟨fun r hr hid => hno (hasAccount_iff.2 ⟨r, hr, hid⟩), fun r hr hid => hno ?_,
    fun r hr hid => hno ?_⟩
  · obtain ⟨m, rfl, hthere⟩ := hs.member r hr
    cases hid
    exact hthere
  · obtain ⟨v, rfl, hthere⟩ := hs.subscription r hr
    cases hid
    exact hthere

/-! ## Subscriptions -/

theorem relating_made {ρ : Type} [Row ρ] (hs : AllMade s) (child : Table ρ) :
    s.relating child = .ok () := by
  simp [relating, hs.accounts]

/-- What is inactive clashes with nothing. -/
theorem clashesElsewhere_inactive (s : Store) {v : Subscription} (hstate : v.state = .inactive) :
    s.clashesElsewhere (.ofSubscription v) = false := by
  simp [clashesElsewhere, SubscriptionRow.clashesWith, SubscriptionRow.isActive,
    SubscriptionRow.ofSubscription, hstate, SubscriptionState.text]

/-- What is inactive can be written over the subscription with its id. -/
theorem Written.updateSubscription_inactive (hs : Written s) {v : Subscription}
    (hstate : v.state = .inactive) (hthere : s.subscriptions.hasKey [.text v.id] = true)
    (haccount : s.hasAccount v.account = true) : ∃ t, s.updateSubscription v = .ok t := by
  have hkey : s.subscriptions.hasKey (Row.key (SubscriptionRow.ofSubscription v)) = true := hthere
  have hreferring : s.referring s.subscriptions (.text v.account) = .ok () := by
    have hfound : s.accounts.hasKey [.text v.account] = true := haccount
    simp [referring, hfound]
  refine ⟨{ s with subscriptions := s.subscriptions.replace (.ofSubscription v) }, ?_⟩
  unfold Store.updateSubscription
  rw [Table.naming_made hs.made.subscriptions, relating_made hs.made]
  simp only [ok_bind, hkey, if_true, clashesElsewhere_inactive s hstate, Bool.false_eq_true,
    if_false]
  show (s.referring s.subscriptions (.text v.account) >>= _) = _
  rw [hreferring]
  rfl

/-- An id is taken when there is a subscription of it. -/
theorem Written.insert?_isSome (hs : Written s) (v : Subscription) :
    (s.subscriptions.insert? (.ofSubscription v)).isSome
      = !s.subscriptions.hasKey [.text v.id] := by
  cases hT : s.subscriptions.insert? (.ofSubscription v) with
  | some T =>
    have hfree := (Table.insert?_some hT).not_hasKey hs.made.subscriptions
    rw [show s.subscriptions.hasKey [.text v.id] = false from hfree]
    rfl
  | none =>
    obtain ⟨r, hr, horder⟩ := Table.insert?_none hT
    obtain ⟨w, rfl, -⟩ := hs.subscription r hr
    have hid : w.id = v.id := by
      simpa [Row.order, Row.key, SubscriptionRow.ofSubscription, Cell.spelling] using horder
    have hkey : s.subscriptions.hasKey [.text v.id] = true :=
      Table.hasKey_iff.2 ⟨_, hr, by rw [← hid]; rfl⟩
    rw [hkey]
    rfl

theorem Written.exists_subscription (hs : Written s)
    (hid : s.subscriptions.hasKey [.text id] = true) :
    ∃ v, SubscriptionRow.ofSubscription v ∈ s.subscriptions.rows ∧ v.id = id := by
  obtain ⟨r, hr, hkey⟩ := Table.hasKey_iff.1 hid
  obtain ⟨v, rfl, -⟩ := hs.subscription r hr
  exact ⟨v, hr, by simpa [Row.key, SubscriptionRow.ofSubscription] using hkey⟩

theorem Written.subscription_found (hs : Written s) {v : Subscription}
    (hv : SubscriptionRow.ofSubscription v ∈ s.subscriptions.rows) :
    s.subscription v.id = .ok v.floorDates := by
  have hfind : s.subscriptions.find? [.text v.id] = some (.ofSubscription v) :=
    Table.find?_eq hs.made.subscriptions hv rfl
  unfold Store.subscription
  rw [Table.naming_made hs.made.subscriptions, hfind]
  exact SubscriptionRow.readOne_ofSubscription v

theorem Written.subscription_missing (hs : Written s)
    (hid : s.subscriptions.hasKey [.text id] = false) :
    s.subscription id = .error (.subscriptionNotFound id) := by
  unfold Store.subscription
  rw [Table.naming_made hs.made.subscriptions, Table.find?_eq_none.2 hid]
  rfl

/-- The row that a subscription was read from is the row that it is written as. -/
theorem Written.row_read (hs : Written s) {row : SubscriptionRow} {v : Subscription}
    (hrow : row ∈ s.subscriptions.rows) (hread : readOne SubscriptionRow.read row = .ok v) :
    row = .ofSubscription v := by
  obtain ⟨w, rfl, -⟩ := hs.subscription row hrow
  rw [SubscriptionRow.readOne_ofSubscription] at hread
  rw [← Except.ok.inj hread, SubscriptionRow.ofSubscription_floorDates]

theorem Written.subscription_stored (hs : Written s) {v : Subscription}
    (h : s.subscription id = .ok v) : .ofSubscription v ∈ s.subscriptions.rows := by
  obtain ⟨row, hrow, -, hread⟩ := subscription_ok h
  exact hs.row_read hrow hread ▸ hrow

theorem Written.activeSubscription_stored (hs : Written s) {account service : String}
    {v : Subscription} (h : s.activeSubscription account service = .ok (some v)) :
    .ofSubscription v ∈ s.subscriptions.rows ∧ v.account = account := by
  obtain ⟨_, _, h⟩ := bind_eq_ok.1 h
  split at h
  · next row hrow =>
    obtain ⟨w, hread, hw⟩ := map_eq_ok.1 h
    cases hw
    have hmem := List.mem_of_find?_eq_some hrow
    have hgives := List.find?_some hrow
    obtain rfl := hs.row_read hmem hread
    refine ⟨hmem, ?_⟩
    simp only [SubscriptionRow.gives, Bool.and_eq_true, decide_eq_true_eq] at hgives
    exact Cell.text.inj hgives.1.1
  · exact absurd h (by simp)

theorem Written.activeSubscriptions_stored (hs : Written s) {account : String}
    {vs : List Subscription} (h : s.activeSubscriptions account = .ok vs) :
    ∀ v ∈ vs, .ofSubscription v ∈ s.subscriptions.rows ∧ v.account = account := by
  obtain ⟨_, _, h⟩ := bind_eq_ok.1 h
  intro v hv
  obtain ⟨row, hrow, hread⟩ := readAll_mem h v hv
  obtain ⟨hmem, hselected⟩ := Table.mem_select.1 hrow
  obtain rfl := hs.row_read hmem hread
  refine ⟨hmem, ?_⟩
  simp only [Bool.and_eq_true, decide_eq_true_eq] at hselected
  exact Cell.text.inj hselected.1

/-- A command is found by its id. -/
theorem Written.command_of_row (hs : Written s) {c : Command}
    (hc : .ofCommand c ∈ s.commands.rows) : s.command c.id = .ok c := by
  have hfind : s.commands.find? [.text c.id] = some (.ofCommand c) :=
    Table.find?_eq hs.made.commands hc rfl
  unfold Store.command
  rw [Table.naming_made hs.made.commands, ok_bind, hfind]
  simp only [CommandRow.command_ofCommand, mapError_ok]

end Store

end CloudIde
