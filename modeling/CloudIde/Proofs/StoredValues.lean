import CloudIde.Proofs.Constraints
import CloudIde.Proofs.RowByRow
import CloudIde.Proofs.WorkspaceRoles
import CloudIde.Proofs.WriteOutcomes
import Mathlib.Data.List.Nodup

/-!
# What is stored is read back

A value that a call has stored is what is read afterwards: a subscription with its dates at the
beginning of their seconds, a plan as it is, a membership with its roles in their order. Values of
one kind share a table, and lists of memberships are read as a whole; so a membership is listed
unless some other one that belongs into the list cannot be read, and calls alone never leave such a
one behind.

The other way round reading loses what it does not understand: a state that has no name, a date that
is no instant, blanks in a JSON text. It loses it at once. Whatever stands in the row of a
subscription, what it is read as can be written in its place, and is read again.
-/

namespace CloudIde

/-! ## Cells that were read -/

theorem Cell.IsText.eq_text {cell : Cell} (h : cell.IsText) {column : ColumnPlace} {text : String}
    (hread : cell.readText column = .ok text) : cell = .text text := by
  obtain ⟨s, rfl⟩ := h
  rw [Cell.readText_text] at hread
  rw [Except.ok.inj hread]

theorem MemberRow.Spelled.cells {row : MemberRow} (h : row.Spelled) {m : Member}
    (hread : readOne read row = .ok m) : row.account = .text m.account ∧ row.user = .text m.user := by
  obtain ⟨account, user, roles⟩ := row
  obtain ⟨⟨a, rfl⟩, ⟨u, rfl⟩, ⟨r, rfl⟩⟩ := h
  obtain ⟨unread, hcells, hvalue⟩ := readOne_ok.1 hread
  cases hcells
  obtain ⟨roles, -, rfl⟩ := map_eq_ok.1 hvalue
  exact ⟨rfl, rfl⟩

theorem WorkspaceMemberRow.Spelled.cells {row : WorkspaceMemberRow} (h : row.Spelled)
    {m : WorkspaceMember} (hread : readOne read row = .ok m) :
    row.workspace = .text m.workspace ∧ row.user = .text m.user := by
  obtain ⟨workspace, user, roles⟩ := row
  obtain ⟨⟨w, rfl⟩, ⟨u, rfl⟩, ⟨r, rfl⟩⟩ := h
  obtain ⟨unread, hcells, hvalue⟩ := readOne_ok.1 hread
  cases hcells
  obtain ⟨roles, -, rfl⟩ := map_eq_ok.1 hvalue
  exact ⟨rfl, rfl⟩

namespace SubscriptionRow

variable {row : SubscriptionRow} {v : Subscription}

theorem Spelled.cells (h : row.Spelled) (hread : readOne read row = .ok v) :
    row.id = .text v.id ∧ row.account = .text v.account ∧ row.service = .text v.service := by
  obtain ⟨hid, haccount, hservice, -, -⟩ := readOne_cells hread
  exact ⟨h.1.eq_text hid, h.2.1.eq_text haccount, h.2.2.eq_text hservice⟩

/-- Only the name of the active state is read as that state. -/
theorem isActive_of_readOne (hread : readOne read row = .ok v) : row.isActive = v.isActive := by
  obtain ⟨-, -, -, ⟨state, hcell, hstate⟩, -⟩ := readOne_cells hread
  unfold isActive Subscription.isActive
  rw [hstate]
  cases hrow : row.state with
  | null =>
    rw [hrow] at hcell
    cases hcell
    rfl
  | integer n =>
    rw [hrow] at hcell
    exact absurd hcell (by simp [Cell.readText, Cell.wrong])
  | real =>
    rw [hrow] at hcell
    exact absurd hcell (by simp [Cell.readText, Cell.wrong])
  | text name =>
    rw [hrow] at hcell
    cases hcell
    by_cases hname : state = "ACTIVE"
    · simp [SubscriptionState.ofText, SubscriptionState.text, hname]
    · simp [SubscriptionState.ofText, SubscriptionState.text, hname]

end SubscriptionRow

theorem Instant.floorSecond_of_ofSeconds? {seconds : Int} {t : Instant}
    (h : ofSeconds? seconds = some t) : t.floorSecond = t := by
  unfold ofSeconds? ofParts? at h
  split at h
  · cases h
    rfl
  · exact absurd h (by simp)

/-- Dates that were read are at the beginning of their seconds already. -/
theorem SubscriptionRow.floorDates_of_readOne {row : SubscriptionRow} {v : Subscription}
    (hread : readOne read row = .ok v) : v.floorDates = v := by
  obtain ⟨-, -, -, -, seconds, hdates⟩ := readOne_cells hread
  have hfloor (date : Option Int) : (date.bind Instant.ofSeconds?).map Instant.floorSecond
      = date.bind Instant.ofSeconds? := by
    cases date with
    | none => rfl
    | some n =>
      show (Instant.ofSeconds? n).map Instant.floorSecond = Instant.ofSeconds? n
      cases ht : Instant.ofSeconds? n with
      | none => rfl
      | some t => rw [Option.map_some, Instant.floorSecond_of_ofSeconds? ht]
  have hdates : v.dates.map (fun date => date.map Instant.floorSecond) = v.dates := by
    rw [hdates]
    simp only [SubscriptionDates.map, hfloor]
  show { v with dates := _ } = v
  rw [hdates]

/-! ## Lists with a row that was put -/

section

variable {ρ α β : Type} [Row ρ] [Wire α] {read : ρ → Except DatabaseFault (Unread α β)}
  {t : Table ρ} {row : ρ} {b : β} {p : ρ → Bool}

/-- Rows of a kind can be read, but for the one of a key. -/
def Table.ReadBeside (t : Table ρ) (read : ρ → Except DatabaseFault (Unread α β)) (p : ρ → Bool)
    (key : Key) : Prop :=
  ∀ row ∈ t.rows, p row = true → Row.key row ≠ key → ∃ b, readOne read row = .ok b

/-- **What was put into a table is listed once**, when the others of the list can be read. -/
theorem Table.readAll_put [DecidableEq ρ] (hm : t.layout = .made)
    (hread : readOne read row = .ok b) (hp : p row = true) {q : β → Bool}
    (hmine : ∀ r ∈ (t.put row).rows, p r = true → ∀ c, readOne read r = .ok c →
      (q c = true ↔ Row.key r = Row.key row))
    (hothers : t.ReadBeside read p (Row.key row)) (order : ρ → List Cell) :
    ∃ bs, readAll read ((t.put row).select p order) = .ok bs ∧ bs.filter q = [b] := by
  have hmade : (t.put row).layout = .made := Table.put_layout.trans hm
  have hrow : row ∈ (t.put row).rows := (Table.mem_put hm).2 (Or.inl rfl)
  have hlisted : ∀ r ∈ (t.put row).select p order, r ∈ (t.put row).rows ∧ p r = true :=
    fun r hr => Table.mem_select.1 hr
  have hreads : ∀ r ∈ (t.put row).select p order, ∃ c, readOne read r = .ok c := by
    intro r hr
    obtain ⟨hr, hpr⟩ := hlisted r hr
    rcases (Table.mem_put hm).1 hr with rfl | ⟨hr, horder⟩
    · exact ⟨b, hread⟩
    · exact hothers r hr hpr fun hkey => horder (order_of_key hkey)
  obtain ⟨bs, hbs, hrelated⟩ := readAll_forall₂ hreads
  refine ⟨bs, hbs, ?_⟩
  -- of the rows that are listed one is picked, and of the values the one it is read as
  have hpicked := filter_of_forall₂ ((List.forall₂_and_left _ _).2 ⟨hlisted, hrelated⟩)
    (p := fun r => r = row) (q := q) fun r c ⟨⟨hr, hpr⟩, hc⟩ => by
      have hsame : r = row ↔ Row.key r = Row.key row :=
        ⟨fun he => he ▸ rfl, Table.eq_of_key hmade hr hrow⟩
      exact Bool.eq_iff_iff.2 (by rw [decide_eq_true_eq, hsame, hmine r hr hpr c hc])
  have hone : ((t.put row).select p order).filter (fun r => r = row) = [row] := by
    rw [List.filter_eq, List.count_eq_one_of_mem (Table.nodup_select hmade p order)
      (Table.mem_select.2 ⟨hrow, hp⟩)]
    rfl
  rw [hone] at hpicked
  generalize bs.filter q = picked at hpicked ⊢
  cases hpicked with
  | cons hc hnil =>
    cases hnil
    rw [Except.ok.inj (hread.symm.trans hc.2)]

end

namespace Store

variable {s t : Store} {v : Subscription}

/-! ## Values that calls have stored -/

theorem subscription_of_row (hm : s.subscriptions.layout = .made) {row : SubscriptionRow}
    (hrow : row ∈ s.subscriptions.rows) {id : String} (hid : row.id = .text id)
    (hread : readOne SubscriptionRow.read row = .ok v) : s.subscription id = .ok v := by
  have hfind : s.subscriptions.find? [.text id] = some row :=
    Table.find?_eq hm hrow (SubscriptionRow.key_eq_iff.2 hid)
  unfold subscription
  rw [Table.naming_made hm, ok_bind, hfind]
  exact hread

/-- A subscription that was added or changed is in its row. -/
theorem AllMade.subscription_written (hs : AllMade s)
    (hw : s.addSubscription v = .ok t ∨ s.updateSubscription v = .ok t) :
    t.subscription v.id = .ok v.floorDates := by
  have hrow : t.subscriptions.layout = .made ∧ .ofSubscription v ∈ t.subscriptions.rows := by
    rcases hw with hw | hw
    · obtain ⟨-, -, T, hT, rfl⟩ := insertSubscription_ok (addSubscription_ok hw)
      exact ⟨hT.layout.trans hs.subscriptions, hT.mem_iff.2 (Or.inl rfl)⟩
    · obtain ⟨-, hthere, -, rfl⟩ := updateSubscription_ok hw
      exact ⟨hs.subscriptions, Table.mem_replace.2 (Or.inl ⟨rfl, hthere⟩)⟩
  exact subscription_of_row hrow.1 hrow.2 rfl (SubscriptionRow.readOne_ofSubscription v)

theorem AllMade.plan_written (hs : AllMade s) {p : Plan} (hw : s.createPlan p = .ok t) :
    t.plan p.id = .ok p := by
  obtain ⟨T, hT, rfl⟩ := createPlan_ok hw
  have hm : T.layout = .made := hT.layout.trans hs.plans
  have hfind : T.find? [.text p.id] = some (.ofPlan p) :=
    Table.find?_eq hm (hT.mem_iff.2 (Or.inl rfl)) rfl
  unfold plan
  rw [Table.naming_made hm, ok_bind, hfind]
  exact PlanRow.readOne_ofPlan p

/-- The memberships of an account, beside one. -/
def MembersRead (s : Store) (m : Member) : Prop :=
  s.members.ReadBeside MemberRow.read (fun row => row.account = .text m.account)
    [.text m.account, .text m.user]

/-- The memberships of a user, beside one. -/
def MembershipsRead (s : Store) (m : Member) : Prop :=
  s.members.ReadBeside MemberRow.read (fun row => row.user = .text m.user)
    [.text m.account, .text m.user]

/-- The memberships of a workspace, beside one. -/
def WorkspaceMembersRead (s : Store) (m : WorkspaceMember) : Prop :=
  s.workspaceMembers.ReadBeside WorkspaceMemberRow.read
    (fun row => row.workspace = .text m.workspace) [.text m.workspace, .text m.user]

theorem Constrained.members_written (hs : Constrained s) {m : Member}
    (hw : s.addMember m = .ok t) (hothers : s.MembersRead m) :
    ∃ ms, t.membersOf m.account = .ok ms ∧ ms.filter (fun n => n.user = m.user) = [m] := by
  have ht : Constrained t := constrained_write (w := .addMember m) hs hw
  obtain ⟨-, rfl⟩ := addMember_ok hw
  unfold membersOf
  rw [Table.naming_made ht.made.members]
  refine Table.readAll_put hs.made.members (MemberRow.readOne_ofMember m)
    (by simp [MemberRow.ofMember]) (fun row hrow haccount n hn => ?_) hothers _
  obtain ⟨-, huser⟩ := (ht.member row hrow).cells hn
  have haccount : row.account = .text m.account := by simpa using haccount
  simp [Row.key, MemberRow.ofMember, haccount, huser]

theorem Constrained.memberships_written (hs : Constrained s) {m : Member}
    (hw : s.addMember m = .ok t) (hothers : s.MembershipsRead m) :
    ∃ ms, t.memberships m.user = .ok ms ∧ ms.filter (fun n => n.account = m.account) = [m] := by
  have ht : Constrained t := constrained_write (w := .addMember m) hs hw
  obtain ⟨-, rfl⟩ := addMember_ok hw
  unfold memberships
  rw [Table.naming_made ht.made.members]
  refine Table.readAll_put hs.made.members (MemberRow.readOne_ofMember m)
    (by simp [MemberRow.ofMember]) (fun row hrow huser n hn => ?_) hothers _
  obtain ⟨haccount, -⟩ := (ht.member row hrow).cells hn
  have huser : row.user = .text m.user := by simpa using huser
  simp [Row.key, MemberRow.ofMember, haccount, huser]

theorem Constrained.workspaceMembers_written (hs : Constrained s) {m : WorkspaceMember}
    (hw : s.addWorkspaceMember m = .ok t) (hothers : s.WorkspaceMembersRead m) :
    ∃ ms, t.workspaceMembersOf m.workspace = .ok ms ∧
      ms.filter (fun n => n.user = m.user) = [m] := by
  have ht : Constrained t := constrained_write (w := .addWorkspaceMember m) hs hw
  obtain rfl := addWorkspaceMember_ok hw
  unfold workspaceMembersOf
  rw [Table.naming_made ht.made.workspaceMembers]
  refine Table.readAll_put hs.made.workspaceMembers (WorkspaceMemberRow.readOne_ofMember m)
    (by simp [WorkspaceMemberRow.ofMember]) (fun row hrow hworkspace n hn => ?_) hothers _
  obtain ⟨-, huser⟩ := (ht.workspaceMember row hrow).cells hn
  have hworkspace : row.workspace = .text m.workspace := by simpa using hworkspace
  simp [Row.key, WorkspaceMemberRow.ofMember, hworkspace, huser]

/-- In a store that calls have written there is nothing that cannot be read. -/
theorem Written.membershipsRead (hs : Written s) (m : Member) (n : WorkspaceMember) :
    s.MembersRead m ∧ s.MembershipsRead m ∧ s.WorkspaceMembersRead n := by
  have hmember : ∀ row ∈ s.members.rows, ∃ m, readOne MemberRow.read row = .ok m := by
    intro row hrow
    obtain ⟨m, rfl, -⟩ := hs.member row hrow
    exact ⟨m, MemberRow.readOne_ofMember m⟩
  refine ⟨fun row hrow _ _ => hmember row hrow, fun row hrow _ _ => hmember row hrow,
    fun row hrow _ _ => ?_⟩
  obtain ⟨m, rfl⟩ := hs.workspaceMember row hrow
  exact ⟨m, WorkspaceMemberRow.readOne_ofMember m⟩

/-! ## Rows that were read -/

/-- **What was read can be written back**, and is read again. -/
theorem Constrained.written_back (hs : Constrained s) {row : SubscriptionRow}
    (hrow : row ∈ s.subscriptions.rows) (hread : readOne SubscriptionRow.read row = .ok v) :
    ∃ t, s.updateSubscription v = .ok t ∧ t.subscription v.id = .ok v := by
  obtain ⟨hid, haccount, hservice⟩ := (hs.subscription row hrow).cells hread
  have hthere : s.hasSubscription v.id = true := hasSubscription_iff.2 ⟨row, hrow, hid⟩
  have hfound : s.hasAccount v.account = true := by
    have href := hs.account row hrow
    rwa [haccount] at href
  have hfree : ¬ s.Contested v := by
    rintro ⟨hactive, other, hother, hne, hgives⟩
    simp only [SubscriptionRow.gives, Bool.and_eq_true, decide_eq_true_eq] at hgives
    obtain ⟨⟨hsame, hsame'⟩, hactive'⟩ := hgives
    -- it would be active beside the row already
    have hrival : SubscriptionRow.Rival other row :=
      ⟨hactive', (SubscriptionRow.isActive_of_readOne hread).trans hactive,
        hsame.trans haccount.symm, hsame'.trans hservice.symm⟩
    obtain rfl := hs.oneActive.eq_of_rival hother hrow hrival
    exact hne hid
  obtain ⟨-, -, hends⟩ := hs.made.updateSubscription_ends v
  obtain ⟨-, -, hends⟩ := hends (by simp [hthere])
  obtain ⟨-, -, hends⟩ := hends hfree
  obtain ⟨hok, -⟩ := hends (by simp [hfound])
  refine ⟨_, hok, ?_⟩
  rw [hs.made.subscription_written (Or.inr hok), SubscriptionRow.floorDates_of_readOne hread]

/-- **What is stored is read back**, whatever was done to the store before:

* a subscription that was added or changed, with its dates floored, and a plan;
* a membership, once, with the others of the account, of the user or of the workspace, as far as
  these can be read, which they can where nothing but calls has written;
* a subscription that was read from its row, whatever stands there, when it is written back. -/
theorem stored_read_back (hs : Touched s) :
    (∀ v t, s.addSubscription v = .ok t ∨ s.updateSubscription v = .ok t →
        t.subscription v.id = .ok v.floorDates) ∧
      (∀ p t, s.createPlan p = .ok t → t.plan p.id = .ok p) ∧
      (∀ m t, s.addMember m = .ok t →
        (s.MembersRead m → ∃ ms, t.membersOf m.account = .ok ms ∧
          ms.filter (fun n => n.user = m.user) = [m]) ∧
        (s.MembershipsRead m → ∃ ms, t.memberships m.user = .ok ms ∧
          ms.filter (fun n => n.account = m.account) = [m])) ∧
      (∀ m t, s.addWorkspaceMember m = .ok t → s.WorkspaceMembersRead m →
        ∃ ms, t.workspaceMembersOf m.workspace = .ok ms ∧
          ms.filter (fun n => n.user = m.user) = [m]) ∧
      (Written s → ∀ m n, s.MembersRead m ∧ s.MembershipsRead m ∧ s.WorkspaceMembersRead n) ∧
      ∀ row ∈ s.subscriptions.rows, ∀ v, readOne SubscriptionRow.read row = .ok v →
        s.subscription v.id = .ok v ∧
          ∃ t, s.updateSubscription v = .ok t ∧ t.subscription v.id = .ok v := by
  have hc := hs.constrained
  refine ⟨fun v t hw => hc.made.subscription_written hw, fun p t hw => hc.made.plan_written hw,
    fun m t hw => ⟨hc.members_written hw, hc.memberships_written hw⟩,
    fun m t hw => hc.workspaceMembers_written hw, fun hw => hw.membershipsRead,
    fun row hrow v hread => ⟨?_, hc.written_back hrow hread⟩⟩
  exact subscription_of_row hc.made.subscriptions hrow
    ((hc.subscription row hrow).cells hread).1 hread

/-- The new subscription got a state without a name, a date that is no instant, a flag that is
neither zero nor one, and properties with blanks between them. -/
def strange : Store :=
  (((returned.meddle "subscriptions" ["new"] "state" (.text "paused")).meddle
    "subscriptions" ["new"] "START_DATE" (.integer 9000000000000000)).meddle
    "subscriptions" ["new"] "use_payment_system" (.integer 7)).meddle
    "subscriptions" ["new"] "properties" (.text "\x7b \"a\\n\" : \"\\u00e9\" \x7d")

/-- None of this is what it is read as, which can be written in its place. -/
theorem stored_read_back_strange : ∃ v,
    strange.subscription "new" = .ok v ∧
      SubscriptionRow.ofSubscription v ∉ strange.subscriptions.rows ∧
      v.state = .inactive ∧ v.dates.start = none ∧ v.usePaymentSystem = true ∧
        v.properties.get? "a\n" = some "é" ∧
          ∃ t, strange.updateSubscription v = .ok t ∧ t.subscription v.id = .ok v := by
  have hreturned : Touched returned := Touched.empty.run _
  have hstrange : Touched strange :=
    (((hreturned.meddle _ _ _ Cell.noConfusion).meddle _ _ _ Cell.noConfusion).meddle _ _ _
      Cell.noConfusion).meddle _ _ _ Cell.noConfusion
  have hread : (strange.subscription "new").toOption.any (fun v => decide
      (SubscriptionRow.ofSubscription v ∉ strange.subscriptions.rows ∧
        v.state = SubscriptionState.inactive ∧ v.dates.start = none ∧ v.usePaymentSystem = true ∧
          v.properties.get? "a\n" = some "é")) = true := by decide +kernel
  cases hv : strange.subscription "new" with
  | error f =>
    rw [hv] at hread
    exact absurd hread (by simp [Except.toOption])
  | ok v =>
    rw [hv] at hread
    obtain ⟨hother, hstate, hstart, hflag, hproperty⟩ :
        SubscriptionRow.ofSubscription v ∉ strange.subscriptions.rows ∧
          v.state = SubscriptionState.inactive ∧ v.dates.start = none ∧
            v.usePaymentSystem = true ∧ v.properties.get? "a\n" = some "é" := by
      simpa [Except.toOption] using hread
    obtain ⟨row, hrow, -, hreadRow⟩ := subscription_ok hv
    obtain ⟨-, -, -, -, -, hback⟩ := stored_read_back hstrange
    obtain ⟨-, hwritten⟩ := hback row hrow v hreadRow
    exact ⟨v, rfl, hother, hstate, hstart, hflag, hproperty, hwritten⟩

end Store

end CloudIde
