import CloudIde.Proofs.Fallible
import CloudIde.Proofs.Table
import CloudIde.Store.Accounts
import CloudIde.Store.Subscriptions
import CloudIde.Store.Workspaces
import Mathlib.Data.List.Forall2

/-!
# What is read from rows

A value that was read comes from a row of the table, and rows that can be read one by one can be
read together. From this it follows where the roles of a user come from: from a membership of theirs
that is stored (`accountRoles_mem`).
-/

namespace CloudIde

section

variable {ε α β : Type} {f : α → Except ε β} {as : List α} {bs : List β}

theorem mapM_mem (h : as.mapM f = .ok bs) : ∀ b ∈ bs, ∃ a ∈ as, f a = .ok b := by
  induction as generalizing bs with
  | nil =>
    cases h
    intro b hb
    exact absurd hb List.not_mem_nil
  | cons a rest ih =>
    rw [List.mapM_cons] at h
    obtain ⟨c, hc, h⟩ := bind_eq_ok.1 h
    obtain ⟨cs, hcs, h⟩ := bind_eq_ok.1 h
    cases h
    intro b hb
    rcases List.mem_cons.1 hb with rfl | hb
    · exact ⟨a, List.mem_cons_self, hc⟩
    · obtain ⟨a', ha', hb'⟩ := ih hcs b hb
      exact ⟨a', List.mem_cons_of_mem a ha', hb'⟩

theorem mapM_all (h : as.mapM f = .ok bs) : ∀ a ∈ as, ∃ b ∈ bs, f a = .ok b := by
  induction as generalizing bs with
  | nil =>
    intro a ha
    exact absurd ha List.not_mem_nil
  | cons a rest ih =>
    rw [List.mapM_cons] at h
    obtain ⟨c, hc, h⟩ := bind_eq_ok.1 h
    obtain ⟨cs, hcs, h⟩ := bind_eq_ok.1 h
    cases h
    intro a' ha'
    rcases List.mem_cons.1 ha' with rfl | ha'
    · exact ⟨c, List.mem_cons_self, hc⟩
    · obtain ⟨b, hb, hread⟩ := ih hcs a' ha'
      exact ⟨b, List.mem_cons_of_mem c hb, hread⟩

theorem mapM_map {γ : Type} {g : γ → α} {k : γ → β} {cs : List γ}
    (h : ∀ c ∈ cs, f (g c) = .ok (k c)) : (cs.map g).mapM f = .ok (cs.map k) := by
  induction cs with
  | nil => rfl
  | cons c rest ih =>
    rw [List.map_cons, List.mapM_cons, h c List.mem_cons_self,
      ih fun other hother => h other (List.mem_cons_of_mem c hother)]
    rfl

end

section

variable {ρ α β : Type} [Wire α] {read : ρ → Except DatabaseFault (Unread α β)}

theorem readOne_ok {row : ρ} {b : β} :
    readOne read row = .ok b ↔ ∃ unread, read row = .ok unread ∧ unread.value = .ok b := by
  unfold readOne
  rw [bind_eq_ok]
  simp only [mapError_eq_ok]

/-- What is read from rows is read from one of them. -/
theorem readAll_mem {rows : List ρ} {bs : List β} (h : readAll read rows = .ok bs) :
    ∀ b ∈ bs, ∃ row ∈ rows, readOne read row = .ok b := by
  obtain ⟨unreads, hcells, hvalues⟩ := bind_eq_ok.1 h
  intro b hb
  obtain ⟨unread, hu, hvalue⟩ := mapM_mem hvalues b hb
  obtain ⟨row, hrow, hread⟩ := mapM_mem (mapError_eq_ok.1 hcells) unread hu
  exact ⟨row, hrow, readOne_ok.2 ⟨unread, hread, hvalue⟩⟩

/-- No row is left out. -/
theorem readAll_all {rows : List ρ} {bs : List β} (h : readAll read rows = .ok bs) :
    ∀ row ∈ rows, ∃ b ∈ bs, readOne read row = .ok b := by
  obtain ⟨unreads, hcells, hvalues⟩ := bind_eq_ok.1 h
  intro row hrow
  obtain ⟨unread, hu, hread⟩ := mapM_all (mapError_eq_ok.1 hcells) row hrow
  obtain ⟨b, hb, hvalue⟩ := mapM_all hvalues unread hu
  exact ⟨b, hb, readOne_ok.2 ⟨unread, hread, hvalue⟩⟩

/-- Rows that can be read one by one are read together, in their order. -/
theorem readAll_of_forall₂ {rows : List ρ} {bs : List β}
    (h : List.Forall₂ (fun row b => readOne read row = .ok b) rows bs) :
    readAll read rows = .ok bs := by
  -- all cells are read before the first text is taken apart
  have hall : ∃ unreads, rows.mapM read = .ok unreads ∧ unreads.mapM Unread.value = .ok bs := by
    induction h with
    | nil => exact ⟨[], rfl, rfl⟩
    | cons hrow _ ih =>
      obtain ⟨unread, hread, hvalue⟩ := readOne_ok.1 hrow
      obtain ⟨unreads, hreads, hvalues⟩ := ih
      refine ⟨unread :: unreads, ?_, ?_⟩
      · rw [List.mapM_cons, hread, hreads]
        rfl
      · rw [List.mapM_cons, hvalue, hvalues]
        rfl
  obtain ⟨unreads, hreads, hvalues⟩ := hall
  refine bind_eq_ok.2 ⟨unreads, ?_, hvalues⟩
  rw [hreads]
  rfl

theorem readAll_map {γ : Type} {f : γ → ρ} {g : γ → β} {cs : List γ}
    (h : ∀ c ∈ cs, readOne read (f c) = .ok (g c)) : readAll read (cs.map f) = .ok (cs.map g) := by
  refine readAll_of_forall₂ ?_
  rw [List.forall₂_map_left_iff, List.forall₂_map_right_iff]
  exact List.forall₂_same.2 h

/-- Rows that can be read give one value each. -/
theorem readAll_forall₂ {rows : List ρ} (h : ∀ row ∈ rows, ∃ b, readOne read row = .ok b) :
    ∃ bs, readAll read rows = .ok bs ∧
      List.Forall₂ (fun row b => readOne read row = .ok b) rows bs := by
  have hrelated : ∃ bs, List.Forall₂ (fun row b => readOne read row = .ok b) rows bs := by
    induction rows with
    | nil => exact ⟨[], .nil⟩
    | cons row rest ih =>
      obtain ⟨b, hb⟩ := h row List.mem_cons_self
      obtain ⟨bs, hbs⟩ := ih fun other hother => h other (List.mem_cons_of_mem row hother)
      exact ⟨b :: bs, .cons hb hbs⟩
  obtain ⟨bs, hbs⟩ := hrelated
  exact ⟨bs, readAll_of_forall₂ hbs, hbs⟩

theorem readAll_ok {rows : List ρ} (h : ∀ row ∈ rows, ∃ b, readOne read row = .ok b) :
    ∃ bs, readAll read rows = .ok bs := by
  obtain ⟨bs, hbs, -⟩ := readAll_forall₂ h
  exact ⟨bs, hbs⟩

end

namespace Store

variable {s : Store} {account user : String}

/-- A stored membership of a user in an account that gives a role. -/
def Gives (s : Store) (account user role : String) : Prop :=
  ∃ row ∈ s.members.rows, row.user = .text user ∧
    ∃ m, readOne MemberRow.read row = .ok m ∧ m.account = account ∧ role ∈ m.roles

/-- **A role in an account comes from a stored membership.** -/
theorem accountRoles_mem {there : RoleSet} (h : s.accountRoles account user = .ok there)
    {role : String} (hrole : role ∈ there) : s.Gives account user role := by
  obtain ⟨all, hall, h⟩ := bind_eq_ok.1 h
  obtain ⟨_, _, hall⟩ := bind_eq_ok.1 hall
  split at h
  · next m hm =>
    cases h
    obtain ⟨row, hrow, hread⟩ := readAll_mem hall m (List.mem_of_find?_eq_some hm)
    obtain ⟨hrow, huser⟩ := Table.mem_select.1 hrow
    have hacc : m.account = account := by simpa using List.find?_some hm
    exact ⟨row, hrow, by simpa using huser, m, hread, hacc, RoleSet.mem_ofList.1 hrole⟩
  · cases h
    exact absurd hrole RoleSet.not_mem_empty

/-- The subscription with an id is read from the row with the id. -/
theorem subscription_ok {id : String} {v : Subscription} (h : s.subscription id = .ok v) :
    ∃ row ∈ s.subscriptions.rows, row.id = .text id ∧ readOne SubscriptionRow.read row = .ok v := by
  obtain ⟨_, _, h⟩ := bind_eq_ok.1 h
  split at h
  · next row hrow =>
    obtain ⟨hmem, hkey⟩ := Table.find?_mem hrow
    exact ⟨row, hmem, by simpa [Row.key] using hkey, h⟩
  · exact absurd h (by simp)

end Store

/-- The cells that were read are those of the subscription; a date is that of a second. -/
theorem SubscriptionRow.readOne_cells {row : SubscriptionRow} {v : Subscription}
    (h : readOne SubscriptionRow.read row = .ok v) :
    row.id.readText (.named "id") = .ok v.id
      ∧ row.account.readText (.named "account_id") = .ok v.account
      ∧ row.service.readText (.named "service_id") = .ok v.service
      ∧ (∃ state, row.state.readText (.named "state") = .ok state
          ∧ v.state = SubscriptionState.ofText state)
      ∧ ∃ seconds : SubscriptionDates (Option Int),
          v.dates = seconds.map fun date => date.bind Instant.ofSeconds? := by
  obtain ⟨unread, hread, hvalue⟩ := readOne_ok.1 h
  obtain ⟨id, hid, hread⟩ := bind_eq_ok.1 hread
  obtain ⟨account, haccount, hread⟩ := bind_eq_ok.1 hread
  obtain ⟨service, hservice, hread⟩ := bind_eq_ok.1 hread
  -- nothing is said of the other cells
  obtain ⟨_, _, hread⟩ := bind_eq_ok.1 hread
  obtain ⟨_, _, hread⟩ := bind_eq_ok.1 hread
  obtain ⟨state, hstate, hread⟩ := bind_eq_ok.1 hread
  obtain ⟨_, _, hread⟩ := bind_eq_ok.1 hread
  obtain ⟨_, _, hread⟩ := bind_eq_ok.1 hread
  obtain ⟨seconds, _, hread⟩ := bind_eq_ok.1 hread
  obtain ⟨_, _, hread⟩ := bind_eq_ok.1 hread
  obtain ⟨_, _, hread⟩ := bind_eq_ok.1 hread
  obtain ⟨_, _, hread⟩ := bind_eq_ok.1 hread
  cases hread
  obtain ⟨_, _, rfl⟩ := map_eq_ok.1 hvalue
  exact ⟨hid, haccount, hservice, ⟨state, hstate, rfl⟩, seconds, rfl⟩

end CloudIde
