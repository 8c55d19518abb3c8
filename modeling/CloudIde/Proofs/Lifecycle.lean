import CloudIde.Proofs.History

/-!
# The life of a stored subscription

A subscription that is stored stays stored. Its row can change once, from active to inactive, and
never otherwise (`SubscriptionRow.Ages`). What changes it is a request to remove it, by a privileged
caller or by somebody who is stored as an owner of its account, and this request changes nothing
else.

The row that is written then is put together from all that was read of the old one. That nothing
else comes out different rests on reading being undone by writing, column by column.
-/

namespace CloudIde

/-- What a row of a subscription can become: itself, or inactive when it is active. -/
def SubscriptionRow.Ages (row row' : SubscriptionRow) : Prop :=
  row' = row ∨ row.isActive = true ∧ row' = row.inactive

theorem SubscriptionRow.Ages.trans {a b c : SubscriptionRow} (hab : a.Ages b) (hbc : b.Ages c) :
    a.Ages c := by
  rcases hab with rfl | ⟨hactive, rfl⟩
  · exact hbc
  · -- an inactive row stays as it is
    rcases hbc with rfl | ⟨hagain, -⟩
    · exact Or.inr ⟨hactive, rfl⟩
    · exact absurd hagain (by simp)

namespace Http

open Store Platform

variable {s : Store}

/-- A request that changes the row of a subscription, and what it makes of the store. -/
structure GivesUp (s : Store) (r : Request) (row : SubscriptionRow) (t : Store) : Prop where
  method : r.method = "DELETE"
  /-- The path names the subscription. -/
  named : ∃ raw id, Resource.ofPath? r.path = some (.subscription raw) ∧
    Request.parameter "subscription_id" raw = .ok id ∧ row.id = .text id
  /-- The caller is privileged or a stored owner of the account. -/
  entitled : ∃ caller account, Caller.ofHeaders r.headers = .ok caller ∧
    row.account = .text account ∧
      (caller.isPrivileged = true ∨ s.Gives account caller.user Role.accountOwner)
  active : row.isActive = true
  /-- The row is inactive now, and all else is as it was. -/
  only : ∃ T : Table SubscriptionRow, T.rows = s.subscriptions.rows.map (fun other =>
    if other.id = row.id then other.inactive else other) ∧ t = { s with subscriptions := T }

/-- Whoever may act for an account is privileged or owns it. -/
theorem entitled_of_rolesFor {caller : Caller} {account : String} {there : RoleSet}
    (h : rolesFor s caller account [Role.accountOwner] = .ok there) :
    caller.isPrivileged = true ∨ s.Gives account caller.user Role.accountOwner := by
  cases hpriv : caller.isPrivileged with
  | true => exact Or.inl rfl
  | false => exact Or.inr (rolesFor_owner hpriv h)

/-- **A row that is not there any more was given up**, and is there as inactive. -/
theorem respond_row (ctx : Context) (hs : Written s) (r : Request) {row : SubscriptionRow}
    (hrow : row ∈ s.subscriptions.rows) :
    row ∈ (respond ctx s r).store.subscriptions.rows ∨
      row.inactive ∈ (respond ctx s r).store.subscriptions.rows ∧
        GivesUp s r row (respond ctx s r).store := by
  rcases respond_change ctx hs r with ⟨hsame, -⟩ | ⟨d, hd, hchange⟩
  · rw [hsame]
    exact Or.inl hrow
  · obtain ⟨resource, method, hasks⟩ := Request.demand_ok hd
    obtain ⟨caller, op, bare⟩ := d
    generalize respond ctx s r = reply at hchange ⊢
    cases hchange with
    | none hsame _ =>
      rw [hsame]
      exact Or.inl hrow
    | added _ _ _ hT => exact Or.inl (hT.mem_iff.2 (Or.inr hrow))
    | @ended v T _ there hmay hv hactive hT =>
      by_cases hid : row.id = .text v.id
      · obtain rfl := hs.row_eq hrow hv hid
        obtain ⟨rfl, raw, rfl, hparameter⟩ := hasks.askedAt
        refine Or.inr ⟨?_, ?_⟩
        · rw [hT]
          exact List.mem_map.2 ⟨_, hrow, if_pos hid⟩
        · exact {
            method := (hasks.named_eq (by simp)).1
            named := ⟨raw, v.id, hasks.path, hparameter, rfl⟩
            entitled := ⟨caller, v.account, hasks.caller, rfl, entitled_of_rolesFor hmay⟩
            active := (SubscriptionRow.isActive_ofSubscription v).trans hactive
            only := ⟨T, hT, rfl⟩ }
      · -- another row is made inactive
        refine Or.inl ?_
        rw [hT]
        exact (SubscriptionRow.mem_map_inactive hid).2 hrow

/-- What a row is after a history. -/
theorem history_ages (hs : Written s) (h : History) {row : SubscriptionRow}
    (hrow : row ∈ s.subscriptions.rows) :
    ∃ row' ∈ (h.store s).subscriptions.rows, row.Ages row' := by
  induction h generalizing s row with
  | nil => exact ⟨row, hrow, Or.inl rfl⟩
  | cons e rest ih =>
    obtain ⟨ctx, r⟩ := e
    have hnext : Written (respond ctx s r).store := (respond_leads ctx s r).keeps written_write hs
    rcases respond_row ctx hs r hrow with hsame | ⟨hinactive, hgives⟩
    · exact ih hnext hsame
    · obtain ⟨row', hrow', hages⟩ := ih hnext hinactive
      have hfirst : row.Ages row.inactive := Or.inr ⟨hgives.active, rfl⟩
      exact ⟨row', hrow', hfirst.trans hages⟩

/-- **Subscriptions are stored for good and given up once.** Between any two moments of a history a
row stays what it is or goes from active to inactive, and no other column of it changes. The one
request that changes it asks for it to be removed and comes from somebody who may, and it changes
nothing else. -/
theorem stored_for_good (s : Store) (hs : Written s) (earlier later : History) :
    (∀ row ∈ (earlier.store s).subscriptions.rows,
        ∃ row' ∈ (History.store s (earlier ++ later)).subscriptions.rows, row.Ages row') ∧
      ∀ ctx r, ∀ row ∈ (earlier.store s).subscriptions.rows,
        row ∉ (respond ctx (earlier.store s) r).store.subscriptions.rows →
          GivesUp (earlier.store s) r row (respond ctx (earlier.store s) r).store := by
  have hwritten := History.written hs earlier
  refine ⟨fun row hrow => ?_, fun ctx r row hrow hgone => ?_⟩
  · rw [History.store_append]
    exact history_ages hwritten later hrow
  · rcases respond_row ctx hwritten r hrow with hsame | ⟨-, hgives⟩
    · exact absurd hsame hgone
    · exact hgives

/-- The circumstances in which mail is the one service there is, and nothing is wrong with it. -/
def mailOnly : Context := ⟨"http://host/api", .ofList [.plain "mail"], .epoch, []⟩

/-- A store with an account that uses mail and no longer uses wiki. -/
def settled : Store := Store.empty.run
  [.call (.createAccount ⟨"acme", "Acme"⟩),
    .call (.addMember ⟨"acme", "ann", [Role.accountOwner]⟩),
    .call (.addSubscription (.bare "first" "acme" "mail" .active)),
    .call (.addSubscription (.bare "second" "acme" "wiki" .inactive))]

/-- The owner gives up mail. -/
def leaving : Request where
  method := "DELETE"
  path := "/api/account/subscriptions/first"
  query := none
  headers := [("x-user-id", Bytes.ofText "ann"), ("x-user-roles", Bytes.ofText "user")]
  body := []

/-- The row of mail. -/
def mailRow : SubscriptionRow := .ofSubscription (.bare "first" "acme" "mail" .active)

theorem leaving_demand : leaving.demand =
    .ok ⟨⟨"ann", RoleSet.ofList [Role.user]⟩, .unsubscribe "first", false⟩ := rfl

/-- The owner may give it up. -/
theorem leaving_removable : removable settled ⟨"ann", RoleSet.ofList [Role.user]⟩ "first" =
    .ok (.bare "first" "acme" "mail" .active) := by
  have hroles : settled.accountRoles "acme" "ann" = .ok (RoleSet.ofList [Role.accountOwner]) :=
    accountRoles_single (m := ⟨"acme", "ann", [Role.accountOwner]⟩) rfl rfl
  have hfound : settled.subscription "first" = .ok (.bare "first" "acme" "mail" .active) := rfl
  unfold removable rolesFor
  rw [hfound]
  simp only [Subscription.bare, hroles, ok_bind]
  rfl

theorem leaving_rows : (respond mailOnly settled leaving).store.subscriptions.rows =
    [mailRow.inactive, .ofSubscription (.bare "second" "acme" "wiki" .inactive)] := by
  rw [respond_of_demand leaving_demand, Demand.reply_store]
  simp only [Operation.perform, unsubscribe, leaving_removable]
  rfl

/-- The owner gives up mail, and it is never used again. -/
theorem stored_for_good_left :
    (∃ row' ∈ (History.store settled [(mailOnly, leaving)]).subscriptions.rows,
        mailRow.Ages row') ∧
      GivesUp settled leaving mailRow (respond mailOnly settled leaving).store := by
  have hmail : mailRow ∈ settled.subscriptions.rows := List.mem_cons_self
  obtain ⟨hages, hgives⟩ := stored_for_good settled (written_run written_empty _) []
    [(mailOnly, leaving)]
  refine ⟨hages mailRow hmail, hgives mailOnly leaving mailRow hmail ?_⟩
  -- neither of the rows that are left is the one of before
  rw [History.store_nil, leaving_rows]
  decide

end Http

end CloudIde
