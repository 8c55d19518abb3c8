import CloudIde.Proofs.SubscriptionChange

/-!
# What failures leave behind

A request that fails leaves the store as it was, but for two cases: a service can fail after a
subscription was stored, or after one was made inactive, and then this is not taken back. Two more
cases are ruled out by what a written store holds: the owner of a new account can be added, and a
command that was changed can be read again.
-/

namespace CloudIde

namespace Store

variable {s t : Store}

/-- A member can be added to an account that is there. -/
theorem Written.addMember_succeeds (hs : Written s) {m : Member}
    (hm : s.hasAccount m.account = true) : ∃ t, s.addMember m = .ok t := by
  obtain ⟨a, haccount⟩ := hs.account_found hm
  have hkey : s.accounts.hasKey [.text m.account] = true := hm
  refine ⟨{ s with members := s.members.put (.ofMember m) }, ?_⟩
  unfold Store.addMember
  rw [haccount, Table.filling_made hs.made.members]
  simp [relating, referring, hs.made.accounts, hkey]

theorem Written.command_found (hs : Written s) {id : String}
    (hid : s.commands.hasKey [.text id] = true) : ∃ c, s.command id = .ok c := by
  obtain ⟨r, hr, hkey⟩ := Table.hasKey_iff.1 hid
  obtain ⟨c, rfl⟩ := hs.command r hr
  obtain rfl : c.id = id := Cell.text.inj (List.cons.inj hkey).1
  exact ⟨c, hs.command_of_row hr⟩

/-- A command that was found before an update is found after it. -/
theorem Written.command_updated (hs : Written s) {update : CommandUpdate} {id : String}
    (hid : update.id = some id) (ht : s.updateCommand update = .ok t) :
    ∃ c, t.command id = .ok c := by
  have hwritten := written_write (w := .updateCommand update) hs ht
  obtain ⟨id', c, hid', hc, rfl⟩ := updateCommand_ok ht
  cases hid.symm.trans hid'
  refine hwritten.command_found ?_
  obtain ⟨_, _, hc⟩ := bind_eq_ok.1 hc
  split at hc
  · next row hrow =>
    obtain ⟨hmem, hkey⟩ := Table.find?_mem hrow
    refine Table.hasKey_iff.2 ⟨row.updated (c.apply update), ?_, ?_⟩
    · exact (Table.mem_modify _ (CommandRow.key_updated _)).2 ⟨row, hmem, rfl⟩
    · rw [CommandRow.key_updated, hkey]
  · exact absurd hc (by simp)

end Store

namespace Http

open Store

variable {ctx : Context} {s : Store} {caller : Caller}

/-- What only looks changes nothing. -/
theorem Effect.looked_store {op : Operation} {reply : Reply} (h : Effect ctx s caller op reply)
    (hop : op.looks = true) : reply.store = s := by
  cases h with
  | looked | refused => rfl
  | _ => exact absurd hop (by simp [Operation.looks])

/-- The service failed after the subscription was stored. -/
structure StoredThenFailed (ctx : Context) (s : Store) (caller : Caller) (body : Bytes)
    (reply : Reply) (p : Platform.Proposal) (v : Subscription) (f : Failure) : Prop where
  proposed : Platform.propose ctx s caller body = .ok p
  before : p.service.before p.subscription = .ok v
  failed : p.service.after v = .error f
  response : reply.response = .failed f
  /-- One row is new. -/
  only : ∃ T : Table SubscriptionRow, T.rows.Perm (.ofSubscription v :: s.subscriptions.rows)
    ∧ reply.store = { s with subscriptions := T }
  /-- It is read as what the service has made of the subscription, with its dates floored. -/
  stored : reply.store.subscription v.id = .ok v.floorDates

/-- The service failed after the subscription was made inactive. -/
structure RemovedThenFailed (ctx : Context) (s : Store) (id : String) (reply : Reply)
    (v : Subscription) (service : Service) (f : Failure) : Prop where
  found : s.subscription id = .ok v
  active : v.isActive = true
  registered : ctx.registry.get? v.service = some service
  failed : service.removed { v with state := .inactive } = .error f
  response : reply.response = .failed f
  /-- The row of the subscription is inactive now. -/
  only : ∃ T : Table SubscriptionRow,
    T.rows = s.subscriptions.rows.map (fun row => if row.id = .text id then
      { row with state := .text SubscriptionState.inactive.text } else row)
    ∧ reply.store = { s with subscriptions := T }

/-- **An operation that fails leaves the store as it was**, unless a service fails afterwards. -/
theorem Effect.failed (hs : Written s) {op : Operation} {reply : Reply}
    (h : Effect ctx s caller op reply) (hfailed : 400 ≤ reply.response.status) :
    reply.store = s
      ∨ (∃ body p v f, op = .subscribe body ∧ StoredThenFailed ctx s caller body reply p v f)
      ∨ ∃ id v service f, op = .unsubscribe id ∧ RemovedThenFailed ctx s id reply v service f := by
  cases h with
  | looked | refused => exact Or.inl rfl
  | accountMade | memberAdded | planMade | unsubscribedQuietly | commandMade | commandRemoved
  | workspaceMemberAdded => exact absurd hfailed (by simp)
  | @ownerMissing new a t f _ _ ht hf =>
    -- the account of the new member is there, so the member can be added
    obtain ⟨T, hT, rfl⟩ := createAccount_ok ht
    have hthere : ({ s with accounts := T } : Store).hasAccount a.id = true :=
      hT.hasKey_iff.2 (Or.inl rfl)
    obtain ⟨u, hu⟩ := (written_createAccount hs ht).addMember_succeeds
      (m := ⟨a.id, caller.user, [Role.accountOwner]⟩) hthere
    rw [hu] at hf
    exact absurd hf (by simp)
  | @commandChanged body update id t hupdate ht =>
    -- the command is found again after the update, so the answer is no failure
    obtain ⟨_, hchangeable⟩ := changing_ok hupdate
    obtain ⟨c, hc⟩ := hs.command_updated hchangeable.named ht
    rw [hc] at hfailed
    exact absurd (show 400 ≤ 200 from hfailed) (by decide)
  | @subscribed body p v t hp hv ht =>
    cases hafter : p.service.after v with
    | ok _ =>
      rw [hafter] at hfailed
      exact absurd (show 400 ≤ 201 from hfailed) (by decide)
    | error f =>
      -- the row is read back as what it was written for, to the second
      have hinsert := addSubscription_ok ht
      have hwritten := written_insertSubscription hs hinsert
      obtain ⟨T, hT, rfl⟩ := (insertSubscription_ok hinsert).only
      refine Or.inr (Or.inl ⟨body, p, v, f, rfl, hp, hv, hafter, rfl, ⟨T, hT.rows, rfl⟩, ?_⟩)
      exact hwritten.subscription_found (hT.mem_iff.2 (Or.inl rfl))
  | @unsubscribed id v service t hv ht hservice =>
    cases hremoved : service.removed { v with state := .inactive } with
    | ok _ =>
      rw [hremoved] at hfailed
      exact absurd (show 400 ≤ 204 from hfailed) (by decide)
    | error f =>
      obtain ⟨-, hfound, -, hactive⟩ := Platform.removable_ok hv
      obtain ⟨hrows, -⟩ := hs.replace_inactive hfound
      have honly := (updateSubscription_ok ht).only
      exact Or.inr (Or.inr ⟨id, v, service, f, rfl, hfound, hactive, hservice, hremoved, rfl,
        _, hrows, honly⟩)

/-- **A request that fails leaves the store as it was**, but for the two failures of services. A
request to be shown something leaves it as it was in any case. -/
theorem failures_leave (ctx : Context) (s : Store) (r : Request) (hs : Written s) :
    (400 ≤ (respond ctx s r).response.status →
        (respond ctx s r).store = s
          ∨ (r.method = "POST" ∧ Resource.ofPath? r.path = some .subscriptions ∧
              ∃ caller p v f, Caller.ofHeaders r.headers = .ok caller ∧
                StoredThenFailed ctx s caller r.body (respond ctx s r) p v f)
          ∨ (r.method = "DELETE" ∧ ∃ raw id v service f,
              Resource.ofPath? r.path = some (.subscription raw) ∧
                Request.parameter "subscription_id" raw = .ok id ∧
                  RemovedThenFailed ctx s id (respond ctx s r) v service f)) ∧
      (r.method = "GET" ∨ r.method = "HEAD" → (respond ctx s r).store = s) := by
  cases hd : r.demand with
  | error response =>
    rw [respond_of_no_demand hd]
    exact ⟨fun _ => Or.inl rfl, fun _ => rfl⟩
  | ok d =>
    obtain ⟨resource, method, hasks⟩ := Request.demand_ok hd
    have heffect : Effect ctx s d.caller d.operation (d.operation.perform ctx s d.caller) :=
      perform_effect d.operation
    rw [respond_of_demand hd, Demand.reply_status, Demand.reply_store]
    refine ⟨fun hfailed => ?_, fun hmethod => ?_⟩
    · rcases heffect.failed hs hfailed with hsame | ⟨body, p, v, f, hop, hstored⟩ |
        ⟨id, v, service, f, hop, hremoved⟩
      · exact Or.inl hsame
      · have hasked := hasks.askedAt
        rw [hop] at hasked
        obtain ⟨rfl, rfl, rfl⟩ := hasked
        obtain ⟨hpost, hreply⟩ := hasks.whole (by simp)
        rw [hreply]
        exact Or.inr (Or.inl ⟨hpost, hasks.path, d.caller, p, v, f, hasks.caller, hstored⟩)
      · have hasked := hasks.askedAt
        rw [hop] at hasked
        obtain ⟨rfl, raw, rfl, hid⟩ := hasked
        obtain ⟨hdelete, hreply⟩ := hasks.whole (by simp)
        rw [hreply]
        exact Or.inr (Or.inr ⟨hdelete, raw, id, v, service, f, hasks.path, hid, hremoved⟩)
    · -- whoever asks to be shown something asks for an operation that looks
      have hget : method = .get := hasks.get hmethod
      subst hget
      exact heffect.looked_store (Request.wanted_get hasks.wanted hasks.known)

/-! ## A service that fails to take note -/

/-- The circumstances in which the one service there is cannot be told that it was given up. -/
def deaf : Context :=
  ⟨"http://host/api", .ofList [{ Service.plain "mail" with
    removed := fun _ => .error (.reported .internal "no route to mail") }], .epoch, []⟩

/-- The store with an account that uses mail. -/
def mailed : Store := Store.empty.run
  [.call (.createAccount ⟨"acme", "Acme"⟩),
    .call (.addSubscription (.bare "first" "acme" "mail" .active)),
    .call (.addSubscription (.bare "second" "acme" "wiki" .active))]

/-- An administrator gives up mail for the account. -/
def dropping : Request where
  method := "DELETE"
  path := "/api/account/subscriptions/first"
  query := none
  headers := [("x-user-id", Bytes.ofText "root"), ("x-user-roles", Bytes.ofText "system/admin")]
  body := []

/-- The answer is a failure, yet the subscription is inactive. -/
theorem failures_leave_inactive :
    400 ≤ (respond deaf mailed dropping).response.status ∧
      ∃ v service f, RemovedThenFailed deaf mailed "first" (respond deaf mailed dropping)
        v service f := by
  have hstatus : (respond deaf mailed dropping).response.status = 500 := rfl
  have hfailed : 400 ≤ (respond deaf mailed dropping).response.status := by
    rw [hstatus]
    decide
  refine ⟨hfailed, ?_⟩
  rcases (failures_leave deaf mailed dropping (written_run written_empty _)).1 hfailed with
    hsame | ⟨hpost, -⟩ | ⟨-, raw, id, v, service, f, hpath, hid, hremoved⟩
  · -- the states of the rows tell the stores apart
    have hstates := congrArg (fun s : Store => s.subscriptions.rows.map (·.state)) hsame
    exact nomatch hstates
  · exact absurd hpost (by decide)
  · cases hpath
    cases hid
    exact ⟨v, service, f, hremoved⟩

end Http

end CloudIde
