import CloudIde.Proofs.Lifecycle
import CloudIde.Proofs.ServiceCalls

/-!
# What services are told over time

A service takes note of a subscription when it is stored and when it is given up. `Life` says how
what has been told of an id goes with what is stored of it: nothing is told of an id that is not
stored, and who was told that a subscription was given up is not told again, as it stays inactive.
One request keeps this (`Life.step`), so a history does.
-/

namespace CloudIde

/-- Whether a service takes note of the subscription with an id: after it was stored, or when it has
been removed. -/
def ServiceCall.notes (id : String) (c : ServiceCall) : Bool :=
  (c.part = .after || c.part = .removed) && c.subscription.id = id

namespace Http

open Store

/-- What services are told of the subscription with an id while requests are answered, from the
empty store on. -/
def History.notes (h : History) (id : String) : List ServiceCall :=
  (h.calls Store.empty).filter (·.notes id)

/-- What has been told of an id, and what is stored of it, where some services are registered. -/
inductive Life (services : List String) (s : Store) (id : String) : List ServiceCall → Prop
  /-- There is none, and nothing was told. -/
  | unknown (hfree : s.subscriptions.hasKey [.text id] = false) : Life services s id []
  /-- It is as it was stored, and the service of its plan was told so. -/
  | stored {service : String} {v : Subscription} (hid : v.id = id)
      (hthere : .ofSubscription v ∈ s.subscriptions.rows) :
      Life services s id [⟨.after, service, v⟩]
  /-- It has been given up, and nobody was there to be told. -/
  | dropped {service : String} {v : Subscription} (hid : v.id = id) (hactive : v.isActive = true)
      (hthere : (SubscriptionRow.ofSubscription v).inactive ∈ s.subscriptions.rows)
      (hservice : v.service ∉ services) : Life services s id [⟨.after, service, v⟩]
  /-- It has been given up, and its service was told. -/
  | removed {service : String} {v : Subscription} (hid : v.id = id) (hactive : v.isActive = true)
      (hthere : (SubscriptionRow.ofSubscription v).inactive ∈ s.subscriptions.rows)
      (hservice : v.service ∈ services) :
      Life services s id
        [⟨.after, service, v⟩, ⟨.removed, v.service, v.floorDates.inactive⟩]

variable {services : List String} {s t : Store} {id : String} {told : List ServiceCall}

/-- Another store can hold the same of an id. -/
theorem Life.of_rows (h : Life services s id told)
    (hrows : ∀ row : SubscriptionRow, row.id = .text id →
      (row ∈ t.subscriptions.rows ↔ row ∈ s.subscriptions.rows)) : Life services t id told := by
  cases h with
  | unknown hfree =>
    refine .unknown (Bool.eq_false_iff.2 fun hkey => ?_)
    obtain ⟨row, hrow, hid⟩ := Table.hasKey_iff.1 hkey
    have hid : row.id = .text id := SubscriptionRow.key_eq_iff.1 hid
    have hthere : s.subscriptions.hasKey [.text id] = true :=
      Table.hasKey_iff.2 ⟨row, (hrows row hid).1 hrow, SubscriptionRow.key_eq_iff.2 hid⟩
    rw [hfree] at hthere
    exact absurd hthere (by simp)
  | stored hid hthere => exact .stored hid ((hrows _ (congrArg Cell.text hid)).2 hthere)
  | dropped hid hactive hthere hservice =>
    exact .dropped hid hactive ((hrows _ (congrArg Cell.text hid)).2 hthere) hservice
  | removed hid hactive hthere hservice =>
    exact .removed hid hactive ((hrows _ (congrArg Cell.text hid)).2 hthere) hservice

/-- What is stored under an id that has been told of. -/
theorem Life.hasKey (h : Life services s id told) (htold : told ≠ []) :
    s.subscriptions.hasKey [.text id] = true := by
  cases h with
  | unknown => exact absurd rfl htold
  | stored hid hthere | dropped hid _ hthere _ | removed hid _ hthere _ =>
    exact Table.hasKey_iff.2 ⟨_, hthere, SubscriptionRow.key_eq_iff.2 (congrArg Cell.text hid)⟩

/-- Of an id that is free nothing was told. -/
theorem Life.free (h : Life services s id told)
    (hfree : s.subscriptions.hasKey [.text id] = false) : told = [] := by
  cases told with
  | nil => rfl
  | cons c rest =>
    have hthere := h.hasKey (by simp)
    rw [hfree] at hthere
    exact absurd hthere (by simp)

/-- Of an active subscription it was told that it was stored, and nothing else. -/
theorem Life.active (hs : Written s) (h : Life services s id told) {v : Subscription}
    (hv : .ofSubscription v ∈ s.subscriptions.rows) (hid : v.id = id)
    (hactive : v.isActive = true) : ∃ service w, told = [⟨.after, service, w⟩] ∧
      SubscriptionRow.ofSubscription w = .ofSubscription v := by
  -- the row of the id is active, so it is not the inactive row of another value
  have hnot {w : Subscription} (hw : w.id = id)
      (hthere : (SubscriptionRow.ofSubscription w).inactive ∈ s.subscriptions.rows) : False := by
    have hsame := hs.row_eq hv hthere (congrArg Cell.text (hid.trans hw.symm))
    exact SubscriptionRow.ne_inactive hactive _ hsame
  cases h with
  | unknown hfree =>
    have hthere : s.subscriptions.hasKey [.text id] = true :=
      Table.hasKey_iff.2 ⟨_, hv, SubscriptionRow.key_eq_iff.2 (congrArg Cell.text hid)⟩
    rw [hfree] at hthere
    exact absurd hthere (by simp)
  | @stored service w hw hthere =>
    exact ⟨service, w, rfl, hs.row_eq hthere hv (congrArg Cell.text (hw.trans hid.symm))⟩
  | dropped hw _ hthere _ | removed hw _ hthere _ => exact (hnot hw hthere).elim

/-- A subscription that is added. -/
theorem Life.added (hs : Written s) (h : Life services s id told) {T : Table SubscriptionRow}
    {v : Subscription} (hT : s.subscriptions.Inserted (.ofSubscription v) T) (service : String) :
    Life services { s with subscriptions := T } id
      (told ++ [⟨.after, service, v⟩].filter (·.notes id)) := by
  by_cases hid : v.id = id
  · have hfree := hT.not_hasKey hs.made.subscriptions
    rw [SubscriptionRow.key_eq_iff.2 (congrArg Cell.text hid)] at hfree
    rw [h.free hfree]
    simpa [ServiceCall.notes, hid] using Life.stored hid (hT.mem_iff.2 (Or.inl rfl))
  · have hsame : Life services { s with subscriptions := T } id told := by
      refine h.of_rows fun row hrow => hT.mem_iff.trans ?_
      refine ⟨fun hor => hor.resolve_left fun he => hid ?_, Or.inr⟩
      rw [he] at hrow
      exact Cell.text.inj hrow
    simpa [ServiceCall.notes, hid] using hsame

/-- A subscription that is given up. -/
theorem Life.ended (hs : Written s) (h : Life services s id told) {ctx : Context}
    (hservices : ctx.registry.ids = services) {T : Table SubscriptionRow} {v : Subscription}
    (hv : .ofSubscription v ∈ s.subscriptions.rows) (hactive : v.isActive = true)
    (hT : T.rows = s.subscriptions.rows.map fun row =>
      if row.id = .text v.id then row.inactive else row) :
    Life services { s with subscriptions := T } id
      (told ++ ((ctx.registry.get? v.service).toList.map fun service =>
        ⟨.removed, service.id, v.floorDates.inactive⟩).filter (·.notes id)) := by
  by_cases hid : v.id = id
  · obtain ⟨service, w, rfl, hw⟩ := h.active hs hv hid hactive
    have hwid : w.id = id := (Cell.text.inj (congrArg SubscriptionRow.id hw)).trans hid
    have hwservice : w.service = v.service :=
      Cell.text.inj (congrArg SubscriptionRow.service hw)
    have hwactive : w.isActive = true := by
      rw [← SubscriptionRow.isActive_ofSubscription, hw, SubscriptionRow.isActive_ofSubscription,
        hactive]
    have hthere : (SubscriptionRow.ofSubscription w).inactive ∈ T.rows := by
      rw [hT, hw]
      exact List.mem_map.2 ⟨_, hv, if_pos rfl⟩
    cases hget : ctx.registry.get? v.service with
    | none =>
      have hnot : w.service ∉ services := by
        rw [← hservices, hwservice, ← Registry.get?_isSome, hget]
        simp
      exact .dropped hwid hwactive hthere hnot
    | some found =>
      have hin : w.service ∈ services := by
        rw [← hservices, hwservice, ← Registry.get?_isSome, hget]
        rfl
      have hlife : Life services { s with subscriptions := T } id
          [⟨.after, service, w⟩, ⟨.removed, w.service, w.floorDates.inactive⟩] :=
        .removed hwid hwactive hthere hin
      rw [hwservice, SubscriptionRow.floorDates_eq hw, ← (Registry.get?_mem hget).2] at hlife
      simpa [ServiceCall.notes, hid, Subscription.inactive, Subscription.floorDates] using hlife
  · have hsame : Life services { s with subscriptions := T } id told := by
      refine h.of_rows fun row hrow => ?_
      have hother : row.id ≠ .text v.id := by
        rw [hrow]
        exact fun he => hid (Cell.text.inj he).symm
      show row ∈ T.rows ↔ row ∈ s.subscriptions.rows
      rw [hT]
      exact SubscriptionRow.mem_map_inactive hother
    have hnone : ((ctx.registry.get? v.service).toList.map fun service =>
        (⟨.removed, service.id, v.floorDates.inactive⟩ : ServiceCall)).filter (·.notes id)
          = [] := by
      cases ctx.registry.get? v.service with
      | none => rfl
      | some found => simp [ServiceCall.notes, Subscription.inactive, Subscription.floorDates, hid]
    rw [hnone, List.append_nil]
    exact hsame

/-- **One request keeps what has been told in step with what is stored.** -/
theorem Life.step (hs : Written s) (h : Life services s id told) {ctx : Context}
    (hservices : ctx.registry.ids = services) (r : Request) :
    Life services (respond ctx s r).store id
      (told ++ (respond ctx s r).calls.filter (·.notes id)) := by
  rcases respond_change ctx hs r with ⟨hsame, hcalls⟩ | ⟨d, -, hchange⟩
  · rw [hsame, hcalls]
    simpa using h
  · generalize d.operation = op at hchange
    generalize respond ctx s r = reply at hchange ⊢
    cases hchange with
    | none hsame hcalls =>
      have hnone : reply.calls.filter (·.notes id) = [] := by
        refine List.filter_eq_nil_iff.2 fun c hc => ?_
        rcases hcalls c hc with hpart | hpart <;> simp [ServiceCall.notes, hpart]
      rw [hnone, List.append_nil]
      exact h.of_rows fun row _ => by rw [hsame]
    | @added body p v T response _ _ _ hT =>
      -- what the service was asked before does not count
      simpa [ServiceCall.notes] using h.added hs hT p.service.id
    | @ended v T response there _ hv hactive hT => exact h.ended hs hservices hv hactive hT

theorem Life.history (hs : Written s) (h : Life services s id told) (later : History)
    (hservices : ∀ e ∈ later, e.1.registry.ids = services) :
    Life services (later.store s) id (told ++ (later.calls s).filter (·.notes id)) := by
  induction later generalizing s told with
  | nil => simpa [History.calls] using h
  | cons e rest ih =>
    obtain ⟨ctx, r⟩ := e
    have hnext : Written (respond ctx s r).store := (respond_leads ctx s r).keeps written_write hs
    have hstep := h.step hs (hservices _ List.mem_cons_self) r
    have hrest := ih hnext hstep fun e he => hservices e (List.mem_cons_of_mem _ he)
    simpa [History.calls, List.filter_append, List.append_assoc] using hrest

/-- **Services are called by the rules.** In a history from the empty store on, with the same
services registered all the time, each request makes services take part as `Protocol` says. What is
told of an id is at any time what `Life` says. And whoever is told of an id that is ever stored is
told once that it was stored, and at most once, afterwards, that it was given up. -/
theorem services_told (services : List String) (h : History)
    (hservices : ∀ e ∈ h, e.1.registry.ids = services) :
    (∀ earlier ctx r later, h = earlier ++ (ctx, r) :: later →
        Protocol ctx (History.store .empty earlier) r
          (respond ctx (History.store .empty earlier) r)) ∧
      (∀ id, Life services (h.store .empty) id (h.notes id)) ∧
        ∀ earlier later id, h = earlier ++ later →
          (History.store .empty earlier).subscriptions.hasKey [.text id] = true →
            (h.notes id).map ServiceCall.part ∈ [[Part.after], [Part.after, Part.removed]] := by
  have hlife : ∀ id, Life services (h.store .empty) id (h.notes id) := by
    intro id
    have hnothing : Life services Store.empty id [] := .unknown rfl
    exact hnothing.history written_empty h hservices
  refine ⟨fun earlier ctx r later _ => ?_, hlife, fun earlier later id hsplit hthere => ?_⟩
  · exact respond_protocol ctx (History.written written_empty earlier) r
  · -- the row of the id is still there at the end
    obtain ⟨row, hrow, hkey⟩ := Table.hasKey_iff.1 hthere
    obtain ⟨row', hrow', hages⟩ :=
      history_ages (History.written written_empty earlier) later hrow
    rw [← History.store_append, ← hsplit] at hrow'
    have hid : row'.id = row.id := by
      rcases hages with rfl | ⟨-, rfl⟩
      · rfl
      · rfl
    have hlast : (h.store .empty).subscriptions.hasKey [.text id] = true :=
      Table.hasKey_iff.2 ⟨row', hrow', by
        rw [SubscriptionRow.key_eq_iff, hid]
        exact SubscriptionRow.key_eq_iff.1 hkey⟩
    have hcases := hlife id
    generalize h.notes id = told at hcases ⊢
    cases hcases with
    | unknown hfree =>
      rw [hfree] at hlast
      exact absurd hlast (by simp)
    | stored | dropped => exact List.mem_cons_self
    | removed => exact List.mem_cons_of_mem _ List.mem_cons_self

/-- An administrator asks for something. -/
def administering (method path body : String) : Request where
  method := method
  path := path
  query := none
  headers := [("x-user-id", Bytes.ofText "root"), ("x-user-roles", Bytes.ofText "system/admin"),
    ("content-type", Bytes.ofText "application/json")]
  body := Bytes.ofText body

/-- An account is opened and subscribed to mail. -/
def subscribedToMail : History :=
  [("/api/account", "\x7b\"name\":\"Acme\"\x7d"),
    ("/api/account/plans", "\x7b\"id\":\"basic\",\"serviceId\":\"mail\"\x7d"),
    ("/api/account/subscriptions",
      "\x7b\"accountId\":\"account\",\"planId\":\"basic\",\"usePaymentSystem\":false\x7d")].map
    fun (path, body) => (mailOnly, administering "POST" path body)

/-- The subscription to mail is given up. -/
def gaveUpMail : History :=
  [(mailOnly, administering "DELETE" "/api/account/subscriptions/subscription" "")]

theorem mailOnly_always : ∀ e ∈ subscribedToMail ++ gaveUpMail, e.1 = mailOnly := by
  intro e he
  rcases List.mem_append.1 he with he | he
  · obtain ⟨_, -, rfl⟩ := List.mem_map.1 he
    rfl
  · rw [List.mem_singleton.1 he]

/-- Mail is told twice about the one subscription that there was. -/
theorem services_told_gaveUpMail :
    Life ["mail"] (History.store .empty (subscribedToMail ++ gaveUpMail)) "subscription"
        (History.notes (subscribedToMail ++ gaveUpMail) "subscription") ∧
      (History.notes (subscribedToMail ++ gaveUpMail) "subscription").map ServiceCall.part
        = [.after, .removed] := by
  have hservices : ∀ e ∈ subscribedToMail ++ gaveUpMail, e.1.registry.ids = ["mail"] := by
    intro e he
    rw [mailOnly_always e he]
    rfl
  have hstored : (History.store .empty subscribedToMail).subscriptions.hasKey
      [.text "subscription"] = true := by decide +kernel
  obtain ⟨-, hlife, hparts⟩ := services_told ["mail"] (subscribedToMail ++ gaveUpMail) hservices
  refine ⟨hlife "subscription", ?_⟩
  -- there are two calls, so the second is that of the removal
  have hlength : (History.notes (subscribedToMail ++ gaveUpMail) "subscription").length = 2 := by
    decide +kernel
  have hcases := hparts subscribedToMail gaveUpMail "subscription" rfl hstored
  rcases List.mem_cons.1 hcases with hone | htwo
  · have hlen := congrArg List.length hone
    rw [List.length_map, hlength] at hlen
    exact absurd hlen (by decide)
  · exact List.mem_singleton.1 htwo

end Http

end CloudIde
