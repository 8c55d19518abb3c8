import CloudIde.Proofs.Frame
import CloudIde.Proofs.Run
import CloudIde.Proofs.Subscribing
import CloudIde.Proofs.WrittenReads

/-!
# What requests do to subscriptions

Of all that can be asked for, two things write subscriptions. Whoever subscribes adds a row, whoever
unsubscribes makes a row inactive, and `Change` has no other cases. An inactive row is written as a
whole, from what was read of the active one; `Written.replace_inactive` says that nothing but its
state comes out different.
-/

namespace CloudIde

/-- The subscription when it has been given up. -/
def Subscription.inactive (v : Subscription) : Subscription := { v with state := .inactive }

/-- The row of a subscription when it has been given up. -/
def SubscriptionRow.inactive (row : SubscriptionRow) : SubscriptionRow :=
  { row with state := .text SubscriptionState.inactive.text }

namespace SubscriptionRow

@[simp] theorem isActive_inactive (row : SubscriptionRow) : row.inactive.isActive = false := rfl

/-- The row of an active subscription is not one that has been given up. -/
theorem ne_inactive {v : Subscription} (h : v.isActive = true) (row : SubscriptionRow) :
    ofSubscription v ≠ row.inactive := by
  intro hsame
  have hactive := isActive_ofSubscription v
  rw [hsame, isActive_inactive, h] at hactive
  exact absurd hactive (by simp)

/-- What is given up is written with another state. -/
theorem ofSubscription_inactive (v : Subscription) :
    ofSubscription v.inactive = (ofSubscription v).inactive := rfl

/-- Values that are written as one row are read as one. -/
theorem floorDates_eq {v w : Subscription} (h : ofSubscription v = ofSubscription w) :
    v.floorDates = w.floorDates := by
  have hread := readOne_ofSubscription v
  rw [h, readOne_ofSubscription w] at hread
  exact (Except.ok.inj hread).symm

/-- The rows of other ids stay what they are. -/
theorem mem_map_inactive {rows : List SubscriptionRow} {row : SubscriptionRow} {id : String}
    (hid : row.id ≠ .text id) :
    row ∈ rows.map (fun row => if row.id = .text id then row.inactive else row) ↔ row ∈ rows := by
  refine ⟨fun h => ?_, fun h => List.mem_map.2 ⟨row, h, if_neg hid⟩⟩
  obtain ⟨other, hother, hbecomes⟩ := List.mem_map.1 h
  split at hbecomes
  · next hthat =>
    rw [← hbecomes] at hid
    exact absurd hthat hid
  · exact hbecomes ▸ hother

end SubscriptionRow

namespace Store

variable {s : Store}

/-- Writing a subscription that was read back as inactive changes the state of its row and nothing
else. -/
theorem Written.replace_inactive (hs : Written s) {id : String} {v : Subscription}
    (hv : s.subscription id = .ok v) :
    (s.subscriptions.replace (.ofSubscription v.inactive)).rows
        = s.subscriptions.rows.map (fun row => if row.id = .text id then row.inactive else row)
      ∧ v.id = id ∧ ∃ w, .ofSubscription w ∈ s.subscriptions.rows ∧ v = w.floorDates := by
  obtain ⟨row, hrow, hid, hread⟩ := subscription_ok hv
  obtain ⟨w, rfl, -⟩ := hs.subscription row hrow
  rw [SubscriptionRow.readOne_ofSubscription] at hread
  cases hread
  have hwid : w.id = id := Cell.text.inj hid
  refine ⟨?_, hwid, w, hrow, rfl⟩
  rw [Table.replace_rows]
  refine List.map_congr_left fun r hr => ?_
  have hkey : Row.key r = Row.key (SubscriptionRow.ofSubscription w.floorDates.inactive)
      ↔ r.id = .text id := by
    rw [← hwid]
    exact SubscriptionRow.key_eq_iff
  by_cases hrid : r.id = .text id
  · -- the row is the one that was read, and its dates are whole seconds already
    rw [if_pos (hkey.2 hrid), if_pos hrid]
    have hsame : r = .ofSubscription w :=
      Table.eq_of_key hs.made.subscriptions hr hrow (by simp [Row.key, hrid, hid])
    rw [hsame]
    exact SubscriptionRow.ofSubscription_floorDates w.inactive
  · rw [if_neg (mt hkey.1 hrid), if_neg hrid]

/-- There is one row of an id. -/
theorem Written.row_eq (hs : Written s) {row row' : SubscriptionRow}
    (hrow : row ∈ s.subscriptions.rows) (hrow' : row' ∈ s.subscriptions.rows)
    (hid : row.id = row'.id) : row = row' :=
  Table.eq_of_key hs.made.subscriptions hrow hrow' (by simp [Row.key, hid])

end Store

namespace Http

open Store Platform

/-- What an operation does to the subscriptions of a store, with the calls of services on the
way. -/
inductive Change (ctx : Context) (s : Store) (caller : Caller) : Operation → Reply → Prop
  /-- Nothing. Services may have been asked for what is used, or one of them has been asked before
  a subscription was to be added that was refused. -/
  | none {op : Operation} {reply : Reply} (hsame : reply.store.subscriptions = s.subscriptions)
      (hcalls : ∀ c ∈ reply.calls, c.part = .before ∨ c.part = .usage) :
      Change ctx s caller op reply
  | added {body : Bytes} {p : Proposal} {v : Subscription} {T : Table SubscriptionRow}
      {response : Response} (hp : propose ctx s caller body = .ok p)
      (hv : p.service.before p.subscription = .ok v) (haccount : s.hasAccount v.account = true)
      (hT : s.subscriptions.Inserted (.ofSubscription v) T) :
      Change ctx s caller (.subscribe body) ⟨response, { s with subscriptions := T },
        [⟨.before, p.service.id, p.subscription⟩, ⟨.after, p.service.id, v⟩]⟩
  /-- The service is told, if it is still registered. -/
  | ended {v : Subscription} {T : Table SubscriptionRow} {response : Response}
      {there : RoleSet} (hmay : rolesFor s caller v.account [Role.accountOwner] = .ok there)
      (hv : .ofSubscription v ∈ s.subscriptions.rows) (hactive : v.isActive = true)
      (hT : T.rows = s.subscriptions.rows.map fun row =>
        if row.id = .text v.id then row.inactive else row) :
      Change ctx s caller (.unsubscribe v.id) ⟨response, { s with subscriptions := T },
        (ctx.registry.get? v.service).toList.map fun service =>
          ⟨.removed, service.id, v.floorDates.inactive⟩⟩

variable {ctx : Context} {s : Store} {caller : Caller}

theorem unsubscribed_change (hs : Written s) {id : String} {v : Subscription} {t : Store}
    {response : Response} {calls : List ServiceCall} (hv : removable s caller id = .ok v)
    (ht : s.updateSubscription v.inactive = .ok t)
    (hcalls : calls = (ctx.registry.get? v.service).toList.map fun service =>
      ⟨.removed, service.id, v.inactive⟩) :
    Change ctx s caller (.unsubscribe id) ⟨response, t, calls⟩ := by
  obtain ⟨-, hfound, ⟨there, hthere⟩, hactive⟩ := removable_ok hv
  obtain ⟨hrows, hid, w, hw, rfl⟩ := hs.replace_inactive hfound
  obtain rfl := (updateSubscription_ok ht).only
  subst hid hcalls
  exact .ended (v := w) hthere hw hactive hrows

/-- **No operation does anything else to subscriptions.** -/
theorem Effect.change (hs : Written s) {op : Operation} {reply : Reply}
    (h : Effect ctx s caller op reply) : Change ctx s caller op reply := by
  have hframe := h.frame
  cases h with
  | looked _ hcalls => exact .none rfl fun c hc => Or.inr (hcalls c hc)
  | refused hcalls => exact .none rfl fun c hc => Or.inl (hcalls c hc)
  | subscribed hp hv ht =>
    obtain ⟨haccount, -, T, hT, rfl⟩ := insertSubscription_ok (addSubscription_ok ht)
    exact .added hp hv (haccount hs.made.subscriptions) hT
  | unsubscribed hv ht hservice => exact unsubscribed_change hs hv ht (by rw [hservice]; rfl)
  | unsubscribedQuietly hv ht hservice => exact unsubscribed_change hs hv ht (by rw [hservice]; rfl)
  | _ =>
    refine .none (hframe.subscriptions.resolve_left (by simp [Operation.writes])) fun c hc => ?_
    exact absurd hc List.not_mem_nil

theorem Demand.change (hs : Written s) (d : Demand) :
    Change ctx s d.caller d.operation (d.reply ctx s) := by
  have hchange : Change ctx s d.caller d.operation (d.operation.perform ctx s d.caller) :=
    (perform_effect d.operation).change hs
  unfold Demand.reply
  split
  · -- the content of the response is nothing to subscriptions
    generalize d.operation.perform ctx s d.caller = reply at hchange ⊢
    generalize d.operation = op at hchange ⊢
    cases hchange with
    | none hsame hcalls => exact .none hsame hcalls
    | added hp hv haccount hT => exact .added hp hv haccount hT
    | ended hmay hv hactive hT => exact .ended hmay hv hactive hT
  · exact hchange

/-- A request does nothing to subscriptions, or what it asks for does. -/
theorem respond_change (ctx : Context) (hs : Written s) (r : Request) :
    ((respond ctx s r).store = s ∧ (respond ctx s r).calls = []) ∨
      ∃ d, r.demand = .ok d ∧ Change ctx s d.caller d.operation (respond ctx s r) := by
  cases hd : r.demand with
  | error response =>
    rw [respond_of_no_demand hd]
    exact Or.inl ⟨rfl, rfl⟩
  | ok d =>
    rw [respond_of_demand hd]
    exact Or.inr ⟨d, rfl, d.change hs⟩

end Http

end CloudIde
