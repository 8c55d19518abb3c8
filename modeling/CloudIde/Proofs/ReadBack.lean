import CloudIde.Proofs.JsonRoundTrip
import CloudIde.Proofs.Reading
import CloudIde.Store.Commands
import CloudIde.Store.Plans

/-!
# What was written is read

A row that a value was written as is read as that value. Subscriptions lose what their dates have
beyond the second, once: a subscription that was read is written as the row it was read from.
-/

namespace CloudIde

namespace Instant

theorem ofSeconds?_seconds (t : Instant) : ofSeconds? t.seconds = some t.floorSecond := by
  have hparts : areAfter 0 t.seconds ∧ firstSecond ≤ t.seconds ∧ t.seconds ≤ lastSecond :=
    ⟨rfl, t.first_le, t.le_last⟩
  rw [ofSeconds?, ofParts?, dif_pos hparts]
  rfl

end Instant

theorem SubscriptionState.ofText_text (state : SubscriptionState) : ofText state.text = state := by
  cases state <;> rfl

theorem Visibility.ofText_text (visibility : Visibility) : ofText visibility.text = visibility := by
  cases visibility <;> rfl

theorem BillingCycleType.ofText_text (type : BillingCycleType) : ofText type.text = type := by
  cases type <;> rfl

/-- The subscription with its dates at the beginning of their seconds. -/
def Subscription.floorDates (v : Subscription) : Subscription :=
  { v with dates := v.dates.map fun date => date.map Instant.floorSecond }

theorem MemberRow.readOne_ofMember (m : Member) : readOne read (ofMember m) = .ok m := by
  have hread : read (ofMember m)
      = .ok ⟨writeColumn m.roles, fun roles => ⟨m.account, m.user, roles⟩⟩ := rfl
  refine readOne_ok.2 ⟨_, hread, ?_⟩
  rw [Unread.value, readColumn_roles]
  rfl

/-- The roles of a user with one membership are those of the membership. -/
theorem Store.accountRoles_single {s : Store} {m : Member} (hs : s.members.layout = .made)
    (h : s.members.rows.filter (fun row => row.user = .text m.user) = [.ofMember m]) :
    s.accountRoles m.account m.user = .ok (RoleSet.ofList m.roles) := by
  have hread : readAll MemberRow.read [.ofMember m] = .ok [m] := by
    have hone := MemberRow.readOne_ofMember m
    unfold readOne at hone
    unfold readAll
    obtain ⟨unread, hcells, hvalue⟩ := bind_eq_ok.1 hone
    simp only [List.mapM_cons, List.mapM_nil]
    rw [mapError_eq_ok.1 hcells]
    simp [hvalue, pure, Except.pure]
  unfold Store.accountRoles Store.memberships Table.select
  rw [Table.naming_made hs, h, List.mergeSort_singleton]
  simp [hread]

theorem CommandRow.command_ofCommand (c : Command) : (ofCommand c).command = .ok c := by
  have htype := Cell.optionalText_ofOptionalText (.named "command_type") c.type
  have hdir := Cell.optionalText_ofOptionalText (.named "working_dir") c.workingDir
  simp [command, ofCommand, Cell.readText_text, htype, hdir, Visibility.ofText_text]

theorem PlanRow.readOne_ofPlan (p : Plan) : readOne read (ofPlan p) = .ok p := by
  refine readOne_ok.2 ⟨⟨writeColumn p.properties, fun properties => { p with properties }⟩, ?_, ?_⟩
  · simp [read, ofPlan, Cell.readText_text, Cell.readFlag_ofFlag, Cell.readInt32_ofInt32,
      BillingCycleType.ofText_text]
  · rw [Unread.value, readColumn_properties]
    rfl

namespace SubscriptionRow

/-- **A subscription is read with its dates floored.** -/
theorem readOne_ofSubscription (v : Subscription) :
    readOne read (ofSubscription v) = .ok v.floorDates := by
  have hdate (date : Option Instant) :
      (date.map Instant.seconds).bind Instant.ofSeconds? = date.map Instant.floorSecond := by
    cases date with
    | none => rfl
    | some t => exact t.ofSeconds?_seconds
  refine readOne_ok.2 ⟨⟨writeColumn v.properties, fun properties =>
    { v.floorDates with properties }⟩, ?_, ?_⟩
  · simp [read, ofSubscription, Cell.readText_text, Cell.readFlag_ofFlag, Cell.readInt32_ofInt32,
      SubscriptionDates.tryMap, SubscriptionDates.zip, SubscriptionDates.map,
      Cell.optionalInteger_ofOptionalInteger, SubscriptionState.ofText_text,
      BillingCycleType.ofText_text, Subscription.floorDates, hdate]
  · rw [Unread.value, readColumn_properties]
    rfl

/-- Nothing more is lost when it is written again. -/
theorem ofSubscription_floorDates (v : Subscription) :
    ofSubscription v.floorDates = ofSubscription v := by
  have hdate (date : Option Instant) :
      (date.map Instant.floorSecond).map Instant.seconds = date.map Instant.seconds := by
    cases date <;> rfl
  simp [ofSubscription, Subscription.floorDates, SubscriptionDates.map, hdate]

end SubscriptionRow

end CloudIde
