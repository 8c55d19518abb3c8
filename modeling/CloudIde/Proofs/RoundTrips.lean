import CloudIde.Account
import CloudIde.Command.Descriptor
import CloudIde.Machine.Descriptor
import CloudIde.Plan
import CloudIde.Proofs.JsonFaithful
import CloudIde.Subscription.Usage

/-!
# What is sent is what was meant

A value that is written as JSON is read back as the same value, by whoever knows its type. So
nothing is lost when a value is passed on as a text, and a text that was accepted in whatever form
(fields in another order, unknown fields, escapes, blanks) has one form in which it is written from
then on.
-/

namespace CloudIde

namespace Wire

/-- Reading undoes writing, and what was read from any text is written in one way. -/
structure RoundTrips (α : Type) [Wire α] : Prop where
  reads (a : α) : parseText α (toJson a).render = .ok a
  settles {text : String} {a : α} (h : parseText α text = .ok a) :
    ∃ b, parseText α (toJson a).render = .ok b ∧ (toJson b).render = (toJson a).render

theorem roundTrips_of_faithful {α : Type} [Wire α] (h : (shape α).faithful = true) :
    RoundTrips α where
  reads a := parseText_toJson ((shape α).sound_of_faithful h) a
  settles {_ a} _ := ⟨a, parseText_toJson ((shape α).sound_of_faithful h) a, rfl⟩

end Wire

open Wire

/-- **Decoding undoes encoding** for what is sent and stored as JSON. None of these types holds a
floating-point number. -/
theorem round_trips :
    RoundTrips Account ∧ RoundTrips Member ∧ RoundTrips Plan ∧ RoundTrips WorkspaceMember ∧
      RoundTrips Command ∧ RoundTrips NewCommand ∧ RoundTrips CommandUpdate ∧
      RoundTrips CommandDescriptor ∧ RoundTrips Link ∧ RoundTrips NewSubscription ∧
      RoundTrips SubscriptionDescriptor ∧ RoundTrips SubscriptionReference ∧
      RoundTrips MachineDescriptor ∧ RoundTrips ProcessDescriptor := by
  refine ⟨?_, ?_, ?_, ?_, ?_, ?_, ?_, ?_, ?_, ?_, ?_, ?_, ?_, ?_⟩
  all_goals exact roundTrips_of_faithful (by decide)

end CloudIde
