import CloudIde.Json.Wire

/-!
# Billing plans

A plan offers a service on certain terms. Subscriptions take their terms from a plan.
-/

namespace CloudIde

/-- How a subscription goes on after a billing cycle. -/
inductive BillingCycleType where
  | autoRenew
  | renewOnce
  | noRenewal
  deriving DecidableEq, Repr

namespace BillingCycleType

/-- The name under which it is stored. -/
def text : BillingCycleType → String
  | autoRenew => "AutoRenew"
  | renewOnce => "RenewOnce"
  | noRenewal => "NoRenewal"

/-- The type that a stored name means: an unknown name means automatic renewal. -/
def ofText (text : String) : BillingCycleType :=
  if text = "RenewOnce" then renewOnce
  else if text = "NoRenewal" then noRenewal
  else autoRenew

end BillingCycleType

instance : Wire BillingCycleType where
  shape := .leaf (.choice "AutoRenew" ["RenewOnce", "NoRenewal"])
  toVal
    | .autoRenew => (Json.Place.first : Fin 3)
    | .renewOnce => (Json.Place.second : Fin 3)
    | .noRenewal => (Json.Place.third : Fin 3)
  ofVal := fun (place : Fin 3) => match place with
    | 0 => .autoRenew
    | 1 => .renewOnce
    | 2 => .noRenewal
  ofVal_toVal a := by cases a <;> rfl

/-- Names of properties with their values. -/
abbrev Properties := Dict

/-- A billing plan. -/
structure Plan where
  id : String
  /-- The service that the plan offers. -/
  service : String
  description : String
  /-- Whether subscriptions are charged. -/
  paid : Bool
  /-- Whether only privileged callers may subscribe. -/
  salesOnly : Bool
  /-- The days of a trial. -/
  trialDuration : Int32
  properties : Properties
  billingCycle : Int32
  billingCycleType : BillingCycleType
  billingContractTerm : Int32
  deriving DecidableEq

instance : Wire Plan where
  shape := .record "Plan"
    (.cons "id" .required (.leaf .text)
    (.cons "serviceId" .required (.leaf .text)
    (.cons "description" .defaulted (.leaf .text)
    (.cons "paid" .defaulted (.leaf .flag)
    (.cons "salesOnly" .defaulted (.leaf .flag)
    (.cons "trialDuration" .defaulted (.leaf .int32)
    (.cons "properties" .defaulted .dict
    (.cons "billingCycle" .defaulted (.leaf .int32)
    (.cons "billingCycleType" .defaulted (Wire.shape BillingCycleType)
    (.cons "billingContractTerm" .defaulted (.leaf .int32) .nil))))))))))
  toVal p := (p.id, p.service, p.description, p.paid, p.salesOnly, p.trialDuration, p.properties,
    p.billingCycle, Wire.toVal p.billingCycleType, p.billingContractTerm, ())
  ofVal := fun (id, service, description, paid, salesOnly, trialDuration, properties,
      billingCycle, billingCycleType, billingContractTerm, ()) =>
    ⟨id, service, description, paid, salesOnly, trialDuration, properties, billingCycle,
      Wire.ofVal billingCycleType, billingContractTerm⟩
  ofVal_toVal p := by cases p; simp [Wire.ofVal_toVal]

end CloudIde
