import CloudIde.Subscription.Descriptor

/-!
# Resources used under subscriptions

A subscribed service reports what the workspaces of an account use.
-/

namespace CloudIde

/-- What one workspace uses. -/
structure WorkspaceResources where
  workspace : String
  memory : Float
  deriving DecidableEq

instance : Wire WorkspaceResources where
  shape := .record "WorkspaceResources"
    (.cons "workspaceId" .required (.leaf .text)
    (.cons "memory" .required (.leaf .double) .nil))
  toVal r := (r.workspace, r.memory, ())
  ofVal := fun (workspace, memory, ()) => ⟨workspace, memory⟩

/-- What all workspaces of an account use. -/
structure UsedAccountResources where
  used : List WorkspaceResources
  deriving DecidableEq

instance : Wire UsedAccountResources where
  shape := .record "UsedAccountResources"
    (.cons "used" .required (.list (Wire.shape WorkspaceResources)) .nil)
  toVal r := (Wire.toVal r.used, ())
  ofVal := fun (used, ()) => ⟨Wire.ofVal used⟩
  ofVal_toVal r := by cases r; simp [Wire.ofVal_toVal]

/-- What is used under one subscription. -/
structure SubscriptionUsage where
  used : List WorkspaceResources
  reference : SubscriptionReference
  deriving DecidableEq

instance : Wire SubscriptionUsage where
  shape := .record "SubscriptionResourcesUsed"
    (.cons "used" .required (.list (Wire.shape WorkspaceResources))
    (.cons "subscriptionReference" .required (Wire.shape SubscriptionReference) .nil))
  toVal u := (Wire.toVal u.used, Wire.toVal u.reference, ())
  ofVal := fun (used, reference, ()) => ⟨Wire.ofVal used, Wire.ofVal reference⟩
  ofVal_toVal u := by cases u; simp [Wire.ofVal_toVal]

/-- A request for a subscription. -/
structure NewSubscription where
  account : Option String
  plan : Option String
  usePaymentSystem : Option Bool
  /-- The days of the trial. -/
  trialDuration : Option Int32
  /-- Properties with other values than the plan gives them. -/
  properties : Properties
  deriving DecidableEq

instance : Wire NewSubscription where
  shape := .record "NewSubscription"
    (.cons "accountId" .required (.nullable (.leaf .text))
    (.cons "planId" .required (.nullable (.leaf .text))
    (.cons "usePaymentSystem" .required (.nullable (.leaf .flag))
    (.cons "trialDuration" .required (.nullable (.leaf .int32))
    (.cons "properties" .defaulted .dict .nil)))))
  toVal r := (r.account, r.plan, r.usePaymentSystem, r.trialDuration, r.properties, ())
  ofVal := fun (account, plan, usePaymentSystem, trialDuration, properties, ()) =>
    ⟨account, plan, usePaymentSystem, trialDuration, properties⟩

end CloudIde
