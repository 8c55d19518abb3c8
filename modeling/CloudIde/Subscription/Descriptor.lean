import CloudIde.Caller
import CloudIde.Link
import CloudIde.Subscription.Basic

/-!
# What callers see of subscriptions

A descriptor shows a subscription to one caller:

* **internal** properties, whose names begin with `codenvy:`, are shown to privileged callers only;
* dates are days of the calendar;
* a link for reading is there unless the plan is the community plan, and a link for removing when
  moreover the subscription is active and the caller owns the account or is privileged.

A reference names a subscription and says what it is for.
-/

namespace CloudIde

/-- A subscription as it is shown to a caller. -/
structure SubscriptionDescriptor where
  id : String
  account : String
  service : String
  plan : String
  properties : Properties
  state : SubscriptionState
  description : String
  usePaymentSystem : Bool
  dates : SubscriptionDates (Option String)
  billingCycle : Int32
  billingCycleType : BillingCycleType
  billingContractTerm : Int32
  links : List Link
  deriving DecidableEq

instance : Wire SubscriptionDescriptor where
  shape := .record "SubscriptionDescriptor"
    (.cons "id" .required (.leaf .text)
    (.cons "accountId" .required (.leaf .text)
    (.cons "serviceId" .required (.leaf .text)
    (.cons "planId" .required (.leaf .text)
    (.cons "properties" .required .dict
    (.cons "state" .required (Wire.shape SubscriptionState)
    (.cons "description" .required (.leaf .text)
    (.cons "usePaymentSystem" .required (.leaf .flag)
    (.cons "startDate" .required (.nullable (.leaf .text))
    (.cons "endDate" .required (.nullable (.leaf .text))
    (.cons "trialStartDate" .required (.nullable (.leaf .text))
    (.cons "trialEndDate" .required (.nullable (.leaf .text))
    (.cons "billingStartDate" .required (.nullable (.leaf .text))
    (.cons "billingEndDate" .required (.nullable (.leaf .text))
    (.cons "nextBillingDate" .required (.nullable (.leaf .text))
    (.cons "billingCycle" .required (.leaf .int32)
    (.cons "billingCycleType" .required (Wire.shape BillingCycleType)
    (.cons "billingContractTerm" .required (.leaf .int32)
    (.cons "links" .required (.list (Wire.shape Link)) .nil)))))))))))))))))))
  toVal d := (d.id, d.account, d.service, d.plan, d.properties, Wire.toVal d.state, d.description,
    d.usePaymentSystem, d.dates.start, d.dates.stop, d.dates.trialStart, d.dates.trialEnd,
    d.dates.billingStart, d.dates.billingEnd, d.dates.nextBilling, d.billingCycle,
    Wire.toVal d.billingCycleType, d.billingContractTerm, Wire.toVal d.links, ())
  ofVal := fun (id, account, service, plan, properties, state, description, usePaymentSystem,
      start, stop, trialStart, trialEnd, billingStart, billingEnd, nextBilling, billingCycle,
      billingCycleType, billingContractTerm, links, ()) =>
    ⟨id, account, service, plan, properties, Wire.ofVal state, description, usePaymentSystem,
      ⟨start, stop, trialStart, trialEnd, billingStart, billingEnd, nextBilling⟩, billingCycle,
      Wire.ofVal billingCycleType, billingContractTerm, Wire.ofVal links⟩
  ofVal_toVal d := by cases d; simp [Wire.ofVal_toVal]

/-- A subscription as it is named in a report. -/
structure SubscriptionReference where
  subscription : String
  service : String
  description : String
  plan : String
  links : List Link
  deriving DecidableEq

instance : Wire SubscriptionReference where
  shape := .record "SubscriptionReference"
    (.cons "subscriptionId" .required (.leaf .text)
    (.cons "serviceId" .required (.leaf .text)
    (.cons "description" .required (.leaf .text)
    (.cons "planId" .required (.leaf .text)
    (.cons "links" .required (.list (Wire.shape Link)) .nil)))))
  toVal r := (r.subscription, r.service, r.description, r.plan, Wire.toVal r.links, ())
  ofVal := fun (subscription, service, description, plan, links, ()) =>
    ⟨subscription, service, description, plan, Wire.ofVal links⟩
  ofVal_toVal r := by cases r; simp [Wire.ofVal_toVal]

namespace Subscription

/-- The plan whose subscriptions have no links. -/
def communityPlan : String := "sas-community"

/-- What the names of internal properties begin with. -/
def internalPreface : String := "codenvy:"

/-- Whether a property is internal. -/
def isInternal (property : String) : Bool :=
  internalPreface.toList.isPrefixOf property.toList

/-- The URL of a subscription. -/
def href (baseUrl id : String) : String := baseUrl ++ "/account/subscriptions/" ++ id

/-- Whether the caller, who holds the roles `there` in the account, is offered to remove the
subscription. -/
def offersRemoval (s : Subscription) (caller : Caller) (there : RoleSet) : Bool :=
  s.isActive
    && (decide (Role.accountOwner ∈ there) || caller.hasRole Role.accountOwner
      || caller.isPrivileged)

/-- The link for reading a subscription. -/
def getLink (s : Subscription) (baseUrl : String) : Link :=
  Link.get (href baseUrl s.id) "get subscription by id"

/-- The link for removing a subscription. -/
def removeLink (s : Subscription) (baseUrl : String) : Link :=
  Link.delete (href baseUrl s.id) "remove subscription"

/-- The links that a caller is offered. -/
def links (s : Subscription) (baseUrl : String) (caller : Caller) (there : RoleSet) : List Link :=
  if s.plan = communityPlan then []
  else s.getLink baseUrl
    :: (if s.offersRemoval caller there then [s.removeLink baseUrl] else [])

/-- The properties that a caller is shown. -/
def shownProperties (s : Subscription) (caller : Caller) : Properties :=
  s.properties.filter fun property => !isInternal property.1 || caller.isPrivileged

/-- The subscription as it is shown to a caller, who holds the roles `there` in the account. -/
def descriptor (s : Subscription) (baseUrl : String) (caller : Caller) (there : RoleSet) :
    SubscriptionDescriptor where
  id := s.id
  account := s.account
  service := s.service
  plan := s.plan
  properties := s.shownProperties caller
  state := s.state
  description := s.description
  usePaymentSystem := s.usePaymentSystem
  dates := s.dates.map fun date => date.map Instant.dateText
  billingCycle := s.billingCycle
  billingCycleType := s.billingCycleType
  billingContractTerm := s.billingContractTerm
  links := s.links baseUrl caller there

/-- The subscription as it is named in a report. -/
def reference (s : Subscription) (baseUrl : String) : SubscriptionReference where
  subscription := s.id
  service := s.service
  description := s.description
  plan := s.plan
  links := if s.plan = communityPlan then [] else [s.getLink baseUrl]

end Subscription

end CloudIde
