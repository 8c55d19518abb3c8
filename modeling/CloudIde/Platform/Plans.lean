import CloudIde.Platform.Outcome

/-!
# The catalogue of plans

Anybody known to the platform sees the plans; administrators of the platform add them. A plan offers
a registered service, and its trial ends at an instant when it starts now.
-/

namespace CloudIde.Platform

/-- Lists the plans. -/
def plans (s : Store) (caller : Caller) : Except Failure (List Plan) := do
  caller.require Role.platform
  s.allPlans

/-- Shows a plan. -/
def plan (s : Store) (caller : Caller) (id : String) : Except Failure Plan := do
  caller.require Role.platform
  s.plan id

/-- Adds a plan. -/
def createPlan (ctx : Context) (s : Store) (caller : Caller) (p : Plan) : Outcome Plan :=
  .writing s do
    caller.require [Role.systemAdmin]
    if p.id.isEmpty then .error (.partRequired "Plan identifier")
    else
      let _ ← ctx.registry.known p.service
      if p.trialDuration < 0 || (Subscription.trialEnd? ctx.now p.trialDuration).isNone then
        .error .trialOutOfRange
      else .ok (← s.createPlan p, p)

end CloudIde.Platform
