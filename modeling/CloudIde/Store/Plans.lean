import CloudIde.Store.Basic

/-!
# Stored plans

A plan is stored once and never changed. Plans are listed in the order of their ids.
-/

namespace CloudIde.Store

/-- The columns of `plans`. -/
def planColumns : List String :=
  ["id", "service_id", "description", "paid", "sales_only", "trial_duration", "properties",
    "billing_cycle", "billing_cycle_type", "billing_contract_term"]

/-- Stores a new plan. -/
def createPlan (s : Store) (p : Plan) : Except Failure Store := do
  s.plans.filling planColumns
  match s.plans.insert? (.ofPlan p) with
  | some plans => .ok { s with plans }
  | none => .error (.planExists p.id)

/-- The plan with an id. -/
def plan (s : Store) (id : String) : Except Failure Plan := do
  s.plans.naming planColumns
  match s.plans.find? [.text id] with
  | some row => readOne PlanRow.read row
  | none => .error (.planNotFound id)

/-- All plans. -/
def allPlans (s : Store) : Except Failure (List Plan) := do
  s.plans.naming planColumns
  readAll PlanRow.read (s.plans.select (fun _ => true) fun row => [row.id])

end CloudIde.Store
