import CloudIde.Store.Accounts

/-!
# Stored subscriptions

An account has at most one active subscription to a service. A unique index over the active rows
keeps this: `insertSubscription` and `updateSubscription`, the two statements that write rows,
refuse to give an account a service that another active row gives it. `addSubscription` looks before
it inserts, which may be too early when others write in between; the index decides.

The active subscriptions of an account come in the order of their services and then their ids.
-/

namespace CloudIde.Store

/-- The columns of `subscriptions`, as they are read. -/
def subscriptionColumns : List String :=
  ["id", "account_id", "service_id", "plan_id", "properties", "state", "description",
    "use_payment_system", "start_date", "end_date", "trial_start_date", "trial_end_date",
    "billing_start_date", "billing_end_date", "next_billing_date", "billing_cycle",
    "billing_cycle_type", "billing_contract_term"]

/-- The columns of `subscriptions`, as they are written: the id stands last. -/
def writtenSubscriptionColumns : List String := subscriptionColumns.tail ++ ["id"]

/-- Inserts a row. Its id has to be new, its account has to exist, and no other active row may give
the account the service when it is active. -/
def insertSubscription (s : Store) (v : Subscription) : Except Failure Store := do
  s.subscriptions.filling writtenSubscriptionColumns
  s.relating s.subscriptions
  let row := SubscriptionRow.ofSubscription v
  match s.subscriptions.insert? row with
  | none => .error (.alreadySubscribed v.account v.service)
  | some subscriptions =>
    if s.subscriptions.rows.any row.clashesWith then
      .error (.alreadySubscribed v.account v.service)
    else
      s.referring s.subscriptions row.account
      .ok { s with subscriptions }

/-- The first active subscription of an account to a service, if there is one. -/
def activeSubscription (s : Store) (account service : String) :
    Except Failure (Option Subscription) := do
  s.subscriptions.naming subscriptionColumns
  match s.subscriptions.rows.find? fun row => row.gives account service with
  | some row => (readOne SubscriptionRow.read row).map some
  | none => .ok none

/-- Stores a new subscription. -/
def addSubscription (s : Store) (v : Subscription) : Except Failure Store := do
  s.accounts.naming ["id"]
  if s.accounts.hasKey [.text v.account] then
    if v.isActive then
      match ← s.activeSubscription v.account v.service with
      | some _ => .error (.alreadySubscribed v.account v.service)
      | none => s.insertSubscription v
    else s.insertSubscription v
  else .error (.accountNotFound v.account)

/-- The subscription with an id. -/
def subscription (s : Store) (id : String) : Except Failure Subscription := do
  s.subscriptions.naming subscriptionColumns
  match s.subscriptions.find? [.text id] with
  | some row => readOne SubscriptionRow.read row
  | none => .error (.subscriptionNotFound id)

/-- The active subscriptions of an account. -/
def activeSubscriptions (s : Store) (account : String) : Except Failure (List Subscription) := do
  s.subscriptions.naming subscriptionColumns
  readAll SubscriptionRow.read
    (s.subscriptions.select (fun row => row.account = .text account && row.isActive) fun row =>
      [row.service, row.id])

/-- Whether a row that is written over every row with its key would clash with another row, or with
itself where there are several of these. -/
def clashesElsewhere (s : Store) (row : SubscriptionRow) : Bool :=
  (s.subscriptions.rows.any fun other => other.id ≠ row.id && row.clashesWith other)
    || (1 < s.subscriptions.count (Row.key row) && row.clashesWith row)

/-- Writes a subscription over the row with its id. The account has to exist, and no other active
row may give the account the service when it is active. -/
def updateSubscription (s : Store) (v : Subscription) : Except Failure Store := do
  s.subscriptions.naming writtenSubscriptionColumns
  s.relating s.subscriptions
  let row := SubscriptionRow.ofSubscription v
  if s.subscriptions.hasKey (Row.key row) then
    if s.clashesElsewhere row then .error (.alreadySubscribed v.account v.service)
    else
      s.referring s.subscriptions row.account
      .ok { s with subscriptions := s.subscriptions.replace row }
  else .error (.subscriptionNotFound v.id)

/-- Takes a subscription away. -/
def removeSubscription (s : Store) (id : String) : Except Failure Store := do
  s.subscriptions.naming ["id"]
  s.relating s.subscriptions
  if s.subscriptions.hasKey [.text id] then
    .ok { s with subscriptions := s.subscriptions.erase [.text id] }
  else .error (.subscriptionNotFound id)

end CloudIde.Store
