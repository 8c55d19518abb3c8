import CloudIde.Account
import CloudIde.Command.Basic
import CloudIde.Role
import CloudIde.Store.Table
import CloudIde.Subscription.Basic

/-!
# Rows

There are six kinds of rows. A row keeps what it says in cells: lists and dictionaries as JSON
texts, enumerations by their names, truth values as integers, dates as seconds. `ofX` writes a value
of the domain. A row is read in two steps: first its cells (`read`), then the JSON text among them,
if it has one (`Unread.value`); of several rows all cells are read first.

A row that was changed by other hands need not hold a value. Its cells may not be what they are read
as (`DatabaseFault`), its JSON text may be none of the wanted type (`Failure.corruptColumn`); a date
that is no instant reads as no date.
-/

namespace CloudIde

/-- The value of a JSON column. -/
def readColumn (α : Type) [Wire α] (text : String) : Except Failure α :=
  (Wire.parseText α text).mapError .corruptColumn

/-- The text of a JSON column. -/
def writeColumn {α : Type} [Wire α] (value : α) : String := (Wire.toJson value).render

/-- A value that waits for its JSON column to be read. -/
structure Unread (α β : Type) where
  text : String
  /-- The value, given what the column says. -/
  complete : α → β

/-- The value. -/
def Unread.value {α β : Type} [Wire α] (unread : Unread α β) : Except Failure β :=
  (readColumn α unread.text).map unread.complete

/-- Reads rows: first the cells of all, then their JSON columns. -/
def readAll {ρ α β : Type} [Wire α] (read : ρ → Except DatabaseFault (Unread α β)) (rows : List ρ) :
    Except Failure (List β) := do
  let unread ← (rows.mapM read).mapError .database
  unread.mapM Unread.value

/-- Reads a row. -/
def readOne {ρ α β : Type} [Wire α] (read : ρ → Except DatabaseFault (Unread α β)) (row : ρ) :
    Except Failure β := do
  let unread ← (read row).mapError .database
  unread.value

/-! ## Accounts -/

/-- A row of `accounts`. -/
structure AccountRow where
  id : Cell
  name : Cell
  deriving DecidableEq, Repr

instance : Row AccountRow where
  table := "accounts"
  columns := [.text "id", .text "name"]
  keyColumns := ["id"]
  key row := [row.id]
  set row column cell := match column with
    | "id" => { row with id := cell }
    | "name" => { row with name := cell }
    | _ => row

/-- An account as a row. -/
def AccountRow.ofAccount (a : Account) : AccountRow := ⟨.text a.id, .text a.name⟩

/-- The account that a row holds. -/
def AccountRow.account (row : AccountRow) : Except DatabaseFault Account := do
  .ok ⟨← row.id.readText (.numbered 0), ← row.name.readText (.numbered 1)⟩

/-- A row of `account_members`. -/
structure MemberRow where
  account : Cell
  user : Cell
  roles : Cell
  deriving DecidableEq, Repr

instance : Row MemberRow where
  table := "account_members"
  columns := [.text "account_id", .text "user_id", .text "roles"]
  keyColumns := ["account_id", "user_id"]
  key row := [row.account, row.user]
  set row column cell := match column with
    | "account_id" => { row with account := cell }
    | "user_id" => { row with user := cell }
    | "roles" => { row with roles := cell }
    | _ => row

/-- A membership as a row. -/
def MemberRow.ofMember (m : Member) : MemberRow :=
  ⟨.text m.account, .text m.user, .text (writeColumn m.roles)⟩

/-- The cells of a membership. -/
def MemberRow.read (row : MemberRow) : Except DatabaseFault (Unread (List String) Member) := do
  let account ← row.account.readText (.named "account_id")
  let user ← row.user.readText (.named "user_id")
  .ok ⟨← row.roles.readText (.named "roles"), fun roles => ⟨account, user, roles⟩⟩

/-! ## Plans -/

/-- A row of `plans`. -/
structure PlanRow where
  id : Cell
  service : Cell
  description : Cell
  paid : Cell
  salesOnly : Cell
  trialDuration : Cell
  properties : Cell
  billingCycle : Cell
  billingCycleType : Cell
  billingContractTerm : Cell
  deriving DecidableEq, Repr

instance : Row PlanRow where
  table := "plans"
  columns := [.text "id", .text "service_id", .text "description", .integer "paid",
    .integer "sales_only", .integer "trial_duration", .text "properties", .integer "billing_cycle",
    .text "billing_cycle_type", .integer "billing_contract_term"]
  keyColumns := ["id"]
  key row := [row.id]
  set row column cell := match column with
    | "id" => { row with id := cell }
    | "service_id" => { row with service := cell }
    | "description" => { row with description := cell }
    | "paid" => { row with paid := cell }
    | "sales_only" => { row with salesOnly := cell }
    | "trial_duration" => { row with trialDuration := cell }
    | "properties" => { row with properties := cell }
    | "billing_cycle" => { row with billingCycle := cell }
    | "billing_cycle_type" => { row with billingCycleType := cell }
    | "billing_contract_term" => { row with billingContractTerm := cell }
    | _ => row

/-- A plan as a row. -/
def PlanRow.ofPlan (p : Plan) : PlanRow where
  id := .text p.id
  service := .text p.service
  description := .text p.description
  paid := .ofFlag p.paid
  salesOnly := .ofFlag p.salesOnly
  trialDuration := .ofInt32 p.trialDuration
  properties := .text (writeColumn p.properties)
  billingCycle := .ofInt32 p.billingCycle
  billingCycleType := .text p.billingCycleType.text
  billingContractTerm := .ofInt32 p.billingContractTerm

/-- The cells of a plan. -/
def PlanRow.read (row : PlanRow) : Except DatabaseFault (Unread Properties Plan) := do
  let id ← row.id.readText (.named "id")
  let service ← row.service.readText (.named "service_id")
  let description ← row.description.readText (.named "description")
  let paid ← row.paid.readFlag (.named "paid")
  let salesOnly ← row.salesOnly.readFlag (.named "sales_only")
  let trialDuration ← row.trialDuration.readInt32 (.named "trial_duration")
  let text ← row.properties.readText (.named "properties")
  let billingCycle ← row.billingCycle.readInt32 (.named "billing_cycle")
  let billingCycleType ← row.billingCycleType.readText (.named "billing_cycle_type")
  let billingContractTerm ← row.billingContractTerm.readInt32 (.named "billing_contract_term")
  .ok {
    text
    complete := fun properties => {
      id, service, description, paid, salesOnly, trialDuration, properties, billingCycle
      billingCycleType := BillingCycleType.ofText billingCycleType
      billingContractTerm } }

/-! ## Subscriptions -/

/-- The columns of the dates. -/
def dateColumns : SubscriptionDates String :=
  ⟨"start_date", "end_date", "trial_start_date", "trial_end_date", "billing_start_date",
    "billing_end_date", "next_billing_date"⟩

/-- A row of `subscriptions`. -/
structure SubscriptionRow where
  id : Cell
  account : Cell
  service : Cell
  plan : Cell
  properties : Cell
  state : Cell
  description : Cell
  usePaymentSystem : Cell
  dates : SubscriptionDates Cell
  billingCycle : Cell
  billingCycleType : Cell
  billingContractTerm : Cell
  deriving DecidableEq, Repr

instance : Row SubscriptionRow where
  table := "subscriptions"
  columns := [.text "id", .text "account_id", .text "service_id", .text "plan_id",
    .text "properties", .text "state", .text "description", .integer "use_payment_system",
    (Column.integer dateColumns.start).orNull, (Column.integer dateColumns.stop).orNull,
    (Column.integer dateColumns.trialStart).orNull, (Column.integer dateColumns.trialEnd).orNull,
    (Column.integer dateColumns.billingStart).orNull,
    (Column.integer dateColumns.billingEnd).orNull,
    (Column.integer dateColumns.nextBilling).orNull, .integer "billing_cycle",
    .text "billing_cycle_type", .integer "billing_contract_term"]
  keyColumns := ["id"]
  key row := [row.id]
  set row column cell := match column with
    | "id" => { row with id := cell }
    | "account_id" => { row with account := cell }
    | "service_id" => { row with service := cell }
    | "plan_id" => { row with plan := cell }
    | "properties" => { row with properties := cell }
    | "state" => { row with state := cell }
    | "description" => { row with description := cell }
    | "use_payment_system" => { row with usePaymentSystem := cell }
    | "billing_cycle" => { row with billingCycle := cell }
    | "billing_cycle_type" => { row with billingCycleType := cell }
    | "billing_contract_term" => { row with billingContractTerm := cell }
    | _ =>
      let dates := (dateColumns.zip row.dates).map fun (name, old) =>
        if name = column then cell else old
      { row with dates }

/-- A subscription as a row. -/
def SubscriptionRow.ofSubscription (s : Subscription) : SubscriptionRow where
  id := .text s.id
  account := .text s.account
  service := .text s.service
  plan := .text s.plan
  properties := .text (writeColumn s.properties)
  state := .text s.state.text
  description := .text s.description
  usePaymentSystem := .ofFlag s.usePaymentSystem
  dates := s.dates.map fun date => .ofOptionalInteger (date.map Instant.seconds)
  billingCycle := .ofInt32 s.billingCycle
  billingCycleType := .text s.billingCycleType.text
  billingContractTerm := .ofInt32 s.billingContractTerm

/-- The cells of a subscription. -/
def SubscriptionRow.read (row : SubscriptionRow) :
    Except DatabaseFault (Unread Properties Subscription) := do
  let id ← row.id.readText (.named "id")
  let account ← row.account.readText (.named "account_id")
  let service ← row.service.readText (.named "service_id")
  let plan ← row.plan.readText (.named "plan_id")
  let text ← row.properties.readText (.named "properties")
  let state ← row.state.readText (.named "state")
  let description ← row.description.readText (.named "description")
  let usePaymentSystem ← row.usePaymentSystem.readFlag (.named "use_payment_system")
  let seconds ← (dateColumns.zip row.dates).tryMap fun (name, cell) =>
    cell.optionalInteger (.named name)
  let billingCycle ← row.billingCycle.readInt32 (.named "billing_cycle")
  let billingCycleType ← row.billingCycleType.readText (.named "billing_cycle_type")
  let billingContractTerm ← row.billingContractTerm.readInt32 (.named "billing_contract_term")
  .ok {
    text
    complete := fun properties => {
      id, account, service, plan, properties
      state := SubscriptionState.ofText state
      description, usePaymentSystem
      dates := seconds.map fun date => date.bind Instant.ofSeconds?
      billingCycle
      billingCycleType := BillingCycleType.ofText billingCycleType
      billingContractTerm } }

namespace SubscriptionRow

/-- Whether the row is active. -/
def isActive (row : SubscriptionRow) : Bool := row.state = .text SubscriptionState.active.text

/-- Whether the row is active and gives an account a service. -/
def gives (row : SubscriptionRow) (account service : String) : Bool :=
  row.account = .text account && row.service = .text service && row.isActive

/-- Whether two rows are active and give one account one service. -/
def clashesWith (a b : SubscriptionRow) : Bool :=
  a.isActive && b.isActive && a.account ≠ .null && a.service ≠ .null && a.account = b.account
    && a.service = b.service

end SubscriptionRow

/-! ## Members of workspaces -/

/-- A row of `workspace_members`. -/
structure WorkspaceMemberRow where
  workspace : Cell
  user : Cell
  roles : Cell
  deriving DecidableEq, Repr

instance : Row WorkspaceMemberRow where
  table := "workspace_members"
  columns := [.text "workspace_id", .text "user_id", .text "roles"]
  keyColumns := ["workspace_id", "user_id"]
  key row := [row.workspace, row.user]
  set row column cell := match column with
    | "workspace_id" => { row with workspace := cell }
    | "user_id" => { row with user := cell }
    | "roles" => { row with roles := cell }
    | _ => row

/-- A membership as a row. -/
def WorkspaceMemberRow.ofMember (m : WorkspaceMember) : WorkspaceMemberRow :=
  ⟨.text m.workspace, .text m.user, .text (writeColumn m.roles)⟩

/-- The cells of a membership. -/
def WorkspaceMemberRow.read (row : WorkspaceMemberRow) :
    Except DatabaseFault (Unread (List String) WorkspaceMember) := do
  let workspace ← row.workspace.readText (.numbered 0)
  let user ← row.user.readText (.numbered 1)
  .ok ⟨← row.roles.readText (.numbered 2), fun roles => ⟨workspace, user, roles⟩⟩

/-- The roles of a membership alone. -/
def WorkspaceMemberRow.readRoles (row : WorkspaceMemberRow) :
    Except DatabaseFault (Unread (List String) RoleSet) := do
  .ok ⟨← row.roles.readText (.numbered 0), RoleSet.ofList⟩

/-! ## Commands -/

/-- A row of `commands`. -/
structure CommandRow where
  id : Cell
  name : Cell
  commandLine : Cell
  creator : Cell
  workspace : Cell
  visibility : Cell
  type : Cell
  workingDir : Cell
  deriving DecidableEq, Repr

instance : Row CommandRow where
  table := "commands"
  columns := [.text "id", .text "name", .text "command_line", .text "creator", .text "workspace_id",
    .text "visibility", (Column.text "command_type").orNull, (Column.text "working_dir").orNull]
  keyColumns := ["id"]
  key row := [row.id]
  set row column cell := match column with
    | "id" => { row with id := cell }
    | "name" => { row with name := cell }
    | "command_line" => { row with commandLine := cell }
    | "creator" => { row with creator := cell }
    | "workspace_id" => { row with workspace := cell }
    | "visibility" => { row with visibility := cell }
    | "command_type" => { row with type := cell }
    | "working_dir" => { row with workingDir := cell }
    | _ => row

/-- A command as a row. -/
def CommandRow.ofCommand (c : Command) : CommandRow where
  id := .text c.id
  name := .text c.name
  commandLine := .text c.commandLine
  creator := .text c.creator
  workspace := .text c.workspace
  visibility := .text c.visibility.text
  type := .ofOptionalText c.type
  workingDir := .ofOptionalText c.workingDir

/-- The command that a row holds. -/
def CommandRow.command (row : CommandRow) : Except DatabaseFault Command := do
  let id ← row.id.readText (.named "id")
  let name ← row.name.readText (.named "name")
  let commandLine ← row.commandLine.readText (.named "command_line")
  let creator ← row.creator.readText (.named "creator")
  let workspace ← row.workspace.readText (.named "workspace_id")
  let visibility ← row.visibility.readText (.named "visibility")
  let type ← row.type.optionalText (.named "command_type")
  let workingDir ← row.workingDir.optionalText (.named "working_dir")
  .ok { id, name, commandLine, creator, workspace, visibility := Visibility.ofText visibility, type,
        workingDir }

end CloudIde
