import CloudIde.Database.Script
import CloudIde.Store.Plans
import CloudIde.Store.Subscriptions
import CloudIde.Store.Workspaces
import CloudIde.Store.Commands

/-!
# Migrations

A migration is a script with what its statements make: tables and indexes. What is there already
stays as it is. A statement fails when an index is to have the name of a table, when an index is to
be made over a column that a table lacks, and when something is to be made in a database that cannot
be written.
-/

namespace CloudIde

/-- What a statement makes. -/
inductive Made where
  /-- A table. -/
  | table (name : String)
  /-- An index of a table, with the columns in the order in which the statement names them. -/
  | index (name table : String) (columns : List String)
  deriving DecidableEq, Repr

/-- A migration. -/
structure Migration where
  name : String
  script : String
  /-- What the statements make, one by one. -/
  makes : List Made
  deriving DecidableEq, Repr

namespace Migration

/-- A text of several rows. -/
def rows (list : List String) : String := "\n".intercalate list

/-- Makes the tables of accounts, members, plans and subscriptions. -/
def accounts : Migration where
  name := "001_create_accounts"
  script := rows [
    "-- Accounts, their members, billing plans and subscriptions",
    "",
    "CREATE TABLE IF NOT EXISTS accounts (",
    "    id TEXT PRIMARY KEY NOT NULL,",
    "    name TEXT NOT NULL",
    ");",
    "",
    "CREATE TABLE IF NOT EXISTS account_members (",
    "    account_id TEXT NOT NULL REFERENCES accounts(id) ON DELETE CASCADE,",
    "    user_id TEXT NOT NULL,",
    "    roles TEXT NOT NULL, -- JSON array of role names",
    "    PRIMARY KEY (account_id, user_id)",
    ");",
    "",
    "CREATE INDEX IF NOT EXISTS idx_account_members_user ON account_members(user_id);",
    "",
    "CREATE TABLE IF NOT EXISTS plans (",
    "    id TEXT PRIMARY KEY NOT NULL,",
    "    service_id TEXT NOT NULL,",
    "    description TEXT NOT NULL,",
    "    paid INTEGER NOT NULL,",
    "    sales_only INTEGER NOT NULL,",
    "    trial_duration INTEGER NOT NULL,",
    "    properties TEXT NOT NULL, -- JSON object",
    "    billing_cycle INTEGER NOT NULL,",
    "    billing_cycle_type TEXT NOT NULL,",
    "    billing_contract_term INTEGER NOT NULL",
    ");",
    "",
    "CREATE TABLE IF NOT EXISTS subscriptions (",
    "    id TEXT PRIMARY KEY NOT NULL,",
    "    account_id TEXT NOT NULL REFERENCES accounts(id) ON DELETE CASCADE,",
    "    service_id TEXT NOT NULL,",
    "    plan_id TEXT NOT NULL,",
    "    properties TEXT NOT NULL, -- JSON object",
    "    state TEXT NOT NULL,",
    "    description TEXT NOT NULL,",
    "    use_payment_system INTEGER NOT NULL,",
    "    start_date INTEGER,",
    "    end_date INTEGER,",
    "    trial_start_date INTEGER,",
    "    trial_end_date INTEGER,",
    "    billing_start_date INTEGER,",
    "    billing_end_date INTEGER,",
    "    next_billing_date INTEGER,",
    "    billing_cycle INTEGER NOT NULL,",
    "    billing_cycle_type TEXT NOT NULL,",
    "    billing_contract_term INTEGER NOT NULL",
    ");",
    "",
    "CREATE INDEX IF NOT EXISTS idx_subscriptions_account ON subscriptions(account_id, state);",
    "",
    "-- An account holds at most one active subscription per service",
    "CREATE UNIQUE INDEX IF NOT EXISTS idx_subscriptions_active ON subscriptions(account_id, "
      ++ "service_id) WHERE state = 'ACTIVE';",
    ""]
  makes := [
    .table "accounts",
    .table "account_members",
    .index "idx_account_members_user" "account_members" ["user_id"],
    .table "plans",
    .table "subscriptions",
    .index "idx_subscriptions_account" "subscriptions" ["account_id", "state"],
    .index "idx_subscriptions_active" "subscriptions" ["account_id", "service_id", "state"]]

/-- Makes the tables of workspace members and commands. -/
def commands : Migration where
  name := "002_create_commands"
  script := rows [
    "-- Workspace membership and workspace commands",
    "",
    "CREATE TABLE IF NOT EXISTS workspace_members (",
    "    workspace_id TEXT NOT NULL,",
    "    user_id TEXT NOT NULL,",
    "    roles TEXT NOT NULL, -- JSON array of role names",
    "    PRIMARY KEY (workspace_id, user_id)",
    ");",
    "",
    "CREATE TABLE IF NOT EXISTS commands (",
    "    id TEXT PRIMARY KEY NOT NULL,",
    "    name TEXT NOT NULL,",
    "    command_line TEXT NOT NULL,",
    "    creator TEXT NOT NULL,",
    "    workspace_id TEXT NOT NULL,",
    "    visibility TEXT NOT NULL,",
    "    command_type TEXT,",
    "    working_dir TEXT",
    ");",
    "",
    "CREATE INDEX IF NOT EXISTS idx_commands_workspace ON commands(workspace_id);",
    ""]
  makes := [
    .table "workspace_members",
    .table "commands",
    .index "idx_commands_workspace" "commands" ["workspace_id"]]

/-- All migrations, in their order. -/
def all : List Migration := [accounts, commands]

/-- The statements of a migration, each with what it makes. -/
def steps (m : Migration) : List (String × Made) := (Script.statements m.script).zip m.makes

end Migration

/-- A database as the migrations find it. -/
structure Untouched where
  tables : List FoundTable
  /-- Why nothing can be read in it. -/
  unreadable : Option DatabaseFault
  /-- Why nothing can be written to it. -/
  unwritable : Option DatabaseFault

namespace Made

/-- Whether something is still to be made in a database. -/
def isMissing (made : Made) (u : Untouched) : Bool :=
  match made with
  | .table name => Store.layoutOf u.tables name = .made
  | .index .. => true

/-- Why something cannot be made in a database that can be read and written, if it cannot. -/
def misfit? (made : Made) (u : Untouched) : Option DatabaseFault :=
  match made with
  | .table _ => none
  | .index name indexed columns =>
    if u.tables.any fun t => sameName t.name name then some (.nameTaken name)
    else ((Store.layoutOf u.tables indexed).lacks? columns).map .noSuchColumn

/-- Why something cannot be made in a database, if it cannot. -/
def fault? (made : Made) (u : Untouched) : Option DatabaseFault :=
  u.unreadable <|> made.misfit? u <|> (if made.isMissing u then u.unwritable else none)

end Made

/-- The number of characters of a statement that a report shows. -/
def shownLength : Nat := 100

/-- The report of a statement that failed in a migration. -/
def Failure.migrating (migration : String) (fault : DatabaseFault) (statement : String) : Failure :=
  .opening ("Migration " ++ migration ++ " failed: " ++ fault.message ++ " - Statement: "
    ++ String.ofList (statement.toList.take shownLength))

/-- Runs all migrations on a database: fails with the first statement that has a fault. -/
def migrateAll (u : Untouched) : Except Failure Unit :=
  Migration.all.forM fun m => m.steps.forM fun (statement, made) =>
    match made.fault? u with
    | some fault => .error (.migrating m.name fault statement)
    | none => .ok ()

/-- Whether the migrations write anything to a database before one of their statements fails. -/
def writesSomething (u : Untouched) : Bool :=
  let all := Migration.all.flatMap Migration.makes
  (all.takeWhile fun made => (made.fault? u).isNone).any fun made => made.isMissing u

end CloudIde
