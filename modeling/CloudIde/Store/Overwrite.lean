import CloudIde.Store.Subscriptions

/-!
# Columns changed by other hands

`Store.overwrite` sets one column of the rows with a key to a value of its own, whatever the value
means. It is refused, in this order,

* when there is no such table, or the table has no such column or lacks a column of the key;
* when the column takes part in references between the tables, and the accounts have no key to refer
  to;
* when the column needs a value and has none;
* when two rows would share a key, or two active subscriptions an account and a service;
* when a row would refer to an account that is not there.

A table that was made keeps what its columns are made for; one that was found keeps every value as
it is.
-/

namespace CloudIde

namespace Table

variable {ρ : Type} [Row ρ]

/-- The column of this name that a made table has, by which its rows are set. -/
def column? (_ : Table ρ) (name : String) : Option Column :=
  (Row.columns ρ).find? fun column => sameName column.name name

/-- The first of some columns that the table does not have, of whatever layout. -/
def misses? (t : Table ρ) (wanted : List String) : Option String :=
  match t.layout with
  | .made => wanted.find? fun name => (t.column? name).isNone
  | .found table => table.lacks? wanted

/-- The name of the table and of some columns of it, as they were written when it came to be. -/
def spelled (t : Table ρ) (columns : List String) : String × List String :=
  match t.layout with
  | .made => (Row.table ρ, columns)
  | .found table => (table.name, columns.map fun column =>
      (table.columns.find? (sameName column)).getD column)

/-- The cell that a column keeps for a value, unless it needs one and there is none. -/
def cellFor (t : Table ρ) (name : String) (value : Cell) : Except Failure Cell :=
  match t.layout, t.column? name with
  | .made, some column =>
    if column.needed && value = .null then
      .error (.database (.notNull (Row.table ρ) column.name))
    else .ok (column.affinity.cell value)
  | _, _ => .ok value

/-- Sets a column of the rows with a key. `relates` says whether the references between tables allow
a statement that writes the column. -/
def overwrite (t : Table ρ) (key : Key) (column : String) (value : Cell)
    (relates : Except Failure Unit) (check : List ρ → ρ → ρ → Except Failure Unit) :
    Except Failure (Table ρ × Nat) := do
  match t.misses? (column :: Row.keyColumns ρ) with
  | some missing => .error (.database (.noSuchColumn missing))
  | none =>
    relates
    if t.hasKey key then
      let cell ← t.cellFor column value
      t.edit key (fun row => Row.set row (lowerName column) cell) check
    else .ok (t, 0)

end Table

namespace Store

/-- Whether some row of a made table refers to an account. -/
def isReferredTo (s : Store) (account : Cell) : Bool :=
  (s.members.layout = .made && s.members.rows.any fun row => row.account = account)
    || (s.subscriptions.layout = .made
      && s.subscriptions.rows.any fun row => row.account = account)

/-- Refuses to write the ids of accounts to which a table refers without a key. -/
def relatingParents (s : Store) : Except Failure Unit := do
  s.relating s.subscriptions
  s.relating s.members

/-- What has to hold for a row of accounts that is changed: an id that is referred to stays. -/
def checkAccount (s : Store) (_ : List AccountRow) (before after : AccountRow) :
    Except Failure Unit :=
  if s.accounts.layout = .made && before.id ≠ after.id && s.isReferredTo before.id then
    .error (.database .foreignKey)
  else .ok ()

/-- What has to hold for a row of subscriptions that is changed: it clashes with no other one, and
the account that it refers to is there. -/
def checkSubscription (s : Store) (others : List SubscriptionRow) (before after : SubscriptionRow) :
    Except Failure Unit :=
  if others.any after.clashesWith then
    let (table, columns) := s.subscriptions.spelled ["account_id", "service_id"]
    .error (.database (.duplicateEntry table columns))
  else if before.account = after.account then .ok ()
  else s.referring s.subscriptions after.account

/-- What has to hold for a row of members that is changed: the account that it refers to is there.
-/
def checkMember (s : Store) (_ : List MemberRow) (before after : MemberRow) : Except Failure Unit :=
  if before.account = after.account then .ok () else s.referring s.members after.account

/-- Sets a column of the rows with a key in a table. Gives the number of rows that changed. -/
def overwrite (s : Store) (table : String) (key : List String) (column : String) (value : Cell) :
    Except Failure (Store × Nat) := do
  let key := key.map Cell.text
  let free {ρ : Type} (_ : List ρ) (_ _ : ρ) : Except Failure Unit := .ok ()
  let relatingWhen (name : String) (relates : Except Failure Unit) : Except Failure Unit :=
    if sameName column name then relates else .ok ()
  if sameName table (Row.table AccountRow) then
    let (accounts, n) ←
      s.accounts.overwrite key column value (relatingWhen "id" s.relatingParents) s.checkAccount
    .ok ({ s with accounts }, n)
  else if sameName table (Row.table MemberRow) then
    let (members, n) ← s.members.overwrite key column value
      (relatingWhen "account_id" (s.relating s.members)) s.checkMember
    .ok ({ s with members }, n)
  else if sameName table (Row.table PlanRow) then
    let (plans, n) ← s.plans.overwrite key column value (.ok ()) free
    .ok ({ s with plans }, n)
  else if sameName table (Row.table SubscriptionRow) then
    let (subscriptions, n) ← s.subscriptions.overwrite key column value
      (relatingWhen "account_id" (s.relating s.subscriptions)) s.checkSubscription
    .ok ({ s with subscriptions }, n)
  else if sameName table (Row.table WorkspaceMemberRow) then
    let (workspaceMembers, n) ← s.workspaceMembers.overwrite key column value (.ok ()) free
    .ok ({ s with workspaceMembers }, n)
  else if sameName table (Row.table CommandRow) then
    let (commands, n) ← s.commands.overwrite key column value (.ok ()) free
    .ok ({ s with commands }, n)
  else match s.others.find? fun t => sameName t.name table with
    | none => .error (.database (.noSuchTable table))
    | some t => match t.lacks? [column, "id"] with
      | some missing => .error (.database (.noSuchColumn missing))
      | none => .ok (s, 0)

end Store

end CloudIde
