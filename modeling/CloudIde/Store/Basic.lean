import CloudIde.Store.Rows

/-!
# The store

The store holds six tables, one for each kind of rows. A store whose tables were all made starts out
`Store.empty`; in one with tables that were found, these keep their layouts. Tables that were found
beside the six are known by their names, and nothing is ever put into them.
-/

namespace CloudIde

/-- All that is stored. -/
structure Store where
  accounts : Table AccountRow
  members : Table MemberRow
  plans : Table PlanRow
  subscriptions : Table SubscriptionRow
  workspaceMembers : Table WorkspaceMemberRow
  commands : Table CommandRow
  /-- The tables that are not among these. -/
  others : List FoundTable
  deriving DecidableEq

namespace Store

/-- The layout of a table, where some tables were found. -/
def layoutOf (found : List FoundTable) (table : String) : Layout :=
  ((found.find? fun t => sameName t.name table).map Layout.found).getD .made

/-- The names of the six tables. -/
def tables : List String :=
  [Row.table AccountRow, Row.table MemberRow, Row.table PlanRow, Row.table SubscriptionRow,
    Row.table WorkspaceMemberRow, Row.table CommandRow]

/-- The store without rows, where some tables were found. -/
def ofFound (found : List FoundTable) : Store where
  accounts := .empty (layoutOf found (Row.table AccountRow))
  members := .empty (layoutOf found (Row.table MemberRow))
  plans := .empty (layoutOf found (Row.table PlanRow))
  subscriptions := .empty (layoutOf found (Row.table SubscriptionRow))
  workspaceMembers := .empty (layoutOf found (Row.table WorkspaceMemberRow))
  commands := .empty (layoutOf found (Row.table CommandRow))
  others := found.filter fun t => !tables.any (sameName t.name)

/-- The store without rows. -/
def empty : Store := ofFound []

instance : Inhabited Store := ⟨empty⟩

end Store

end CloudIde
