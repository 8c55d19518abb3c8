/-!
# What the database reports

A statement fails with a `DatabaseFault`. Most of them are reported with a number: 1 for a statement
that does not fit the tables, others for a demand of the tables that is not met or for a file that
cannot be used. A cell that does not hold what its column is read as is reported with the types.
-/

namespace CloudIde

/-- The kinds of values that cells hold, but for null. -/
inductive CellKind where
  | integer
  | real
  | text
  deriving DecidableEq, Repr

/-- The name of a kind. -/
def CellKind.word : CellKind → String
  | integer => "INTEGER"
  | real => "REAL"
  | text => "TEXT"

/-- What a cell is read as. -/
inductive CellType where
  | text
  | optionalText
  | flag
  | int32
  | optionalInteger
  deriving DecidableEq, Repr

/-- The name of a type among those of the database. -/
def CellType.kindWord : CellType → String
  | text | optionalText => "TEXT"
  | flag => "BOOLEAN"
  | int32 | optionalInteger => "INTEGER"

/-- The name of a type. -/
def CellType.word : CellType → String
  | text => "alloc::string::String"
  | optionalText => "core::option::Option<alloc::string::String>"
  | flag => "bool"
  | int32 => "i32"
  | optionalInteger => "core::option::Option<i64>"

/-- How a report names a column. -/
inductive ColumnPlace where
  /-- By its name. -/
  | named (name : String)
  /-- By its place among the columns that are read. -/
  | numbered (index : Nat)
  deriving DecidableEq, Repr

/-- A column in words. -/
def ColumnPlace.words : ColumnPlace → String
  | named name => "\"" ++ name ++ "\""
  | numbered index => toString index

/-- What the database reports. -/
inductive DatabaseFault where
  /-- A row is missing that has to be there. -/
  | rowMissing
  /-- A row refers to a row that is not there. -/
  | foreignKey
  /-- A referenced table has no key that rows could refer to. -/
  | foreignKeyMismatch (child parent : String)
  /-- A column that needs a value has none. -/
  | notNull (table column : String)
  /-- Two rows have one primary key. -/
  | duplicateKey (table : String) (columns : List String)
  /-- Two rows agree on the columns of a unique index. -/
  | duplicateEntry (table : String) (columns : List String)
  /-- A statement names a table that is not there. -/
  | noSuchTable (table : String)
  /-- A statement names a column that its table does not have. -/
  | noSuchColumn (column : String)
  /-- A row is written to a table that lacks a column. -/
  | noColumnNamed (table column : String)
  /-- An index is to have the name of a table. -/
  | nameTaken (name : String)
  /-- A cell holds something else than what it is read as. -/
  | wrongKind (column : ColumnPlace) (wanted : CellType) (found : CellKind)
  /-- A stored integer is too large for what it is read as. -/
  | tooLarge (column : ColumnPlace)
  /-- A stored integer is too small for what it is read as. -/
  | tooSmall (column : ColumnPlace)
  /-- The file cannot be opened. -/
  | cannotOpen
  /-- The file holds something else. -/
  | notADatabase
  /-- The file may only be read. -/
  | readOnly
  /-- The file may only be read, and a broken-off write would have to be undone first. -/
  | rollbackNeeded
  /-- A file cannot be read or taken away; the code says what failed. -/
  | disk (code : Nat)
  deriving DecidableEq, Repr

/-- A report with the number of its error. -/
def refusal (code : Nat) (text : String) : String :=
  s!"error returned from database: (code: {code}) " ++ text

/-- The columns of a key, each with its table. -/
def qualified (table : String) (columns : List String) : String :=
  ", ".intercalate (columns.map fun column => table ++ "." ++ column)

/-- The report of a cell that cannot be read. -/
def unreadable (column : ColumnPlace) (text : String) : String :=
  "error occurred while decoding column " ++ column.words ++ ": " ++ text

/-- What the database reports, in words. -/
def DatabaseFault.message : DatabaseFault → String
  | .rowMissing => "no rows returned by a query that expected to return at least one row"
  | .foreignKey => refusal 787 "FOREIGN KEY constraint failed"
  | .foreignKeyMismatch child parent =>
    refusal 1 ("foreign key mismatch - \"" ++ child ++ "\" referencing \"" ++ parent ++ "\"")
  | .notNull table column =>
    refusal 1299 ("NOT NULL constraint failed: " ++ table ++ "." ++ column)
  | .duplicateKey table columns =>
    refusal 1555 ("UNIQUE constraint failed: " ++ qualified table columns)
  | .duplicateEntry table columns =>
    refusal 2067 ("UNIQUE constraint failed: " ++ qualified table columns)
  | .noSuchTable table => refusal 1 ("no such table: " ++ table)
  | .noSuchColumn column => refusal 1 ("no such column: " ++ column)
  | .noColumnNamed table column =>
    refusal 1 ("table " ++ table ++ " has no column named " ++ column)
  | .nameTaken name => refusal 1 ("there is already a table named " ++ name)
  | .wrongKind column wanted found =>
    unreadable column ("mismatched types; Rust type \x60" ++ wanted.word ++ "\x60 (as SQL type \x60"
      ++ wanted.kindWord ++ "\x60) is not compatible with SQL type \x60" ++ found.word ++ "\x60")
  | .tooLarge column => unreadable column "number too large to fit in target type"
  | .tooSmall column => unreadable column "number too small to fit in target type"
  | .cannotOpen => refusal 14 "unable to open database file"
  | .notADatabase => refusal 26 "file is not a database"
  | .readOnly => refusal 8 "attempt to write a readonly database"
  | .rollbackNeeded => refusal 776 "attempt to write a readonly database"
  | .disk code => refusal code "disk I/O error"

end CloudIde
