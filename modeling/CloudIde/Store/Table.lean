import CloudIde.Failure
import CloudIde.Store.Cell
import CloudIde.Text.Case

/-!
# Tables

A table was either **made**, with its columns and its primary key, or **found** with columns of its
own and without a key. The rows of a made table stand in ascending order of their keys, so that no
two of them share a key; those of a found table stand in the order in which they came. A statement
that names a column which the table lacks fails before it does anything.

* `Table.insert?` adds a row, unless a made table has a row with its key.
* `Table.put` adds a row; in a made table it takes the place of the one with its key.
* `Table.modify` changes rows and keeps their keys.
* `Table.erase` takes every row with a key away.
* `Table.edit` changes the rows with a key one by one, each checked against the others.

Columns and tables are named without regard to case.
-/

namespace CloudIde

/-- Whether two names are one, without regard to case. -/
def sameName (a b : String) : Bool := lowerName a = lowerName b

/-- A column of a table that is made. -/
structure Column where
  name : String
  affinity : Affinity
  /-- Whether every row needs a value in it. -/
  needed : Bool
  deriving DecidableEq, Repr

/-- A column of texts. -/
def Column.text (name : String) : Column := ⟨name, .text, true⟩

/-- A column of integers. -/
def Column.integer (name : String) : Column := ⟨name, .integer, true⟩

/-- The column with cells that may be null. -/
def Column.orNull (column : Column) : Column := { column with needed := false }

/-- The values of the key columns of a row. -/
abbrev Key := List Cell

/-- A kind of rows. -/
class Row (ρ : Type) where
  /-- The name of the table. -/
  table : String
  columns : List Column
  /-- The names of the columns of the primary key. -/
  keyColumns : List String
  /-- The cells in these columns. -/
  key : ρ → Key
  /-- The row with another cell in a column. -/
  set : ρ → (column : String) → Cell → ρ

/-- What the rows of a made table are ordered by: the texts in the key columns, which hold nothing
else. -/
def Row.order {ρ : Type} [Row ρ] (row : ρ) : List String := (Row.key row).map Cell.spelling

/-- A table that is there before any statement made one, with its names as they were written. -/
structure FoundTable where
  name : String
  columns : List String
  deriving DecidableEq, Repr

/-- The first of some columns that the table lacks. -/
def FoundTable.lacks? (t : FoundTable) (wanted : List String) : Option String :=
  wanted.find? fun column => !t.columns.any (sameName column)

/-- How a table came to be. -/
inductive Layout where
  /-- Made with all columns and the primary key. -/
  | made
  /-- Found with some columns and without a key. -/
  | found (table : FoundTable)
  deriving DecidableEq, Repr

/-- The first of some columns that a table lacks. -/
def Layout.lacks? : Layout → List String → Option String
  | made, _ => none
  | found t, wanted => t.lacks? wanted

section Place

variable {ρ : Type} [Row ρ]

/-- A row put in front of the first one that comes after it in the order. -/
def place (row : ρ) : List ρ → List ρ
  | [] => [row]
  | r :: rest => if Row.order row < Row.order r then row :: r :: rest else r :: place row rest

theorem mem_place {row r : ρ} {rows : List ρ} : r ∈ place row rows ↔ r = row ∨ r ∈ rows := by
  induction rows with
  | nil => simp [place]
  | cons a rest ih =>
    simp only [place]
    split
    · simp
    · simp only [List.mem_cons, ih]
      exact ⟨fun h => by rcases h with h | h | h <;> simp [h],
        fun h => by rcases h with h | h | h <;> simp [h]⟩

/-- Rows in strictly ascending order stay so when a row of a new key is put among them. -/
theorem place_ascending {row : ρ} {rows : List ρ}
    (h : rows.Pairwise fun a b => Row.order a < Row.order b)
    (fresh : ∀ r ∈ rows, Row.order r ≠ Row.order row) :
    (place row rows).Pairwise fun a b => Row.order a < Row.order b := by
  induction rows with
  | nil => simp [place]
  | cons a rest ih =>
    have ⟨first, tail⟩ := List.pairwise_cons.1 h
    simp only [place]
    split
    · next below =>
      refine List.pairwise_cons.2 ⟨fun r hr => ?_, h⟩
      rcases List.mem_cons.1 hr with rfl | hr
      · exact below
      · exact List.lt_trans below (first r hr)
    · next notBelow =>
      refine List.pairwise_cons.2 ⟨fun r hr => ?_, ih tail fun r hr => fresh r (.tail _ hr)⟩
      rcases mem_place.1 hr with rfl | hr
      · exact Decidable.byContradiction fun notAbove =>
          fresh a (.head _) (Std.Trichotomous.trichotomous _ _ notAbove notBelow)
      · exact first r hr

end Place

/-- The rows of a table. -/
structure Table (ρ : Type) [Row ρ] where
  layout : Layout
  rows : List ρ
  ascending : layout = .made → rows.Pairwise fun a b => Row.order a < Row.order b
  deriving DecidableEq

namespace Table

variable {ρ : Type} [Row ρ]

/-- A table without rows. -/
def empty (layout : Layout) : Table ρ := ⟨layout, [], fun _ => .nil⟩

instance : Inhabited (Table ρ) := ⟨empty .made⟩

/-- The first row with a key. -/
def find? (t : Table ρ) (key : Key) : Option ρ := t.rows.find? fun r => Row.key r = key

/-- Whether some row has a key. -/
def hasKey (t : Table ρ) (key : Key) : Bool := t.rows.any fun r => Row.key r = key

/-- The number of rows with a key. -/
def count (t : Table ρ) (key : Key) : Nat := t.rows.countP fun r => Row.key r = key

/-- The rows that satisfy `p`, sorted by some cells of theirs. -/
def select (t : Table ρ) (p : ρ → Bool) (order : ρ → List Cell) : List ρ :=
  (t.rows.filter p).mergeSort fun a b => Cell.listLe (order a) (order b)

/-- Adds a row, unless its key is taken in a made table. -/
def insert? (t : Table ρ) (row : ρ) : Option (Table ρ) :=
  if made : t.layout = .made then
    if taken : t.rows.any fun r => Row.order r = Row.order row then none
    else some {
      layout := t.layout
      rows := place row t.rows
      ascending := fun _ => place_ascending (t.ascending made) fun r hr same =>
        taken (List.any_eq_true.2 ⟨r, hr, by simp [same]⟩) }
  else some { layout := t.layout, rows := t.rows ++ [row], ascending := fun h => absurd h made }

/-- Takes every row with a key away. -/
def erase (t : Table ρ) (key : Key) : Table ρ where
  layout := t.layout
  rows := t.rows.filter fun r => Row.key r ≠ key
  ascending made := (t.ascending made).sublist List.filter_sublist

/-- Adds a row; in a made table it takes the place of the one with its key. -/
def put (t : Table ρ) (row : ρ) : Table ρ :=
  if made : t.layout = .made then {
    layout := t.layout
    rows := place row (t.rows.filter fun r => Row.order r ≠ Row.order row)
    ascending := fun _ =>
      place_ascending ((t.ascending made).sublist List.filter_sublist) fun r hr => by
        simpa using (List.mem_filter.1 hr).2 }
  else { layout := t.layout, rows := t.rows ++ [row], ascending := fun h => absurd h made }

/-- Changes rows and keeps their keys. -/
def modify (t : Table ρ) (f : ρ → ρ) (keeps : ∀ r, Row.key (f r) = Row.key r) : Table ρ where
  layout := t.layout
  rows := t.rows.map f
  ascending made := by simpa [List.pairwise_map, Row.order, keeps] using t.ascending made

/-- Writes a row over every row with its key. -/
def replace (t : Table ρ) (row : ρ) : Table ρ :=
  t.modify (fun r => if Row.key r = Row.key row then row else r) fun r => by split <;> simp_all

/-- Changes the rows with a key one by one. `check` is given the other rows as they are then, and
the row before and after. Gives the rows and the number of those that changed. -/
def editRows (key : Key) (change : ρ → ρ) (check : List ρ → ρ → ρ → Except Failure Unit) :
    (done rest : List ρ) → Except Failure (List ρ × Nat)
  | done, [] => .ok (done.reverse, 0)
  | done, row :: rest =>
    if Row.key row = key then do
      check (done ++ rest) row (change row)
      let (rows, n) ← editRows key change check (change row :: done) rest
      .ok (rows, n + 1)
    else editRows key change check (row :: done) rest

/-- Changes the rows with a key one by one, each checked against the others. In a made table no
other row may have the key that a row gets. Gives the table and the number of rows that changed. -/
def edit (t : Table ρ) (key : Key) (change : ρ → ρ)
    (check : List ρ → ρ → ρ → Except Failure Unit) : Except Failure (Table ρ × Nat) :=
  if made : t.layout = .made then
    match t.find? key with
    | none => .ok (t, 0)
    | some row =>
      let others := t.erase key
      match others.insert? (change row) with
      | none => .error (.database (.duplicateKey (Row.table ρ) (Row.keyColumns ρ)))
      | some t => (check others.rows row (change row)).map fun () => (t, 1)
  else (editRows key change check [] t.rows).map fun (rows, n) =>
    (⟨t.layout, rows, fun h => absurd h made⟩, n)

/-- Refuses a statement that reads or changes columns of which the table lacks one. -/
def naming (t : Table ρ) (columns : List String) : Except Failure Unit :=
  match t.layout.lacks? columns with
  | none => .ok ()
  | some column => .error (.database (.noSuchColumn column))

/-- Refuses a statement that adds rows with columns of which the table lacks one. -/
def filling (t : Table ρ) (columns : List String) : Except Failure Unit :=
  match t.layout.lacks? columns with
  | none => .ok ()
  | some column => .error (.database (.noColumnNamed (Row.table ρ) column))

end Table

end CloudIde
