/-!
# Tables of characters

An encoding with two bytes for a character looks it up in a table, by a row and a cell in it. Rows
and cells are counted from 0. A row may end early, and U+FFFD stands in a cell without a character.
-/

namespace CloudIde

/-- A table of characters. -/
structure CodeTable where
  rows : List String

namespace CodeTable

/-- The character in a cell. -/
def char? (table : CodeTable) (row cell : Nat) : Option Char :=
  (table.rows[row]?).bind fun text => (text.toList[cell]?).filter (· ≠ '\uFFFD')

end CodeTable

end CloudIde
