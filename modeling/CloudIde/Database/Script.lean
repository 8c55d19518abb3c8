import CloudIde.Text.Blank

/-!
# Scripts of statements

A script holds statements that end in semicolons, with comments that reach from two hyphens to the
end of the row. `statements` gives them without comments, each with its rows joined by single
blanks.
-/

namespace CloudIde.Script

/-- A row up to its comment. -/
def beforeComment : List Char → List Char
  | [] => []
  | ['-'] => ['-']
  | '-' :: '-' :: _ => []
  | c :: rest => c :: beforeComment rest

/-- What a row says, with a blank behind it: nothing when it is blank or a comment. -/
def rowText (row : List Char) : List Char :=
  let row := trimChars row
  if row.isEmpty || ['-', '-'].isPrefixOf row then []
  else trimChars (beforeComment row) ++ [' ']

/-- What a script says, in one row. -/
def joined (script : List Char) : List Char := (pieces '\n' script).flatMap rowText

/-- The statements of a script. -/
def statements (script : String) : List String :=
  (((pieces ';' (joined script.toList)).map trimChars).filter fun s => !s.isEmpty).map String.ofList

end CloudIde.Script
