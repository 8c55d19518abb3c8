/-!
# Pieces of a list

A list falls into pieces at its separators. There is always one piece more than there are
separators.
-/

namespace CloudIde

/-- The pieces of a list between the separators. -/
def pieces {α : Type} [DecidableEq α] (separator : α) : List α → List (List α)
  | [] => [[]]
  | a :: rest =>
    if a = separator then [] :: pieces separator rest
    else match pieces separator rest with
      | [] => [[a]]
      | piece :: others => (a :: piece) :: others

/-- A list up to its first separator, and what follows the separator. -/
def cut {α : Type} [DecidableEq α] (separator : α) : List α → List α × Option (List α)
  | [] => ([], none)
  | a :: rest =>
    if a = separator then ([], some rest)
    else
      let (before, after) := cut separator rest
      (a :: before, after)

/-- What follows some characters, when they stand in front. -/
def stripFront? (front text : List Char) : Option (List Char) :=
  if front.isPrefixOf text then some (text.drop front.length) else none

end CloudIde
