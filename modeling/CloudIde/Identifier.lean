/-!
# Identifiers

The id of a new thing is the name of its kind with random hexadecimal digits behind it.
-/

namespace CloudIde

/-- A source of ids: the digits that the next id of a request is made of. -/
abbrev HexDigits := List (Fin 16)

namespace Identifier

/-- The number of digits in the ids of stored things. -/
def size : Nat := 16

/-- The id of a kind with some digits: the first `length` of them, as long as there are so many. -/
def ofDigits (kind : String) (length : Nat) (digits : HexDigits) : String :=
  kind ++ String.ofList ((digits.take length).map fun d => Nat.digitChar d.val)

/-- Whether a character is a lower-case hexadecimal digit. -/
def isDigit (c : Char) : Bool := ('0' ≤ c && c ≤ '9') || ('a' ≤ c && c ≤ 'f')

end Identifier

end CloudIde
