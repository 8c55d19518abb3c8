/-!
# Names without regard to case

Names that are compared without regard to case are compared in lower case. Only ASCII letters have a
case here.
-/

namespace CloudIde

/-- An ASCII letter in lower case; other characters as they are. -/
def lowerAscii (c : Char) : Char :=
  if 'A' ≤ c ∧ c ≤ 'Z' then Char.ofNat (c.toNat + 32) else c

/-- A name in lower case. -/
def lowerName (name : String) : String := String.ofList (name.toList.map lowerAscii)

end CloudIde
