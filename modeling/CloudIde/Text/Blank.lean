import CloudIde.Text.Pieces

/-!
# White space and trimming

White space is the Unicode property White_Space. Trimming removes it from both ends of a text.
-/

namespace CloudIde

/-- The characters of the Unicode property White_Space. -/
def isBlank (c : Char) : Bool :=
  let n := c.toNat
  (9 ≤ n && n ≤ 13) || n = 0x20 || n = 0x85 || n = 0xA0 || n = 0x1680
    || (0x2000 ≤ n && n ≤ 0x200A) || n = 0x2028 || n = 0x2029 || n = 0x202F || n = 0x205F
    || n = 0x3000

/-- The characters without those at the end that satisfy `p`. -/
def trimEndChars (p : Char → Bool) (cs : List Char) : List Char :=
  (cs.reverse.dropWhile p).reverse

/-- The characters without the white space at both ends. -/
def trimChars (cs : List Char) : List Char := trimEndChars isBlank (cs.dropWhile isBlank)

/-- The text without the white space at both ends. -/
def trim (text : String) : String := String.ofList (trimChars text.toList)

/-- The pieces of a list written with commas: each trimmed, the empty ones left out. -/
def commaList (text : String) : List String :=
  ((pieces ',' text.toList).map trimChars).filterMap fun piece =>
    if piece.isEmpty then none else some (String.ofList piece)

end CloudIde
