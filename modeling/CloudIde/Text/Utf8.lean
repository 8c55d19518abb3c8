import CloudIde.Text.Bytes

/-!
# Where a byte sequence stops being UTF-8

A text in UTF-8 is a sequence of characters of one to four bytes. `Utf8.head` looks at the first
character of a sequence that is not empty and says how far it gets. Two readings use it:

* **strict**: `Utf8.fault?` finds the first place where the bytes stop being UTF-8;
* **lossy**: `Utf8.lossy` puts U+FFFD in the place of each longest run that begins a character and
  does not finish it.
-/

namespace CloudIde.Utf8

/-- How far the character at the front of a byte sequence gets. -/
inductive Head where
  /-- A whole character of so many bytes. -/
  | character (size : Nat)
  /-- After so many bytes comes one that cannot follow. -/
  | broken (size : Nat)
  /-- The bytes end before the character does. -/
  | cut
  deriving DecidableEq, Repr

/-- The number of bytes of the character that a lead byte opens; 0 for a byte that opens none. -/
def width (lead : UInt8) : Nat :=
  if lead < 0x80 then 1
  else if lead < 0xC2 then 0
  else if lead < 0xE0 then 2
  else if lead < 0xF0 then 3
  else if lead < 0xF5 then 4
  else 0

/-- The bytes that continue a character. -/
def isTail (b : UInt8) : Bool := 0x80 ≤ b && b ≤ 0xBF

/-- The bytes that may follow a lead byte directly: those that give neither an overlong form nor a
surrogate nor a number above U+10FFFF. -/
def mayFollow (lead b : UInt8) : Bool :=
  if lead = 0xE0 then 0xA0 ≤ b && b ≤ 0xBF
  else if lead = 0xED then 0x80 ≤ b && b ≤ 0x9F
  else if lead = 0xF0 then 0x90 ≤ b && b ≤ 0xBF
  else if lead = 0xF4 then 0x80 ≤ b && b ≤ 0x8F
  else isTail b

/-- Follows `owed` continuing bytes after the first `seen` bytes of a character. -/
def tails (owed seen : Nat) (bytes : Bytes) : Head :=
  match owed, bytes with
  | 0, _ => .character seen
  | _ + 1, [] => .cut
  | owed + 1, b :: rest => if isTail b then tails owed (seen + 1) rest else .broken seen

/-- How far the character gets that begins with `lead`. -/
def head (lead : UInt8) (rest : Bytes) : Head :=
  match width lead with
  | 0 => .broken 1
  | 1 => .character 1
  | size + 2 =>
    match rest with
    | [] => .cut
    | b :: rest => if mayFollow lead b then tails size 2 rest else .broken 1

/-- The place where bytes stop being UTF-8. -/
structure Fault where
  /-- The number of bytes before it. -/
  index : Nat
  /-- The number of bytes to leave out there; nothing when the bytes end inside a character. -/
  size : Option Nat
  deriving DecidableEq, Repr

/-- The fault in words. -/
def Fault.message (fault : Fault) : String :=
  match fault.size with
  | some size => s!"invalid utf-8 sequence of {size} bytes from index {fault.index}"
  | none => s!"incomplete utf-8 byte sequence from index {fault.index}"

/-- The first fault at or after `index`, leaving out the next `skip` bytes. -/
def faultFrom (index skip : Nat) : Bytes → Option Fault
  | [] => none
  | b :: rest =>
    match skip with
    | skip + 1 => faultFrom (index + 1) skip rest
    | 0 =>
      match head b rest with
      | .character size => faultFrom (index + 1) (size - 1) rest
      | .broken size => some ⟨index, some size⟩
      | .cut => some ⟨index, none⟩

/-- The first place where the bytes stop being UTF-8. -/
def fault? (bytes : Bytes) : Option Fault := faultFrom 0 0 bytes

/-- The text of the bytes, or the place where they stop being UTF-8. -/
def decode (bytes : Bytes) : Except Fault String :=
  match Bytes.text? bytes with
  | some text => .ok text
  | none => .error ((fault? bytes).getD ⟨bytes.length, none⟩)

/-- The number that a whole character of `size` bytes spells. -/
def codePoint (lead : UInt8) (tail : Bytes) (size : Nat) : Nat :=
  let first := match size with
    | 1 => lead.toNat
    | 2 => lead.toNat % 32
    | 3 => lead.toNat % 16
    | _ => lead.toNat % 8
  (tail.take (size - 1)).foldl (fun n b => n * 64 + b.toNat % 64) first

/-- The characters of the bytes after the next `skip`, read with replacements onto `done`. -/
def lossyFrom (skip : Nat) (done : List Char) : Bytes → List Char
  | [] => done.reverse
  | b :: rest =>
    match skip with
    | skip + 1 => lossyFrom skip done rest
    | 0 =>
      match head b rest with
      | .character size => lossyFrom (size - 1) (Char.ofNat (codePoint b rest size) :: done) rest
      | .broken size => lossyFrom (size - 1) ('\uFFFD' :: done) rest
      | .cut => ('\uFFFD' :: done).reverse

/-- The text of the bytes, with U+FFFD for what is not UTF-8. -/
def lossy (bytes : Bytes) : String :=
  match Bytes.text? bytes with
  | some text => text
  | none => String.ofList (lossyFrom 0 [] bytes)

end CloudIde.Utf8
