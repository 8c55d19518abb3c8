import CloudIde.Text.Bytes
import CloudIde.Text.Codes.Big5
import CloudIde.Text.Codes.Gb18030
import CloudIde.Text.Codes.Hangul
import CloudIde.Text.Codes.JisX0208
import CloudIde.Text.Codes.JisX0212

/-!
# Encodings with several bytes for a character

A text in one of these encodings is read from its front. Its first byte alone, or together with some
of the next, spells a character, and reading goes on behind them.

* Bytes that spell nothing are read as one U+FFFD. An ASCII byte among them, other than the first,
  is read again, so that no quote or bracket is lost.
* A text that ends within a character ends in one U+FFFD.

ISO-2022-JP is read differently, since escape sequences in it choose what the bytes behind them
mean.
-/

namespace CloudIde

/-- An encoding with several bytes for a character. -/
inductive MultiByte where
  | big5
  | eucJp
  | eucKr
  | gb18030
  | shiftJis
  deriving DecidableEq, Repr

namespace MultiByte

/-- The encodings with several bytes for a character. -/
def all : List MultiByte := [big5, eucJp, eucKr, gb18030, shiftJis]

/-- Whether a byte stands from one to another. -/
def within (low high b : UInt8) : Bool := low ≤ b && b ≤ high

/-- The sign for what spells nothing. -/
def unread : Char := '\uFFFD'

/-- The half-width kana of a byte. -/
def halfKana (b : UInt8) : Char := Char.ofNat (0xFF61 + (b.toNat - 0xA1))

/-- Some characters, or the sign for none, and how many bytes behind the first one spell them. -/
abbrev Spelled := List Char × Nat

/-- What two bytes spell when a table decides: a second byte that is ASCII is not taken when there
is no character. -/
def ofPair (found : Option Char) (second : UInt8) : Spelled :=
  match found with
  | some c => ([c], 1)
  | none => ([unread], if second < 0x80 then 0 else 1)

/-- What two bytes spell in Big5. Four letters are spelled with a sign of their own behind them. -/
def pairBig5 (a b : UInt8) : Spelled :=
  if a = 0x88 ∧ b = 0x62 then (['\u00CA', '\u0304'], 1)
  else if a = 0x88 ∧ b = 0x64 then (['\u00CA', '\u030C'], 1)
  else if a = 0x88 ∧ b = 0xA3 then (['\u00EA', '\u0304'], 1)
  else if a = 0x88 ∧ b = 0xA5 then (['\u00EA', '\u030C'], 1)
  else
    let found :=
      if a < 0x87 then none
      else if within 0x40 0x7E b then CodeTable.big5.char? (a.toNat - 0x87) (b.toNat - 0x40)
      else if within 0xA1 0xFE b then CodeTable.big5.char? (a.toNat - 0x87) (b.toNat - 0x62)
      else none
    ofPair found b

/-- What the bytes from a first one on spell in Big5. -/
def firstBig5 (a : UInt8) (rest : Bytes) : Spelled :=
  if a < 0x80 then ([Char.ofNat a.toNat], 0)
  else if !within 0x81 0xFE a then ([unread], 0)
  else match rest with
    | [] => ([unread], 0)
    | b :: _ => pairBig5 a b

/-- What the bytes from a first one on spell in EUC-KR. -/
def firstEucKr (a : UInt8) (rest : Bytes) : Spelled :=
  if a < 0x80 then ([Char.ofNat a.toNat], 0)
  else if !within 0x81 0xFE a then ([unread], 0)
  else match rest with
    | [] => ([unread], 0)
    | b :: _ =>
      ofPair (if within 0x41 0xFE b then CodeTable.hangul.char? (a.toNat - 0x81) (b.toNat - 0x41)
        else none) b

/-- The character of two bytes in rows of ninety-four. -/
def cell94? (table : CodeTable) (a b : UInt8) : Option Char :=
  if within 0xA1 0xFE a && within 0xA1 0xFE b then table.char? (a.toNat - 0xA1) (b.toNat - 0xA1)
  else none

/-- What the bytes from a first one on spell in EUC-JP. The byte 0x8E precedes half-width kana, and
0x8F precedes the two bytes of a character of JIS X 0212. -/
def firstEucJp (a : UInt8) (rest : Bytes) : Spelled :=
  if a < 0x80 then ([Char.ofNat a.toNat], 0)
  else if a ≠ 0x8E ∧ a ≠ 0x8F ∧ !within 0xA1 0xFE a then ([unread], 0)
  else match rest with
    | [] => ([unread], 0)
    | b :: rest =>
      if a = 0x8E then ofPair (if within 0xA1 0xDF b then some (halfKana b) else none) b
      else if a = 0x8F ∧ within 0xA1 0xFE b then
        match rest with
        | [] => ([unread], 1)
        | c :: _ =>
          let (spelled, taken) := ofPair (cell94? CodeTable.jisX0212 b c) c
          (spelled, taken + 1)
      else ofPair (cell94? CodeTable.jisX0208 a b) b

/-- The character of two bytes in Shift_JIS. The bytes count the cells of all rows through; those of
rows 95 to 114 are for characters that users define. -/
def pairShiftJis? (a b : UInt8) : Option Char :=
  if within 0x40 0x7E b || within 0x80 0xFC b then
    let number := (a.toNat - (if a < 0xA0 then 0x81 else 0xC1)) * 188
      + (b.toNat - (if b < 0x7F then 0x40 else 0x41))
    let row := number / 94
    if row < 94 then CodeTable.jisX0208.char? row (number % 94)
    else if row < 114 then some (Char.ofNat (0xE000 + (number - 94 * 94)))
    else CodeTable.jisX0208More.char? (row - 114) (number % 94)
  else none

/-- What the bytes from a first one on spell in Shift_JIS. -/
def firstShiftJis (a : UInt8) (rest : Bytes) : Spelled :=
  if a ≤ 0x80 then ([Char.ofNat a.toNat], 0)
  else if within 0xA1 0xDF a then ([halfKana a], 0)
  else if a = 0xA0 ∨ 0xFC < a then ([unread], 0)
  else match rest with
    | [] => ([unread], 0)
    | b :: _ => ofPair (pairShiftJis? a b) b

/-- The character that users define for two bytes in GB 18030. There are three regions of them. -/
def userDefined? (a b : UInt8) : Option Char :=
  let cell (start width row column : Nat) := some (Char.ofNat (start + width * row + column))
  if within 0xAA 0xAF a && within 0xA1 0xFE b then
    cell 0xE000 94 (a.toNat - 0xAA) (b.toNat - 0xA1)
  else if within 0xF8 0xFE a && within 0xA1 0xFE b then
    cell 0xE234 94 (a.toNat - 0xF8) (b.toNat - 0xA1)
  else if within 0xA1 0xA7 a && within 0x40 0x7E b then
    cell 0xE4C6 96 (a.toNat - 0xA1) (b.toNat - 0x40)
  else if within 0xA1 0xA7 a && within 0x80 0xA0 b then
    cell 0xE4C6 96 (a.toNat - 0xA1) (b.toNat - 0x41)
  else none

/-- The character of two bytes in GB 18030. -/
def pairGb18030? (a b : UInt8) : Option Char :=
  if within 0x40 0x7E b || within 0x80 0xFE b then
    (CodeTable.gb18030.char? (a.toNat - 0x81) (b.toNat - (if b < 0x7F then 0x40 else 0x41))).or
      (userDefined? a b)
  else none

/-- The character with a number among those of four bytes. -/
def numbered? (number : Nat) : Option Char :=
  if (39419 < number ∧ number < 189000) ∨ 1237575 < number then none
  else if number = 7457 then some '\uE7C7'
  else (CodeTable.gb18030Runs.reverse.find? fun run => run.1 ≤ number).map fun run =>
    Char.ofNat (run.2 + (number - run.1))

/-- What the bytes from a first one on spell in GB 18030. A second byte that is a digit begins four
bytes, of which the last is a digit too; when they are not complete, none but the first is taken. -/
def firstGb18030 (a : UInt8) (rest : Bytes) : Spelled :=
  if a < 0x80 then ([Char.ofNat a.toNat], 0)
  else if a = 0x80 then (['\u20AC'], 0)
  else if a = 0xFF then ([unread], 0)
  else match rest with
    | [] => ([unread], 0)
    | b :: rest =>
      if within 0x30 0x39 b then
        match rest with
        | [] => ([unread], 1)
        | c :: rest =>
          if !within 0x81 0xFE c then ([unread], 0)
          else match rest with
            | [] => ([unread], 2)
            | d :: _ =>
              if within 0x30 0x39 d then
                let number := (((a.toNat - 0x81) * 10 + (b.toNat - 0x30)) * 126
                  + (c.toNat - 0x81)) * 10 + (d.toNat - 0x30)
                ([(numbered? number).getD unread], 3)
              else ([unread], 0)
      else ofPair (pairGb18030? a b) b

/-- What the bytes from a first one on spell. -/
def first : MultiByte → UInt8 → Bytes → Spelled
  | big5 => firstBig5
  | eucJp => firstEucJp
  | eucKr => firstEucKr
  | gb18030 => firstGb18030
  | shiftJis => firstShiftJis

/-- The characters that bytes spell. -/
def chars (encoding : MultiByte) : Bytes → List Char
  | [] => []
  | a :: rest =>
    (encoding.first a rest).1 ++ encoding.chars (rest.drop (encoding.first a rest).2)
termination_by bytes => bytes.length
decreasing_by simp only [List.length_drop, List.length_cons]; omega

end MultiByte

/-- What the bytes of a text in ISO-2022-JP mean. -/
inductive IsoMode where
  | ascii
  /-- ASCII with a yen sign and an overline in place of the backslash and the tilde. -/
  | roman
  | halfKana
  /-- Two bytes for a character of JIS X 0208. -/
  | kanji
  deriving DecidableEq, Repr

namespace IsoMode

open MultiByte (within unread)

/-- What an escape sequence chooses by the two bytes behind the escape. -/
def ofEscape? (a b : UInt8) : Option IsoMode :=
  if a = 0x28 ∧ b = 0x42 then some ascii
  else if a = 0x28 ∧ b = 0x4A then some roman
  else if a = 0x28 ∧ b = 0x49 then some halfKana
  else if a = 0x24 ∧ (b = 0x40 ∨ b = 0x42) then some kanji
  else none

/-- The character of one byte. -/
def single? (mode : IsoMode) (b : UInt8) : Option Char :=
  let plain := if b < 0x80 ∧ b ≠ 0x0E ∧ b ≠ 0x0F then some (Char.ofNat b.toNat) else none
  match mode with
  | ascii => plain
  | roman => if b = 0x5C then some '\u00A5' else if b = 0x7E then some '\u203E' else plain
  | halfKana => if within 0x21 0x5F b then some (MultiByte.halfKana (b + 0x80)) else none
  | kanji => none

/-- The characters that bytes spell in a mode. An escape sequence directly behind another one, which
was then of no use, is read as U+FFFD. -/
def chars (mode : IsoMode) (escaped : Bool) : Bytes → List Char
  | [] => []
  | a :: rest =>
    if a = 0x1B then
      match rest with
      | [] => [unread]
      | [b] => unread :: mode.chars false [b]
      | b :: c :: behind =>
        match ofEscape? b c with
        | some next => (if escaped then [unread] else []) ++ next.chars true behind
        | none => unread :: mode.chars false (b :: c :: behind)
    else if mode = kanji then
      if within 0x21 0x7E a then
        match rest with
        | [] => [unread]
        | b :: behind =>
          if b = 0x1B then unread :: mode.chars false (b :: behind)
          else if within 0x21 0x7E b then
            (CodeTable.jisX0208.char? (a.toNat - 0x21) (b.toNat - 0x21)).getD unread
              :: mode.chars false behind
          else unread :: mode.chars false behind
      else unread :: mode.chars false rest
    else (mode.single? a).getD unread :: mode.chars false rest

end IsoMode

end CloudIde
