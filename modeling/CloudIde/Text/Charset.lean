import CloudIde.Text.Blank
import CloudIde.Text.Case
import CloudIde.Text.MultiByte
import CloudIde.Text.SingleByte
import CloudIde.Text.Utf8

/-!
# Texts in a named encoding

A label names an encoding; labels are compared without regard to case and to blanks around them.
What spells nothing in an encoding is read as U+FFFD. A byte order mark at the front of the bytes
decides over the label and is left out.
-/

namespace CloudIde

/-- An encoding of texts. -/
inductive Charset where
  | utf8
  | utf16 (bigEndian : Bool)
  | singleByte (encoding : SingleByte)
  /-- An encoding whose upper half has characters of its own. -/
  | userDefined
  /-- An encoding that is not read at all. -/
  | replacement
  | multiByte (encoding : MultiByte)
  /-- ISO-2022-JP, whose escape sequences choose what bytes mean. -/
  | iso2022Jp

namespace Charset

/-- The labels of UTF-8. -/
def utf8Labels : List String :=
  ["unicode-1-1-utf-8", "unicode11utf8", "unicode20utf8", "utf-8", "utf8", "x-unicode20utf8"]

/-- The labels of UTF-16 with the low byte first. -/
def littleEndianLabels : List String :=
  ["csunicode", "iso-10646-ucs-2", "ucs-2", "unicode", "unicodefeff", "utf-16", "utf-16le"]

/-- The labels of UTF-16 with the high byte first. -/
def bigEndianLabels : List String := ["unicodefffe", "utf-16be"]

/-- The labels of encodings that are not read at all. -/
def replacementLabels : List String :=
  ["csiso2022kr", "hz-gb-2312", "iso-2022-cn", "iso-2022-cn-ext", "iso-2022-kr", "replacement"]

/-- The labels of encodings with several bytes for a character. What GBK spells is spelled so in
GB 18030. -/
def multiByteLabels : MultiByte → List String
  | .big5 => ["big5", "big5-hkscs", "cn-big5", "csbig5", "x-x-big5"]
  | .eucJp => ["cseucpkdfmtjapanese", "euc-jp", "x-euc-jp"]
  | .eucKr => ["cseuckr", "csksc56011987", "euc-kr", "iso-ir-149", "korean", "ks_c_5601-1987",
    "ks_c_5601-1989", "ksc5601", "ksc_5601", "windows-949"]
  | .gb18030 => ["chinese", "csgb2312", "csiso58gb231280", "gb18030", "gb2312", "gb_2312",
    "gb_2312-80", "gbk", "iso-ir-58", "x-gbk"]
  | .shiftJis => ["csshiftjis", "ms932", "ms_kanji", "shift-jis", "shift_jis", "sjis",
    "windows-31j", "x-sjis"]

/-- The labels of ISO-2022-JP. -/
def iso2022JpLabels : List String := ["csiso2022jp", "iso-2022-jp"]

/-- The white space that may stand around a label. -/
def isLabelSpace (c : Char) : Bool :=
  c = ' ' || c = '\t' || c = '\n' || c = '\r' || c.toNat = 0x0C

/-- The encoding that a label names. -/
def ofLabel? (label : String) : Option Charset :=
  let label := trimEndChars isLabelSpace (label.toList.dropWhile isLabelSpace)
  let label := lowerName (String.ofList label)
  if label ∈ utf8Labels then some utf8
  else if label ∈ littleEndianLabels then some (utf16 false)
  else if label ∈ bigEndianLabels then some (utf16 true)
  else if label = "x-user-defined" then some userDefined
  else if label ∈ replacementLabels then some replacement
  else if label ∈ iso2022JpLabels then some iso2022Jp
  else match MultiByte.all.find? fun encoding => label ∈ multiByteLabels encoding with
    | some encoding => some (multiByte encoding)
    | none => (SingleByte.all.find? fun encoding => label ∈ encoding.labels).map singleByte

/-- The units of UTF-16 that bytes make, and whether a byte is left over. -/
def units (bigEndian : Bool) : Bytes → List Nat × Bool
  | [] => ([], false)
  | [_] => ([], true)
  | a :: b :: rest =>
    let unit := if bigEndian then 256 * a.toNat + b.toNat else 256 * b.toNat + a.toNat
    let (others, left) := units bigEndian rest
    (unit :: others, left)

/-- Whether a unit is the first half of a character. -/
def isLead (unit : Nat) : Bool := 0xD800 ≤ unit && unit < 0xDC00

/-- Whether a unit is the second half of a character. -/
def isTrail (unit : Nat) : Bool := 0xDC00 ≤ unit && unit < 0xE000

/-- The characters that units spell. A half alone is read as U+FFFD, and so is a byte left over,
together with a first half before it. -/
def ofUnits (left : Bool) : List Nat → List Char
  | [] => if left then ['\uFFFD'] else []
  | [unit] =>
    if isLead unit then ['\uFFFD']
    else (if isTrail unit then '\uFFFD' else Char.ofNat unit) :: ofUnits left []
  | unit :: next :: rest =>
    if isLead unit then
      if isTrail next then
        Char.ofNat (0x10000 + (unit - 0xD800) * 0x400 + (next - 0xDC00)) :: ofUnits left rest
      else '\uFFFD' :: ofUnits left (next :: rest)
    else (if isTrail unit then '\uFFFD' else Char.ofNat unit) :: ofUnits left (next :: rest)

/-- The text that bytes spell in an encoding. -/
def decode (charset : Charset) (bytes : Bytes) : String :=
  match charset with
  | utf8 => Utf8.lossy bytes
  | utf16 bigEndian =>
    let (list, left) := units bigEndian bytes
    String.ofList (ofUnits left list)
  | singleByte encoding => String.ofList (bytes.map encoding.char)
  | userDefined => String.ofList (bytes.map fun b =>
      Char.ofNat (if b < 0x80 then b.toNat else 0xF700 + b.toNat))
  | replacement => if bytes.isEmpty then "" else "\uFFFD"
  | multiByte encoding => String.ofList (encoding.chars bytes)
  | iso2022Jp => String.ofList (IsoMode.ascii.chars false bytes)

/-- The text that bytes spell, in the encoding of a byte order mark at their front, and in the given
one when there is none. -/
def decodeMarked (charset : Charset) : Bytes → String
  | 0xEF :: 0xBB :: 0xBF :: rest => Utf8.lossy rest
  | 0xFF :: 0xFE :: rest => (utf16 false).decode rest
  | 0xFE :: 0xFF :: rest => (utf16 true).decode rest
  | bytes => charset.decode bytes

end Charset

end CloudIde
