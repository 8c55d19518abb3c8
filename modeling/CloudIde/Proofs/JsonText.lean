import CloudIde.Json.Lexeme

/-!
# Strings in JSON texts

A text that is written as a JSON string is read back (`text_renderText`). The reader goes byte by
byte and keeps the bytes of the text that it has read so far; what carries the induction over the
text is that the escaped form of one character adds the bytes of that character and nothing else
(`textFrom_escapedChar`).
-/

namespace CloudIde

namespace Bytes

theorem ofText_append (a b : String) : ofText (a ++ b) = ofText a ++ ofText b := by
  simp [ofText]

theorem ofText_ofList (chars : List Char) :
    ofText (String.ofList chars) = chars.flatMap String.utf8EncodeChar := by
  simp [ofText, List.utf8Encode]

theorem ofText_eq (text : String) : ofText text = text.toList.flatMap String.utf8EncodeChar := by
  rw [← ofText_ofList, String.ofList_toList]

theorem ofText_inj {a b : String} : ofText a = ofText b ↔ a = b := by
  constructor
  · intro h
    have htexts := congrArg text? h
    rw [text?_ofText, text?_ofText] at htexts
    exact Option.some.inj htexts
  · rintro rfl
    rfl

/-- A byte of ASCII spells the character of its number. -/
theorem utf8EncodeChar_ascii {b : UInt8} (h : b < 0x80) :
    String.utf8EncodeChar (Char.ofNat b.toNat) = [b] := by
  have hall : ∀ n : Fin 256, UInt8.ofFin n < 0x80 →
      String.utf8EncodeChar (Char.ofNat (UInt8.ofFin n).toNat) = [UInt8.ofFin n] := by
    decide +kernel
  exact hall b.toFin h

/-- The characters of bytes of ASCII are spelled by these bytes. -/
theorem ofText_ascii {bytes : Bytes} (h : ∀ b ∈ bytes, b < 0x80) :
    ofText (String.ofList (bytes.map fun b => Char.ofNat b.toNat)) = bytes := by
  rw [ofText_ofList]
  induction bytes with
  | nil => rfl
  | cons b rest ih =>
    rw [List.map_cons, List.flatMap_cons, utf8EncodeChar_ascii (h b List.mem_cons_self),
      ih fun c hc => h c (List.mem_cons_of_mem b hc)]
    rfl

end Bytes

namespace Json

open Lexeme

theorem plain_ofNat {n : Nat} (hn : n < 256) (h20 : 0x20 ≤ n) (h22 : n ≠ 0x22) (h5C : n ≠ 0x5C) :
    UInt8.ofNat n ≠ '"'.toUInt8 ∧ UInt8.ofNat n ≠ '\\'.toUInt8 ∧ ¬ UInt8.ofNat n < 0x20 := by
  have hnat : (UInt8.ofNat n).toNat = n := UInt8.toNat_ofNat_of_lt hn
  refine ⟨fun h => h22 ?_, fun h => h5C ?_, fun h => ?_⟩
  · rw [← hnat, h]
    rfl
  · rw [← hnat, h]
    rfl
  · have hlt := UInt8.lt_iff_toNat_lt.1 h
    rw [hnat] at hlt
    exact absurd hlt (Nat.not_lt.2 h20)

/-- The bytes of a character that is no control, quote or backslash are none either: those of a
character beyond ASCII are 128 and more. -/
theorem plain_utf8EncodeChar {c : Char} (hq : c ≠ '"') (hb : c ≠ '\\') (hc : 0x20 ≤ c.toNat) :
    ∀ b ∈ String.utf8EncodeChar c, b ≠ '"'.toUInt8 ∧ b ≠ '\\'.toUInt8 ∧ ¬ b < 0x20 := by
  have hmax : c.toNat < 0x110000 := by
    have hvalid := c.valid
    simp only [UInt32.isValidChar, Nat.isValidChar] at hvalid
    show c.val.toNat < 0x110000
    omega
  have hq : c.toNat ≠ 0x22 := fun h => hq (Char.toNat_inj.1 h)
  have hb : c.toNat ≠ 0x5C := fun h => hb (Char.toNat_inj.1 h)
  intro b hmem
  unfold String.utf8EncodeChar at hmem
  change c.val.toNat < _ at hmax
  change 0x20 ≤ c.val.toNat at hc
  change c.val.toNat ≠ _ at hq
  change c.val.toNat ≠ _ at hb
  simp only at hmem
  generalize c.val.toNat = v at *
  -- one case for each length of the form; only one byte alone can be below 128
  split at hmem
  · rw [List.mem_singleton.1 hmem]
    exact plain_ofNat (by omega) hc hq hb
  · split at hmem
    · simp only [List.mem_cons, List.not_mem_nil, or_false] at hmem
      rcases hmem with rfl | rfl <;> exact plain_ofNat (by omega) (by omega) (by omega) (by omega)
    · split at hmem
      · simp only [List.mem_cons, List.not_mem_nil, or_false] at hmem
        rcases hmem with rfl | rfl | rfl <;>
          exact plain_ofNat (by omega) (by omega) (by omega) (by omega)
      · simp only [List.mem_cons, List.not_mem_nil, or_false] at hmem
        rcases hmem with rfl | rfl | rfl | rfl <;>
          exact plain_ofNat (by omega) (by omega) (by omega) (by omega)

/-! ## One step of the reader -/

section

variable {b c : UInt8} {done rest : Bytes}

theorem textFrom_plain (hq : b ≠ '"'.toUInt8) (hb : b ≠ '\\'.toUInt8) (hc : ¬ b < 0x20) :
    textFrom .plain done (b :: rest) = textFrom .plain (b :: done) rest := by
  rw [textFrom, if_neg hq, if_neg hb, if_neg hc]

theorem textFrom_plains {bytes : Bytes}
    (h : ∀ b ∈ bytes, b ≠ '"'.toUInt8 ∧ b ≠ '\\'.toUInt8 ∧ ¬ b < 0x20) :
    textFrom .plain done (bytes ++ rest) = textFrom .plain (bytes.reverse ++ done) rest := by
  induction bytes generalizing done with
  | nil => rfl
  | cons b bytes ih =>
    obtain ⟨hq, hb, hc⟩ := h b List.mem_cons_self
    rw [List.cons_append, textFrom_plain hq hb hc,
      ih fun b' hb' => h b' (List.mem_cons_of_mem b hb')]
    simp

theorem textFrom_letter (h : escaped? b = some c) :
    textFrom .plain done ('\\'.toUInt8 :: b :: rest) = textFrom .plain (c :: done) rest := by
  rw [textFrom, if_neg (by decide), if_pos rfl, textFrom, h]

theorem textFrom_number (done rest : Bytes) {h l : UInt8} {n m : Nat} (hh : hexValue? h = some n)
    (hl : hexValue? l = some m) (hsmall : 16 * n + m < 0xD800) :
    textFrom .plain done
        ('\\'.toUInt8 :: 'u'.toUInt8 :: '0'.toUInt8 :: '0'.toUInt8 :: h :: l :: rest)
      = textFrom .plain (spelledBack (16 * n + m) ++ done) rest := by
  have hquote : '\\'.toUInt8 ≠ '"'.toUInt8 := by decide
  have hzero : hexValue? '0'.toUInt8 = some 0 := rfl
  have hu : escaped? 'u'.toUInt8 = none := rfl
  have hlow : (0xDC00 ≤ 16 * n + m && 16 * n + m ≤ 0xDFFF) = false := by simp; omega
  have hhigh : (0xD800 ≤ 16 * n + m && 16 * n + m ≤ 0xDBFF) = false := by simp; omega
  simp [textFrom, hquote, hzero, hu, hh, hl, hlow, hhigh]

end

/-! ## Characters and texts -/

theorem hexValue?_hexDigit {n : Nat} (h : n < 16) :
    (String.utf8EncodeChar (hexDigit n)).map hexValue? = [some n] := by
  have all : ∀ n < 16, (String.utf8EncodeChar (hexDigit n)).map hexValue? = [some n] := by decide
  exact all n h

/-- **The escaped form of a character reads as the character.** -/
theorem textFrom_escapedChar (c : Char) (done rest : Bytes) :
    textFrom .plain done ((escapedChar c).flatMap String.utf8EncodeChar ++ rest)
      = textFrom .plain ((String.utf8EncodeChar c).reverse ++ done) rest := by
  unfold escapedChar
  split
  · next h => subst h; exact textFrom_letter rfl
  · next hq =>
    split
    · next h => subst h; exact textFrom_letter rfl
    · next hb =>
      split
      · next hc =>
        rw [List.flatMap_singleton]
        exact textFrom_plains (plain_utf8EncodeChar hq hb hc)
      · next hc =>
        have hchar : ∀ n, c.toNat = n → c = Char.ofNat n := fun n h => by
          rw [← h, Char.ofNat_toNat]
        split
        · next h => rw [hchar _ h]; exact textFrom_letter rfl
        · split
          · next h => rw [hchar _ h]; exact textFrom_letter rfl
          · split
            · next h => rw [hchar _ h]; exact textFrom_letter rfl
            · split
              · next h => rw [hchar _ h]; exact textFrom_letter rfl
              · split
                · next h => rw [hchar _ h]; exact textFrom_letter rfl
                · -- the number of a control has the digits 0, 0, and its own two
                  have hhigh := hexValue?_hexDigit (n := c.toNat / 16) (by omega)
                  have hlow := hexValue?_hexDigit (n := c.toNat % 16) (by omega)
                  obtain ⟨h, hh, hhv⟩ := List.map_eq_singleton_iff.1 hhigh
                  obtain ⟨l, hl, hlv⟩ := List.map_eq_singleton_iff.1 hlow
                  have hnum : 16 * (c.toNat / 16) + c.toNat % 16 = c.toNat := by omega
                  have hstep := textFrom_number done rest hhv hlv (by omega)
                  rw [hnum, spelledBack, Char.ofNat_toNat] at hstep
                  rw [← hstep]
                  simp only [List.flatMap_cons, List.flatMap_nil, hh, hl]
                  rfl

theorem textFrom_escapedChars (chars : List Char) (done rest : Bytes) :
    textFrom .plain done ((chars.flatMap escapedChar).flatMap String.utf8EncodeChar ++ rest)
      = textFrom .plain ((chars.flatMap String.utf8EncodeChar).reverse ++ done) rest := by
  induction chars generalizing done with
  | nil => rfl
  | cons c chars ih =>
    rw [List.flatMap_cons, List.flatMap_append, List.append_assoc, textFrom_escapedChar, ih,
      List.flatMap_cons, List.reverse_append, List.append_assoc]

/-- A JSON string is a quote and what the reader of strings takes. -/
theorem ofText_renderText (text : String) (rest : Bytes) :
    Bytes.ofText (renderText text) ++ rest = '"'.toUInt8 ::
      ((text.toList.flatMap escapedChar).flatMap String.utf8EncodeChar ++ '"'.toUInt8 :: rest) := by
  have hquote : Bytes.ofText "\"" = ['"'.toUInt8] := by
    rw [Bytes.ofText_eq]
    rfl
  simp [renderText, Bytes.ofText_append, Bytes.ofText_ofList, hquote]

/-- **What is written as a JSON string is read back.** -/
theorem text_renderText (text : String) (rest : Bytes) :
    ∃ tail, Bytes.ofText (renderText text) ++ rest = '"'.toUInt8 :: tail
      ∧ Lexeme.text tail = .ok (text, rest) := by
  refine ⟨_, ofText_renderText text rest, ?_⟩
  unfold Lexeme.text
  rw [textFrom_escapedChars, textFrom, if_pos rfl, List.append_nil, List.reverse_reverse,
    ← Bytes.ofText_eq, Bytes.text?_ofText]

end Json

end CloudIde
