import CloudIde.Proofs.JsonRoundTrip
import Mathlib.Algebra.Ring.Int.Defs

/-!
# Flags and whole numbers that are read back

A whole number is written by its decimal digits, the first of which is not a zero unless the number
is zero. The digits are read one after the other, and what was read of them is the number that they
make so far (`digits_spelled`); so numbers of 32 bits are sound (`sound_int32`). Flags are words,
and a word is read to its end.
-/

namespace CloudIde.Json

open Lexeme

/-! ## Words -/

theorem word_append (tail rest : Bytes) : word tail (tail ++ rest) = .ok rest := by
  induction tail with
  | nil => rfl
  | cons letter tail ih =>
    rw [List.cons_append, word, if_pos rfl]
    exact ih

theorem toBytes_true : (Json.flag true).toBytes = 't'.toUInt8 :: trueTail := by
  show Bytes.ofText "true" = 't'.toUInt8 :: Bytes.ofText "rue"
  rw [Bytes.ofText_eq, Bytes.ofText_eq]
  rfl

theorem toBytes_false : (Json.flag false).toBytes = 'f'.toUInt8 :: falseTail := by
  show Bytes.ofText "false" = 'f'.toUInt8 :: Bytes.ofText "alse"
  rw [Bytes.ofText_eq, Bytes.ofText_eq]
  rfl

theorem sound_flag : (Shape.leaf .flag).Sound where
  starts v := by
    rw [Shape.toJson]
    cases hv : (v : Bool) with
    | true => exact ⟨_, _, toBytes_true, by decide⟩
    | false => exact ⟨_, _, toBytes_false, by decide⟩
  reads v rest _ := by
    rw [Shape.toJson, Shape.read, Leaf.read]
    cases hv : (v : Bool) with
    | true =>
      have hbytes : (Leaf.toJson .flag true).toBytes = 't'.toUInt8 :: trueTail := toBytes_true
      rw [hbytes, List.cons_append, skipSpace_cons (by decide)]
      simp only [Leaf.readFrom, if_true, word_append]
      rfl
    | false =>
      have hbytes : (Leaf.toJson .flag false).toBytes = 'f'.toUInt8 :: falseTail := toBytes_false
      have hne : 'f'.toUInt8 ≠ 't'.toUInt8 := by decide
      rw [hbytes, List.cons_append, skipSpace_cons (by decide)]
      simp only [Leaf.readFrom, if_neg hne, if_true, word_append]
      rfl

/-! ## Digits -/

/-- The byte of a decimal digit. -/
def digitByte (d : Nat) : UInt8 := UInt8.ofNat (0x30 + d)

theorem digit?_digitByte {d : Nat} (h : d < 10) : digit? (digitByte d) = some d := by
  have hall : ∀ d : Fin 10, digit? (digitByte d.val) = some d.val := by decide
  exact hall ⟨d, h⟩

theorem utf8EncodeChar_digitChar {d : Nat} (h : d < 10) :
    String.utf8EncodeChar (Nat.digitChar d) = [digitByte d] := by
  have hall : ∀ d : Fin 10, String.utf8EncodeChar (Nat.digitChar d.val) = [digitByte d.val] := by
    decide
  exact hall ⟨d, h⟩

/-- A number of one digit is written by this digit. -/
theorem ofText_digit {d : Nat} (h : d < 10) : Bytes.ofText (toString d) = [digitByte d] := by
  have hchars : toString d = String.ofList [Nat.digitChar d] :=
    congrArg String.ofList (Nat.toDigits_of_lt_base h)
  rw [hchars, Bytes.ofText_ofList, List.flatMap_singleton, utf8EncodeChar_digitChar h]

/-- A number of more digits is written by all digits but the last, and the last. -/
theorem ofText_digits {q d : Nat} (hq : 0 < q) (hd : d < 10) :
    Bytes.ofText (toString (10 * q + d)) = Bytes.ofText (toString q) ++ [digitByte d] := by
  have hsplit := Nat.toDigits_append_toDigits (b := 10) (by decide) hq hd
  have hchars : toString (10 * q + d) = toString q ++ toString d := by
    show String.ofList (Nat.toDigits 10 (10 * q + d)) = _
    rw [← hsplit, String.ofList_append]
    rfl
  rw [hchars, Bytes.ofText_append, ofText_digit hd]

/-- **The digits of a number are read as the number**, from the first of them on, which is no
zero. -/
theorem digits_spelled (n : Nat) (hpos : 0 < n) (hfits : n < Nat.pow 2 64) :
    ∃ b tail d, Bytes.ofText (toString n) = b :: tail ∧ digit? b = some (d + 1) ∧
      ∀ count rest, digits (d + 1) count (tail ++ rest) = digits n (count + tail.length) rest := by
  by_cases hsmall : n < 10
  · obtain ⟨d, rfl⟩ := Nat.exists_eq_succ_of_ne_zero (Nat.ne_of_gt hpos)
    exact ⟨_, [], d, ofText_digit hsmall, digit?_digitByte hsmall, fun count rest => rfl⟩
  · -- the digits but the last are those of the quotient, and are read first
    have hq : 0 < n / 10 := by omega
    have hd : n % 10 < 10 := Nat.mod_lt n (by decide)
    have hn : n / 10 * 10 + n % 10 = n := by omega
    obtain ⟨b, tail, d, hbytes, hb, hread⟩ := digits_spelled (n / 10) hq (by omega)
    refine ⟨b, tail ++ [digitByte (n % 10)], d, ?_, hb, fun count rest => ?_⟩
    · have hsplit := ofText_digits hq hd
      rw [show 10 * (n / 10) + n % 10 = n by omega, hbytes] at hsplit
      exact hsplit
    · rw [List.append_assoc, List.singleton_append, hread, digits, digit?_digitByte hd]
      simp only [hn, if_pos hfits, List.length_append, List.length_singleton]
      rfl

/-! ## Numbers -/

/-- What follows a value does not continue a number. -/
theorem Follows.ends {rest : Bytes} (h : Follows rest) :
    rest = [] ∨ ∃ b tail, rest = b :: tail ∧ digit? b = none ∧ b ≠ '.'.toUInt8 ∧
      startsWithExponent rest = false := by
  cases rest with
  | nil => exact Or.inl rfl
  | cons b tail =>
    refine Or.inr ⟨b, tail, rfl, ?_⟩
    rcases h b rfl with rfl | rfl | rfl
    · exact ⟨by decide, by decide, rfl⟩
    · exact ⟨by decide, by decide, rfl⟩
    · exact ⟨by decide, by decide, rfl⟩

theorem digits_end {rest : Bytes} (h : Follows rest) (value count : Nat) :
    digits value count rest = (value, count, rest) := by
  rcases h.ends with rfl | ⟨b, tail, rfl, hb, -⟩
  · rfl
  · rw [digits, hb]

theorem skipDigits_end {rest : Bytes} (h : Follows rest) (count : Nat) :
    skipDigits count rest = (count, rest) := by
  rcases h.ends with rfl | ⟨b, tail, rfl, hb, -⟩
  · rfl
  · rw [skipDigits, hb]

theorem startsWithDigit_end {rest : Bytes} (h : Follows rest) : startsWithDigit rest = false := by
  rcases h.ends with rfl | ⟨b, tail, rfl, hb, -⟩
  · rfl
  · rw [startsWithDigit, hb]
    rfl

theorem afterInteger_end {rest : Bytes} (h : Follows rest) (negative : Bool) (n : Nat) :
    afterInteger negative n 0 rest = afterInteger.whole negative n 0 rest := by
  rcases h.ends with rfl | ⟨b, tail, rfl, -, hpoint, hexponent⟩
  · rfl
  · rw [afterInteger, if_neg hpoint, hexponent]
    rfl

/-- The digits of a number that is not zero are read, and what follows them is left. -/
theorem number_spelled (negative : Bool) {n : Nat} (hpos : 0 < n) (hfits : n < Nat.pow 2 64)
    {rest : Bytes} (h : Follows rest) :
    number negative (Bytes.ofText (toString n) ++ rest)
      = afterInteger.whole negative n 0 rest := by
  obtain ⟨b, tail, d, hbytes, hb, hread⟩ := digits_spelled n hpos hfits
  rw [hbytes, List.cons_append, number, hb]
  simp only [hread, digits_end h, skipDigits_end h, afterInteger_end h]

theorem number_zero {rest : Bytes} (h : Follows rest) :
    number false (Bytes.ofText (toString 0) ++ rest) = .ok (.natural 0, rest) := by
  rw [ofText_digit (by decide), List.singleton_append, number, digit?_digitByte (by decide)]
  simp only [startsWithDigit_end h, afterInteger_end h]
  rfl

/-- The byte begins a number. -/
def StartsNumber (b : UInt8) : Prop := b = '-'.toUInt8 ∨ (digit? b).isSome = true

instance (b : UInt8) : Decidable (StartsNumber b) := inferInstanceAs (Decidable (_ ∨ _))

/-- What begins a number begins a value, and no word. -/
theorem StartsNumber.starts {b : UInt8} (h : StartsNumber b) :
    Starts b ∧ b ≠ 'n'.toUInt8 ∧ b ≠ 't'.toUInt8 ∧ b ≠ 'f'.toUInt8 := by
  have hall : ∀ n : Fin 256, StartsNumber (UInt8.ofFin n) →
      Starts (UInt8.ofFin n) ∧ UInt8.ofFin n ≠ 'n'.toUInt8 ∧ UInt8.ofFin n ≠ 't'.toUInt8
        ∧ UInt8.ofFin n ≠ 'f'.toUInt8 := by decide +kernel
  exact hall b.toFin h

theorem minus_not_digit {b : UInt8} (h : (digit? b).isSome = true) : b ≠ '-'.toUInt8 := by
  rintro rfl
  exact absurd h (by decide)

/-- The text of a natural number begins with a digit, and is read as the number. -/
theorem natural_spelled (n : Nat) (hfits : n < Nat.pow 2 64) :
    ∃ b tail, Bytes.ofText (toString n) = b :: tail ∧ (digit? b).isSome = true ∧
      ∀ rest, Follows rest → number false (b :: (tail ++ rest)) = .ok (.natural n, rest) := by
  by_cases hpos : 0 < n
  · obtain ⟨b, tail, d, hbytes, hb, -⟩ := digits_spelled n hpos hfits
    refine ⟨b, tail, hbytes, by rw [hb]; rfl, fun rest hrest => ?_⟩
    rw [← List.cons_append, ← hbytes, number_spelled false hpos hfits hrest]
    rfl
  · obtain rfl : n = 0 := by omega
    refine ⟨_, [], ofText_digit (by decide), by decide, fun rest hrest => ?_⟩
    have hzero := number_zero hrest
    rw [ofText_digit (by decide)] at hzero
    exact hzero

theorem toBytes_negative (n : Nat) :
    (Json.integer (Int.negSucc n)).toBytes = '-'.toUInt8 :: Bytes.ofText (toString (n + 1)) := by
  have hminus : Bytes.ofText "-" = ['-'.toUInt8] := by
    rw [Bytes.ofText_eq]
    rfl
  show Bytes.ofText ("-" ++ toString (n + 1)) = _
  rw [Bytes.ofText_append, hminus]
  rfl

/-- A whole number of 64 bits is read by its text. -/
theorem readNumber_integer (wanted : Wanted) (n : Int) (hlow : -(2 ^ 63) ≤ n) (hhigh : n < 2 ^ 64) :
    ∃ b tail number, (Json.integer n).toBytes = b :: tail ∧ StartsNumber b ∧
      (number.toJson : Json) = .integer n ∧
      ∀ rest, Follows rest → readNumber wanted b (tail ++ rest) = .ok (number, rest) := by
  cases n with
  | ofNat m =>
    have hsize : (m : Int) < 2 ^ 64 := hhigh
    have hfits : m < 2 ^ 64 := by omega
    obtain ⟨b, tail, hbytes, hdigit, hread⟩ := natural_spelled m hfits
    refine ⟨b, tail, .natural m, hbytes, Or.inr hdigit, rfl, fun rest hrest => ?_⟩
    unfold readNumber
    rw [if_neg (minus_not_digit hdigit), if_pos hdigit]
    exact hread rest hrest
  | negSucc m =>
    have hsize : m + 1 ≤ 2 ^ 63 := by omega
    have hfits : m + 1 < 2 ^ 64 := by omega
    refine ⟨_, _, .negative (m + 1), toBytes_negative m, Or.inl rfl, rfl, fun rest hrest => ?_⟩
    unfold readNumber
    rw [if_pos rfl, number_spelled true (Nat.succ_pos m) hfits hrest]
    unfold afterInteger.whole
    rw [if_neg (by simp), if_neg (by simp), if_pos (by simpa using hsize)]

/-- The 32-bit integer that a number was written for. -/
theorem int32OfNumber_toInt (v : Int32) (number : Number)
    (h : (number.toJson : Json) = .integer v.toInt) : int32OfNumber number = .ok v := by
  have hlow : -2 ^ 31 ≤ v.toInt := v.le_toInt
  have hhigh : v.toInt < 2 ^ 31 := v.toInt_lt
  cases number with
  | natural n =>
    have hn : (n : Int) = v.toInt := Json.integer.inj h
    have hfits : n < Nat.pow 2 31 := show n < 2 ^ 31 by omega
    unfold int32OfNumber
    simp only [if_pos hfits, hn, Int32.ofInt_toInt]
  | negative n =>
    have hn : -(n : Int) = v.toInt := Json.integer.inj h
    have hfits : n ≤ Nat.pow 2 31 := show n ≤ 2 ^ 31 by omega
    unfold int32OfNumber
    simp only [if_pos hfits, hn, Int32.ofInt_toInt]
  | double x => exact absurd h Json.noConfusion

/-- A number of 32 bits is read by its text. -/
theorem readNumber_int32 (wanted : Wanted) (v : Int32) :
    ∃ b tail number, (Json.integer v.toInt).toBytes = b :: tail ∧ StartsNumber b ∧
      (number.toJson : Json) = .integer v.toInt ∧
      ∀ rest, Follows rest → readNumber wanted b (tail ++ rest) = .ok (number, rest) := by
  have hlow : -2 ^ 31 ≤ v.toInt := v.le_toInt
  have hhigh : v.toInt < 2 ^ 31 := v.toInt_lt
  exact readNumber_integer wanted v.toInt (by omega) (by omega)

/-- **Numbers of 32 bits are sound.** -/
theorem sound_int32 : (Shape.leaf .int32).Sound where
  starts v := by
    rw [Shape.toJson]
    obtain ⟨b, tail, -, hbytes, hnumber, -⟩ := readNumber_int32 .int32 v
    exact ⟨b, tail, hbytes, hnumber.starts.1⟩
  reads v rest hrest := by
    obtain ⟨b, tail, number, hbytes, hstarts, hnumber, hread⟩ := readNumber_int32 .int32 v
    have hbytes' : (Leaf.toJson .int32 v).toBytes = b :: tail := hbytes
    rw [Shape.toJson, Shape.read, hbytes', List.cons_append, Leaf.read,
      skipSpace_cons hstarts.starts.1.1]
    simp only [Leaf.readFrom, hread rest hrest, ok_bind, int32OfNumber_toInt v number hnumber]
    rfl

end CloudIde.Json
