import CloudIde.Date.Civil
import CloudIde.Number.Digits

/-!
# Numerals of some width

A numeral has at least as many digits as it is wide, and no zero in front of more. Digits that make
a number are those of the number with zeros in front (`exists_zeros`), so a number has one numeral
of each width (`isNumeral_iff`).
-/

namespace CloudIde.Digits

/-- The decimal digits of a number: at least so many, and no zero in front of more. -/
structure IsNumeral (width n : Nat) (digits : List Char) : Prop where
  value : value? digits = some n
  width_le : width ≤ digits.length
  minimal : width < digits.length → digits.head? ≠ some '0'

/-- The digits of a number from the first that is not zero. -/
def significant (n : Nat) : List Char := if n = 0 then [] else Nat.toDigits 10 n

variable {value n width : Nat} {digits : List Char}

/-! ## Reading digits -/

theorem extend_append (value : Nat) (digits digits' : List Char) :
    extend value (digits ++ digits') = (extend value digits).bind fun n => extend n digits' := by
  induction digits generalizing value with
  | nil => rfl
  | cons c rest ih =>
    rw [List.cons_append, extend, extend]
    split
    · exact ih _
    · rfl

theorem value?_eq_some : value? digits = some n ↔ digits ≠ [] ∧ extend 0 digits = some n := by
  unfold value?
  split
  · next hempty => simp [List.isEmpty_iff.1 hempty]
  · next hempty => simp [mt List.isEmpty_iff.2 hempty]

theorem extend_zeros (count : Nat) (digits : List Char) :
    extend 0 (List.replicate count '0' ++ digits) = extend 0 digits := by
  induction count with
  | zero => rfl
  | succ count ih => exact ih

/-- What makes a number are digits. -/
theorem mem_digits (h : extend value digits = some n) : ∀ c ∈ digits, '0' ≤ c ∧ c ≤ '9' := by
  induction digits generalizing value with
  | nil => exact fun c hc => absurd hc List.not_mem_nil
  | cons d rest ih =>
    rw [extend] at h
    split at h
    · next hdigit =>
      intro c hc
      rcases List.mem_cons.1 hc with rfl | hc
      · exact hdigit
      · exact ih h c hc
    · exact absurd h (by simp)

theorem extend_digitChar (value : Nat) {d : Nat} (h : d < 10) :
    extend value [Nat.digitChar d] = some (10 * value + d) := by
  have hall : ∀ d : Fin 10, ('0' ≤ Nat.digitChar d.val ∧ Nat.digitChar d.val ≤ '9') ∧
      (Nat.digitChar d.val).toNat - '0'.toNat = d.val := by decide
  obtain ⟨hdigit, hvalue⟩ := hall ⟨d, h⟩
  rw [extend, if_pos hdigit, hvalue]
  rfl

/-- A number of more digits than one has the digits of its tenth, and one more. -/
theorem toDigits_split (h : 10 ≤ n) :
    Nat.toDigits 10 n = Nat.toDigits 10 (n / 10) ++ [Nat.digitChar (n % 10)] := by
  have hd : n % 10 < 10 := Nat.mod_lt n (by decide)
  have hsplit := Nat.toDigits_append_toDigits (by decide) (show 0 < n / 10 by omega) hd
  rw [Nat.div_add_mod, Nat.toDigits_of_lt_base hd] at hsplit
  exact hsplit.symm

/-- The digits of a number make it. -/
theorem extend_toDigits (n : Nat) : extend 0 (Nat.toDigits 10 n) = some n := by
  by_cases hsmall : n < 10
  · rw [Nat.toDigits_of_lt_base hsmall, extend_digitChar 0 hsmall, Nat.mul_zero, Nat.zero_add]
  · rw [toDigits_split (Nat.not_lt.1 hsmall), extend_append, extend_toDigits (n / 10)]
    refine (extend_digitChar (n / 10) (Nat.mod_lt n (by decide))).trans ?_
    rw [Nat.div_add_mod]

theorem extend_significant (n : Nat) : extend 0 (significant n) = some n := by
  unfold significant
  split
  · next hzero => rw [hzero]; rfl
  · exact extend_toDigits n

/-! ## From the number to its digits -/

theorem digitChar_toNat {c : Char} (h : '0' ≤ c ∧ c ≤ '9') :
    c.toNat - '0'.toNat < 10 ∧ Nat.digitChar (c.toNat - '0'.toNat) = c := by
  have hlow : '0'.toNat ≤ c.toNat := UInt32.le_iff_toNat_le.1 h.1
  have hhigh : c.toNat ≤ '9'.toNat := UInt32.le_iff_toNat_le.1 h.2
  have hnine : '9'.toNat = '0'.toNat + 9 := rfl
  have hlt : c.toNat - '0'.toNat < 10 := by omega
  have hall : ∀ d : Fin 10, Nat.digitChar d.val = Char.ofNat ('0'.toNat + d.val) := by decide
  refine ⟨hlt, (hall ⟨_, hlt⟩).trans ?_⟩
  rw [Nat.add_sub_cancel' hlow, Char.ofNat_toNat]

/-- Digits behind a number that is not zero are the last digits of what they make. -/
theorem toDigits_append (hpos : 0 < value) (h : extend value digits = some n) :
    0 < n ∧ Nat.toDigits 10 value ++ digits = Nat.toDigits 10 n := by
  induction digits generalizing value with
  | nil =>
    obtain rfl := Option.some.inj h
    exact ⟨hpos, List.append_nil _⟩
  | cons c rest ih =>
    rw [extend] at h
    split at h
    · next hdigit =>
      obtain ⟨hlt, hchar⟩ := digitChar_toNat hdigit
      have hsplit := Nat.toDigits_append_toDigits (by decide) hpos hlt
      rw [Nat.toDigits_of_lt_base hlt, hchar] at hsplit
      rw [List.append_cons, hsplit]
      exact ih (by omega) h
    · exact absurd h (by simp)

/-- Digits that make a number are its own ones, with zeros in front. -/
theorem exists_zeros (h : extend 0 digits = some n) :
    ∃ count, digits = List.replicate count '0' ++ significant n := by
  induction digits with
  | nil =>
    obtain rfl := Option.some.inj h
    exact ⟨0, rfl⟩
  | cons c rest ih =>
    rw [extend] at h
    split at h
    · next hdigit =>
      by_cases hzero : c = '0'
      · subst hzero
        obtain ⟨count, hrest⟩ := ih h
        exact ⟨count + 1, congrArg (List.cons '0') hrest⟩
      · obtain ⟨hlt, hchar⟩ := digitChar_toNat hdigit
        rw [Nat.mul_zero, Nat.zero_add] at h
        have hpos : 0 < c.toNat - '0'.toNat := by
          refine Nat.pos_of_ne_zero fun hnone => hzero ?_
          rw [← hchar, hnone]
          rfl
        obtain ⟨hn, hdigits⟩ := toDigits_append hpos h
        rw [Nat.toDigits_of_lt_base hlt, hchar] at hdigits
        refine ⟨0, ?_⟩
        rw [significant, if_neg (Nat.ne_of_gt hn)]
        exact hdigits
    · exact absurd h (by simp)

theorem head?_toDigits {n : Nat} (h : 0 < n) : (Nat.toDigits 10 n).head? ≠ some '0' := by
  by_cases hsmall : n < 10
  · have hall : ∀ d : Fin 10, 0 < d.val → Nat.digitChar d.val ≠ '0' := by decide
    rw [Nat.toDigits_of_lt_base hsmall]
    exact fun hhead => hall ⟨n, hsmall⟩ h (Option.some.inj hhead)
  · have hhead := head?_toDigits (show 0 < n / 10 by omega)
    rw [toDigits_split (Nat.not_lt.1 hsmall)]
    cases hdigits : Nat.toDigits 10 (n / 10) with
    | nil => exact absurd hdigits (List.ne_nil_of_length_pos Nat.length_toDigits_pos)
    | cons c rest =>
      rw [hdigits] at hhead
      exact hhead

theorem head?_significant (n : Nat) : (significant n).head? ≠ some '0' := by
  unfold significant
  split
  · decide
  · next hn => exact head?_toDigits (Nat.pos_of_ne_zero hn)

/-! ## Numerals -/

theorem toList_padded (hwidth : 0 < width) (n : Nat) : (CivilDate.padded width n).toList
    = List.replicate (width - (significant n).length) '0' ++ significant n := by
  have hchars : (CivilDate.padded width n).toList = List.replicate
      (width - (Nat.toDigits 10 n).length) '0' ++ Nat.toDigits 10 n := String.toList_ofList
  rw [hchars, significant]
  split
  · next hzero =>
    obtain ⟨width, rfl⟩ := Nat.exists_eq_succ_of_ne_zero (Nat.ne_of_gt hwidth)
    rw [hzero]
    exact (List.replicate_succ' ..).symm.trans (List.append_nil _).symm
  · rfl

/-- **A number has one numeral of each width.** -/
theorem isNumeral_iff (hwidth : 0 < width) :
    IsNumeral width n digits ↔ digits = (CivilDate.padded width n).toList := by
  rw [toList_padded hwidth]
  constructor
  · rintro ⟨hvalue, hlength, hminimal⟩
    obtain ⟨count, rfl⟩ := exists_zeros (value?_eq_some.1 hvalue).2
    rw [List.length_append, List.length_replicate] at hlength hminimal
    have hcount : count = width - (significant n).length := by
      cases count with
      | zero => omega
      | succ count =>
        -- a zero in front is there for the width only
        have hshort := mt hminimal fun hhead => hhead rfl
        omega
    rw [hcount]
  · rintro rfl
    have hlength : (List.replicate (width - (significant n).length) '0' ++ significant n).length
        = width - (significant n).length + (significant n).length := by simp
    refine ⟨value?_eq_some.2 ⟨List.ne_nil_of_length_pos (by omega), ?_⟩, by omega,
      fun hlong => ?_⟩
    · rw [extend_zeros, extend_significant]
    · have hnone : width - (significant n).length = 0 := by omega
      rw [hnone]
      exact head?_significant n

/-- A number of two digits has two digits in a numeral of this width. -/
theorem length_padded_two (h : n < 100) : (CivilDate.padded 2 n).toList.length = 2 := by
  have hshort : (significant n).length ≤ 2 := by
    unfold significant
    split
    · exact Nat.zero_le 2
    · exact (Nat.length_toDigits_le_iff (by decide) (by decide)).2 h
  rw [toList_padded (by decide), List.length_append, List.length_replicate]
  exact Nat.sub_add_cancel hshort

end CloudIde.Digits
