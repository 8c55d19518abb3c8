import CloudIde.Proofs.JsonText
import CloudIde.Proofs.Table
import Mathlib.Data.Nat.ModEq
import Mathlib.Data.Set.List

/-!
# The order in which rows are listed

Rows are listed in the order of some of their cells. Here it is shown that the list is sorted
(`Table.select_sorted`), and that cells with texts are in the order of the bytes that spell these
(`Bytes.ofText_lt_ofText`): UTF-8 keeps the order of texts. The first byte of a character tells how
many follow, and it never falls from one character to a greater one; where it stays, the bytes that
follow decide.
-/

namespace CloudIde

/-! ## One character -/

/-- The last `k` digits of a number to the base of 64, each as a byte that continues a character. -/
def continuation (n : Nat) : Nat → Bytes
  | 0 => []
  | k + 1 => UInt8.ofNat (n / 64 ^ k % 64 + 128) :: continuation n k

theorem continuation_lt {m n k : Nat} (h : m % 64 ^ k < n % 64 ^ k) (xs ys : Bytes) :
    continuation m k ++ xs < continuation n k ++ ys := by
  induction k with
  | zero => omega
  | succ k ih =>
    rw [Nat.mod_pow_succ, Nat.mod_pow_succ] at h
    have hm : m % 64 ^ k < 64 ^ k := Nat.mod_lt m (Nat.pow_pos (by decide))
    have hn : n % 64 ^ k < 64 ^ k := Nat.mod_lt n (Nat.pow_pos (by decide))
    simp only [continuation, List.cons_append, List.cons_lt_cons_iff]
    -- the greatest digit decides unless both have it
    rcases Nat.lt_trichotomy (m / 64 ^ k % 64) (n / 64 ^ k % 64) with hlt | heq | hgt
    · refine Or.inl (UInt8.lt_iff_toNat_lt.2 ?_)
      rw [UInt8.toNat_ofNat', UInt8.toNat_ofNat']
      omega
    · rw [heq] at h ⊢
      exact Or.inr ⟨rfl, ih (by omega)⟩
    · have hfalls := Nat.mul_le_mul_left (64 ^ k) hgt
      rw [Nat.mul_succ] at hfalls
      omega

/-- The first byte of a character with a number, and how many continue it. -/
inductive Led (n : Nat) : (first count : Nat) → Prop
  | one (below : n < 128) : Led n n 0
  | two (above : 128 ≤ n) (below : n < 2048) : Led n (n / 64 + 192) 1
  | three (above : 2048 ≤ n) (below : n < 65536) : Led n (n / 4096 + 224) 2
  | four (above : 65536 ≤ n) (below : n < 1114112) : Led n (n / 262144 + 240) 3

theorem utf8EncodeChar_led (c : Char) : ∃ first count, Led c.toNat first count ∧
    String.utf8EncodeChar c = UInt8.ofNat first :: continuation c.toNat count := by
  have hvalid := c.valid
  simp only [UInt32.isValidChar, Nat.isValidChar] at hvalid
  unfold String.utf8EncodeChar Char.toNat
  generalize c.val.toNat = n at hvalid
  simp only
  split
  · exact ⟨_, _, .one (by omega), rfl⟩
  · split
    · refine ⟨_, _, .two (by omega) (by omega), ?_⟩
      simp [continuation, show n / 64 % 32 = n / 64 by omega]
    · split
      · refine ⟨_, _, .three (by omega) (by omega), ?_⟩
        simp [continuation, show n / 4096 % 16 = n / 4096 by omega]
      · refine ⟨_, _, .four (by omega) (by omega), ?_⟩
        simp [continuation, show n / 262144 % 8 = n / 262144 by omega]

theorem Led.first_lt {n first count : Nat} (h : Led n first count) : first < 256 := by
  cases h <;> omega

/-- The first byte decides, or the digits that it leaves. -/
theorem Led.lt_or {m n a b k l : Nat} (hm : Led m a k) (hn : Led n b l) (hlt : m < n) :
    a < b ∨ a = b ∧ k = l ∧ m % 64 ^ k < n % 64 ^ k := by
  cases hm <;> cases hn <;> omega

theorem utf8EncodeChar_lt {c d : Char} (h : c < d) (xs ys : Bytes) :
    String.utf8EncodeChar c ++ xs < String.utf8EncodeChar d ++ ys := by
  obtain ⟨a, k, ha, hc⟩ := utf8EncodeChar_led c
  obtain ⟨b, l, hb, hd⟩ := utf8EncodeChar_led d
  have hafits := ha.first_lt
  have hbfits := hb.first_lt
  rw [hc, hd, List.cons_append, List.cons_append, List.cons_lt_cons_iff]
  rcases ha.lt_or hb (UInt32.lt_iff_toNat_lt.1 (Char.lt_def.1 h)) with hlt | ⟨rfl, rfl, hrest⟩
  · refine Or.inl (UInt8.lt_iff_toNat_lt.2 ?_)
    rw [UInt8.toNat_ofNat', UInt8.toNat_ofNat']
    omega
  · exact Or.inr ⟨rfl, continuation_lt hrest xs ys⟩

/-! ## Texts -/

theorem flatMap_utf8EncodeChar_lt {cs ds : List Char} (h : cs < ds) :
    cs.flatMap String.utf8EncodeChar < ds.flatMap String.utf8EncodeChar := by
  induction cs generalizing ds with
  | nil =>
    cases ds with
    | nil => exact absurd h (List.lt_irrefl _)
    | cons d ds =>
      obtain ⟨first, count, -, hd⟩ := utf8EncodeChar_led d
      rw [List.flatMap_cons, hd]
      exact List.nil_lt_cons _ _
  | cons c cs ih =>
    cases ds with
    | nil => exact absurd h (List.not_lt_nil _)
    | cons d ds =>
      rw [List.flatMap_cons, List.flatMap_cons]
      rcases List.cons_lt_cons_iff.1 h with hlt | ⟨rfl, hlt⟩
      · exact utf8EncodeChar_lt hlt _ _
      · exact List.append_left_lt (ih hlt)

namespace Bytes

/-- **Texts are ordered like the bytes that spell them.** -/
theorem ofText_lt_ofText {a b : String} : ofText a < ofText b ↔ a < b := by
  have hkept {a b : String} (h : a < b) : ofText a < ofText b := by
    rw [ofText_eq, ofText_eq]
    exact flatMap_utf8EncodeChar_lt (String.lt_iff.1 h)
  refine ⟨fun h => Decidable.byContradiction fun hnot => ?_, hkept⟩
  -- texts that are not in order are one text, or in order the other way round
  by_cases hback : b < a
  · exact List.lt_irrefl _ (List.lt_trans h (hkept hback))
  · have hsame : a = b := String.le_antisymm (String.not_lt.1 hback) (String.not_lt.1 hnot)
    exact List.lt_irrefl _ (hsame ▸ h)

end Bytes

/-! ## Cells -/

namespace Cell

theorem le_total (a b : Cell) : a.le b = true ∨ b.le a = true := by
  cases a <;> cases b <;> simp [le, Int.le_total, String.le_total]

theorem le_trans {a b c : Cell} (hab : a.le b = true) (hbc : b.le c = true) : a.le c = true := by
  cases a <;> cases b <;> cases c <;> simp_all [le]
  · exact Int.le_trans hab hbc
  · exact String.le_trans hab hbc

theorem le_antisymm {a b : Cell} (hab : a.le b = true) (hba : b.le a = true) : a = b := by
  cases a <;> cases b <;> simp_all [le]
  · exact Int.le_antisymm hab hba
  · exact String.le_antisymm hab hba

theorem listLe_total (as bs : List Cell) : (listLe as bs || listLe bs as) = true := by
  induction as generalizing bs with
  | nil => rfl
  | cons a as ih =>
    cases bs with
    | nil => rfl
    | cons b bs =>
      by_cases hab : a = b
      · simpa [listLe, hab] using ih bs
      · have hba : ¬ b = a := fun he => hab he.symm
        simpa [listLe, hab, hba] using le_total a b

theorem listLe_trans (as bs cs : List Cell) (hab : listLe as bs = true)
    (hbc : listLe bs cs = true) : listLe as cs = true := by
  induction as generalizing bs cs with
  | nil => rfl
  | cons a as ih =>
    cases bs with
    | nil => exact absurd hab (by simp [listLe])
    | cons b bs =>
      cases cs with
      | nil => exact absurd hbc (by simp [listLe])
      | cons c cs =>
        simp only [listLe] at hab hbc ⊢
        by_cases hsame : a = b
        · subst hsame
          by_cases hsame' : a = c
          · rw [if_pos rfl] at hab
            rw [if_pos hsame'] at hbc ⊢
            exact ih bs cs hab hbc
          · rwa [if_neg hsame'] at hbc ⊢
        · rw [if_neg hsame] at hab
          by_cases hsame' : b = c
          · subst hsame'
            rwa [if_neg hsame]
          · rw [if_neg hsame'] at hbc
            -- the greater of two cells does not stand before the smaller one
            have hne : a ≠ c := fun he => hsame (le_antisymm hab (he ▸ hbc))
            rw [if_neg hne]
            exact le_trans hab hbc

/-- Rows that are sorted by a text, which is another one in every row, ascend by it. -/
theorem listLe_text {a b : String} (h : listLe [.text a] [.text b] = true) (hne : a ≠ b) :
    a < b := by
  have hle : a ≤ b := by simpa [listLe, le, hne] using h
  exact Std.lt_of_le_of_ne hle hne

/-- Rows that are sorted by two texts ascend by the first one and then by the second one, which is
another one in every row. -/
theorem listLe_texts {a a' b b' : String}
    (h : listLe [.text a, .text a'] [.text b, .text b'] = true) (hne : a' ≠ b') :
    a < b ∨ a = b ∧ a' < b' := by
  by_cases hsame : a = b
  · have hle : a' ≤ b' := by simpa [listLe, le, hsame, hne] using h
    exact Or.inr ⟨hsame, Std.lt_of_le_of_ne hle hne⟩
  · have hle : a ≤ b := by simpa [listLe, le, hsame] using h
    exact Or.inl (Std.lt_of_le_of_ne hle hsame)

end Cell

/-- **What is selected is sorted.** -/
theorem Table.select_sorted {ρ : Type} [Row ρ] (t : Table ρ) (p : ρ → Bool)
    (order : ρ → List Cell) :
    (t.select p order).Pairwise fun a b => Cell.listLe (order a) (order b) = true :=
  List.pairwise_mergeSort (fun a b c => Cell.listLe_trans (order a) (order b) (order c))
    (fun a b => Cell.listLe_total (order a) (order b)) _

/-- Rows that are written as values are selected as some values, in order and with different
keys. -/
theorem Table.select_map {ι ρ : Type} [Row ρ] {t : Table ρ} (hm : t.layout = .made) {f : ι → ρ}
    (hrows : ∀ row ∈ t.rows, ∃ w, row = f w) (p : ρ → Bool) (order : ρ → List Cell) :
    ∃ ws : List ι, t.select p order = ws.map f ∧ ws.Pairwise fun v w =>
      Cell.listLe (order (f v)) (order (f w)) = true ∧ Row.key (f v) ≠ Row.key (f w) := by
  have hrange : t.select p order ∈ Set.range (List.map f) := by
    rw [Set.range_list_map]
    intro row hrow
    obtain ⟨w, rfl⟩ := hrows row (mem_select.1 hrow).1
    exact ⟨w, rfl⟩
  obtain ⟨ws, hws⟩ := hrange
  have hsorted := (t.select_sorted p order).and (nodup_select hm p order)
  rw [← hws] at hsorted
  refine ⟨ws, hws.symm, (List.pairwise_map.1 hsorted).imp_of_mem fun {v w} hv hw ⟨hle, hne⟩ => ?_⟩
  have hmem {w : ι} (hw : w ∈ ws) : f w ∈ t.rows :=
    (mem_select.1 (hws ▸ List.mem_map_of_mem hw)).1
  exact ⟨hle, fun hkey => hne (eq_of_key hm (hmem hv) (hmem hw) hkey)⟩

end CloudIde
