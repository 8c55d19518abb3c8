import CloudIde.Json.Skip
import CloudIde.Proofs.Fallible

/-!
# White space behind a text

A reader that is given more white space at the end of its text reads the same: it fails where it
failed before, though perhaps with other words, or it gives the same and leaves the same, with the
white space behind it. `Agree` relates two such readings, and there is one lemma for each reader of
pieces. None of them looks at more than the next byte before it stops, and white space continues
nothing.

What is left is also shown to be shorter than what was given, as this is why readers come to an end.
-/

namespace CloudIde

/-- Two attempts that both fail, in whatever way, or have results that are related. -/
inductive Agree {ε ε' α β : Type} (R : α → β → Prop) : Except ε α → Except ε' β → Prop
  | error (e : ε) (e' : ε') : Agree R (.error e) (.error e')
  | ok {a : α} {b : β} (h : R a b) : Agree R (.ok a) (.ok b)

namespace Agree

variable {ε ε' δ δ' α β α' β' : Type} {R : α → β → Prop} {S : α' → β' → Prop}
  {x : Except ε α} {y : Except ε' β}

theorem mono {T : α → β → Prop} (h : Agree R x y) (hT : ∀ a b, R a b → T a b) : Agree T x y := by
  cases h with
  | error e e' => exact .error e e'
  | ok h => exact .ok (hT _ _ h)

theorem bind (h : Agree R x y) {f : α → Except ε α'} {g : β → Except ε' β'}
    (hf : ∀ a b, R a b → Agree S (f a) (g b)) : Agree S (x >>= f) (y >>= g) := by
  cases h with
  | error e e' => exact .error e e'
  | ok h => exact hf _ _ h

theorem map (h : Agree R x y) {f : α → α'} {g : β → β'} (hf : ∀ a b, R a b → S (f a) (g b)) :
    Agree S (x.map f) (y.map g) := by
  cases h with
  | error e e' => exact .error e e'
  | ok h => exact .ok (hf _ _ h)

theorem mapError (h : Agree R x y) (f : ε → δ) (g : ε' → δ') :
    Agree R (x.mapError f) (y.mapError g) := by
  cases h with
  | error e e' => exact .error (f e) (g e')
  | ok h => exact .ok h

theorem symm {y : Except ε' α} (h : Agree (· = ·) x y) : Agree (· = ·) y x := by
  cases h with
  | error e e' => exact .error e' e
  | ok h => exact .ok h.symm

theorem trans {y : Except ε' α} {z : Except δ α} (h : Agree (· = ·) x y)
    (h' : Agree (· = ·) y z) : Agree (· = ·) x z := by
  cases h with
  | error e e' =>
    cases h' with
    | error _ e'' => exact .error e e''
  | ok h =>
    cases h' with
    | ok h' => exact .ok (h.trans h')

theorem of_error {e : ε} {e' : ε'} (hx : x = .error e) (hy : y = .error e') : Agree R x y := by
  rw [hx, hy]
  exact .error e e'

end Agree

namespace Json

open Lexeme

/-- White space only. -/
def Spaces (pad : Bytes) : Prop := ∀ b ∈ pad, isSpace b = true

/-- What is left of a text of fewer than `n` bytes, with white space behind it and without. -/
def Padded (pad : Bytes) (n : Nat) (longer shorter : Bytes) : Prop :=
  longer = shorter ++ pad ∧ shorter.length < n

/-- The same result, and what is left. -/
def SameRead {α : Type} (pad : Bytes) (n : Nat) (longer shorter : α × Bytes) : Prop :=
  longer.1 = shorter.1 ∧ Padded pad n longer.2 shorter.2

section

variable {pad : Bytes} {n m : Nat}

theorem Padded.mono {longer shorter : Bytes} (h : Padded pad n longer shorter) (hn : n ≤ m) :
    Padded pad m longer shorter := ⟨h.1, Nat.lt_of_lt_of_le h.2 hn⟩

theorem SameRead.mono {α : Type} {longer shorter : α × Bytes} (h : SameRead pad n longer shorter)
    (hn : n ≤ m) : SameRead pad m longer shorter := ⟨h.1, h.2.mono hn⟩

theorem SameRead.parts {α : Type} {longer shorter : α × Bytes}
    (h : SameRead pad n longer shorter) :
    ∃ a rest, longer = (a, rest ++ pad) ∧ shorter = (a, rest) ∧ rest.length < n := by
  obtain ⟨a, longer⟩ := longer
  obtain ⟨b, rest⟩ := shorter
  obtain ⟨hsame, hpadded, hlen⟩ := h
  exact ⟨b, rest, Prod.ext hsame hpadded, rfl, hlen⟩

theorem Padded.widen {x y : Except Stop Bytes} (h : Agree (Padded pad n) x y) (hn : n ≤ m) :
    Agree (Padded pad m) x y := h.mono fun _ _ hr => hr.mono hn

theorem SameRead.widen {ε α : Type} {x y : Except ε (α × Bytes)} (h : Agree (SameRead pad n) x y)
    (hn : n ≤ m) : Agree (SameRead pad m) x y := h.mono fun _ _ hr => hr.mono hn

/-- Nothing that a reader looks for is white space. -/
theorem space_is {b : UInt8} (h : isSpace b = true) :
    b ≠ '"'.toUInt8 ∧ b ≠ '\\'.toUInt8 ∧ b ≠ 'u'.toUInt8 ∧ b ≠ '.'.toUInt8 ∧ b ≠ '+'.toUInt8 ∧
      b ≠ '-'.toUInt8 ∧ escaped? b = none ∧ hexValue? b = none ∧ digit? b = none ∧
      startsWithExponent [b] = false := by
  have hall : ∀ n : Fin 256, isSpace (UInt8.ofFin n) = true →
      UInt8.ofFin n ≠ '"'.toUInt8 ∧ UInt8.ofFin n ≠ '\\'.toUInt8 ∧ UInt8.ofFin n ≠ 'u'.toUInt8 ∧
        UInt8.ofFin n ≠ '.'.toUInt8 ∧ UInt8.ofFin n ≠ '+'.toUInt8 ∧ UInt8.ofFin n ≠ '-'.toUInt8 ∧
        escaped? (UInt8.ofFin n) = none ∧ hexValue? (UInt8.ofFin n) = none ∧
        digit? (UInt8.ofFin n) = none ∧ startsWithExponent [UInt8.ofFin n] = false := by
    decide +kernel
  exact hall b.toFin h

/-- White space in front of a text is skipped. -/
theorem skipSpace_append (hpad : Spaces pad) (input : Bytes) :
    skipSpace (pad ++ input) = skipSpace input := List.dropWhile_append_of_pos hpad

theorem skipSpace_spaces (hpad : Spaces pad) : skipSpace pad = [] := by
  have hnone := skipSpace_append hpad []
  rw [List.append_nil] at hnone
  exact hnone

/-- The next piece begins in the text, or there is none, be there white space behind it or not. -/
theorem next_byte (hpad : Spaces pad) (input : Bytes) :
    (skipSpace (input ++ pad) = [] ∧ skipSpace input = []) ∨
      ∃ b rest, skipSpace (input ++ pad) = b :: (rest ++ pad) ∧ skipSpace input = b :: rest ∧
        isSpace b = false ∧ rest.length < input.length := by
  induction input with
  | nil =>
    exact Or.inl ⟨skipSpace_spaces hpad, rfl⟩
  | cons b input ih =>
    by_cases hb : isSpace b = true
    · have hskip (l : Bytes) : skipSpace (b :: l) = skipSpace l := List.dropWhile_cons_of_pos hb
      rw [List.cons_append, hskip, hskip]
      rcases ih with hnone | ⟨c, rest, hlong, hshort, hc, hlen⟩
      · exact Or.inl hnone
      · exact Or.inr ⟨c, rest, hlong, hshort, hc, Nat.lt_succ_of_lt hlen⟩
    · have hskip (l : Bytes) : skipSpace (b :: l) = b :: l := List.dropWhile_cons_of_neg hb
      rw [List.cons_append, hskip, hskip]
      exact Or.inr ⟨b, input, rfl, rfl, by simpa using hb, Nat.lt_succ_self _⟩

/-! ## Words and texts -/

theorem word_padded (hpad : Spaces pad) {tail : Bytes} (htail : ∀ b ∈ tail, isSpace b = false)
    (input : Bytes) :
    Agree (Padded pad (input.length + 1)) (word tail (input ++ pad)) (word tail input) := by
  induction tail generalizing input with
  | nil => exact .ok ⟨rfl, Nat.lt_succ_self _⟩
  | cons letter tail ih =>
    have hletter := htail letter List.mem_cons_self
    cases input with
    | nil =>
      cases pad with
      | nil => exact .error _ _
      | cons p pad =>
        have hne : p ≠ letter := by
          rintro rfl
          rw [hpad p List.mem_cons_self] at hletter
          exact absurd hletter (by decide)
        have hfails : word (letter :: tail) (p :: pad) = fail .wordExpected pad := by
          rw [word, if_neg hne]
        exact Agree.of_error hfails rfl
    | cons b input =>
      rw [List.cons_append, word, word]
      by_cases hb : b = letter
      · rw [if_pos hb, if_pos hb]
        exact Padded.widen (ih (fun c hc => htail c (List.mem_cons_of_mem _ hc)) input)
          (Nat.succ_le_succ (Nat.le_succ _))
      · rw [if_neg hb, if_neg hb]
        exact .error _ _

/-- The letters of words are no white space. -/
theorem tails_inked :
    (∀ b ∈ nullTail, isSpace b = false) ∧ (∀ b ∈ trueTail, isSpace b = false) ∧
      ∀ b ∈ falseTail, isSpace b = false := by
  decide +kernel

/-- White space does not end a text. -/
theorem textFrom_spaces (hpad : Spaces pad) (state : TextState) (done : Bytes) :
    ∃ e, textFrom state done pad = .error e := by
  induction pad generalizing state done with
  | nil => exact ⟨_, rfl⟩
  | cons p pad ih =>
    obtain ⟨hquote, hslash, hu, -, -, -, hescaped, hhex, -⟩ := space_is (hpad p List.mem_cons_self)
    have hrest : Spaces pad := fun b hb => hpad b (List.mem_cons_of_mem _ hb)
    cases state with
    | plain =>
      rw [textFrom]
      simp only [if_neg hquote, if_neg hslash]
      split
      · exact ⟨_, rfl⟩
      · exact ih hrest .plain _
    | escape => exact ⟨_, by rw [textFrom]; simp only [hescaped, if_neg hu]; rfl⟩
    | number lead seen value => exact ⟨_, by rw [textFrom]; simp only [hhex]; rfl⟩
    | lead unit => exact ⟨_, by rw [textFrom]; simp only [if_neg hslash]; rfl⟩
    | leadEscape unit => exact ⟨_, by rw [textFrom]; simp only [if_neg hu]; rfl⟩

theorem textFrom_padded (hpad : Spaces pad) (state : TextState) (done input : Bytes) :
    Agree (SameRead pad input.length) (textFrom state done (input ++ pad))
      (textFrom state done input) := by
  induction input generalizing state done with
  | nil =>
    obtain ⟨e, he⟩ := textFrom_spaces hpad state done
    exact Agree.of_error he rfl
  | cons b input ih =>
    -- both take the same byte, so wherever one goes on, the other does in the same state
    have hlater (state : TextState) (done : Bytes) :
        Agree (SameRead pad (b :: input).length) (textFrom state done (input ++ pad))
          (textFrom state done input) := SameRead.widen (ih state done) (Nat.le_succ _)
    rw [List.cons_append, textFrom.eq_def, textFrom.eq_def state done (b :: input)]
    cases state with
    | plain =>
      simp only
      split
      · split
        · exact .ok ⟨rfl, rfl, Nat.lt_succ_self _⟩
        · exact .error _ _
      · split
        · exact hlater _ _
        · split
          · exact .error _ _
          · exact hlater _ _
    | escape =>
      simp only
      split
      · exact hlater _ _
      · split
        · exact hlater _ _
        · exact .error _ _
    | number lead seen value =>
      simp only
      split
      · exact .error _ _
      · split
        · exact hlater _ _
        · split
          · split
            · exact .error _ _
            · split
              · exact hlater _ _
              · exact hlater _ _
          · split
            · exact hlater _ _
            · exact .error _ _
    | lead unit =>
      simp only
      split
      · exact hlater _ _
      · exact .error _ _
    | leadEscape unit =>
      simp only
      split
      · exact hlater _ _
      · exact .error _ _

/-- A text that nobody wants is skipped alike. -/
theorem skipTextFrom_spaces (hpad : Spaces pad) (state : TextState) :
    ∃ e, skipTextFrom state pad = .error e := by
  induction pad generalizing state with
  | nil => exact ⟨_, rfl⟩
  | cons p pad ih =>
    obtain ⟨hquote, hslash, hu, -, -, -, hescaped, hhex, -⟩ := space_is (hpad p List.mem_cons_self)
    have hrest : Spaces pad := fun b hb => hpad b (List.mem_cons_of_mem _ hb)
    cases state with
    | escape =>
      exact ⟨_, by rw [skipTextFrom.eq_def]; simp only [hescaped, if_neg hu]; rfl⟩
    | number lead seen value => exact ⟨_, by rw [skipTextFrom.eq_def]; simp only [hhex]; rfl⟩
    | plain | lead _ | leadEscape _ =>
      rw [skipTextFrom.eq_def]
      simp only [if_neg hquote, if_neg hslash]
      split
      · exact ⟨_, rfl⟩
      · exact ih hrest .plain

theorem skipTextFrom_padded (hpad : Spaces pad) (state : TextState) (input : Bytes) :
    Agree (Padded pad input.length) (skipTextFrom state (input ++ pad))
      (skipTextFrom state input) := by
  induction input generalizing state with
  | nil =>
    obtain ⟨e, he⟩ := skipTextFrom_spaces hpad state
    exact Agree.of_error he rfl
  | cons b input ih =>
    have hlater (state : TextState) :
        Agree (Padded pad (b :: input).length) (skipTextFrom state (input ++ pad))
          (skipTextFrom state input) := Padded.widen (ih state) (Nat.le_succ _)
    rw [List.cons_append, skipTextFrom.eq_def, skipTextFrom.eq_def state (b :: input)]
    cases state with
    | escape =>
      simp only
      split
      · exact hlater _
      · split
        · exact hlater _
        · exact .error _ _
    | number lead seen value =>
      simp only
      split
      · exact .error _ _
      · split
        · exact hlater _
        · exact hlater _
    | plain | lead _ | leadEscape _ =>
      simp only
      split
      · exact .ok ⟨rfl, Nat.lt_succ_self _⟩
      · split
        · exact hlater _
        · split
          · exact .error _ _
          · exact hlater _

/-! ## Numbers -/

/-- What comes after a text does not begin with a digit or an exponent if it is white space. -/
theorem startsWithDigit_padded (hpad : Spaces pad) (input : Bytes) :
    startsWithDigit (input ++ pad) = startsWithDigit input := by
  cases input with
  | cons b input => rfl
  | nil =>
    cases pad with
    | nil => rfl
    | cons p pad =>
      obtain ⟨-, -, -, -, -, -, -, -, hdigit, -⟩ := space_is (hpad p List.mem_cons_self)
      show (digit? p).isSome = false
      rw [hdigit]
      rfl

theorem startsWithExponent_padded (hpad : Spaces pad) (input : Bytes) :
    startsWithExponent (input ++ pad) = startsWithExponent input := by
  cases input with
  | cons b input => rfl
  | nil =>
    cases pad with
    | nil => rfl
    | cons p pad =>
      obtain ⟨-, -, -, -, -, -, -, -, -, hexponent⟩ := space_is (hpad p List.mem_cons_self)
      exact hexponent

theorem digits_padded (hpad : Spaces pad) (value count : Nat) (input : Bytes) :
    ∃ value' count' rest, digits value count (input ++ pad) = (value', count', rest ++ pad) ∧
      digits value count input = (value', count', rest) ∧ rest.length ≤ input.length := by
  induction input generalizing value count with
  | nil =>
    cases pad with
    | nil => exact ⟨value, count, [], rfl, rfl, Nat.le_refl _⟩
    | cons p pad =>
      obtain ⟨-, -, -, -, -, -, -, -, hdigit, -⟩ := space_is (hpad p List.mem_cons_self)
      refine ⟨value, count, [], ?_, rfl, Nat.le_refl _⟩
      rw [List.nil_append, digits, hdigit]
  | cons b input ih =>
    rw [List.cons_append, digits, digits]
    split
    · exact ⟨value, count, b :: input, rfl, rfl, Nat.le_refl _⟩
    · next d _ =>
      split
      · obtain ⟨value', count', rest, hlong, hshort, hlen⟩ := ih (value * 10 + d) (count + 1)
        exact ⟨value', count', rest, hlong, hshort, Nat.le_succ_of_le hlen⟩
      · exact ⟨value, count, b :: input, rfl, rfl, Nat.le_refl _⟩

theorem skipDigits_padded (hpad : Spaces pad) (count : Nat) (input : Bytes) :
    ∃ count' rest, skipDigits count (input ++ pad) = (count', rest ++ pad) ∧
      skipDigits count input = (count', rest) ∧ rest.length ≤ input.length := by
  induction input generalizing count with
  | nil =>
    cases pad with
    | nil => exact ⟨count, [], rfl, rfl, Nat.le_refl _⟩
    | cons p pad =>
      obtain ⟨-, -, -, -, -, -, -, -, hdigit, -⟩ := space_is (hpad p List.mem_cons_self)
      refine ⟨count, [], ?_, rfl, Nat.le_refl _⟩
      rw [List.nil_append, skipDigits, hdigit]
  | cons b input ih =>
    rw [List.cons_append, skipDigits, skipDigits]
    split
    · exact ⟨count, b :: input, rfl, rfl, Nat.le_refl _⟩
    · obtain ⟨count', rest, hlong, hshort, hlen⟩ := ih (count + 1)
      exact ⟨count', rest, hlong, hshort, Nat.le_succ_of_le hlen⟩

theorem exponentDigits_padded (hpad : Spaces pad) (value : Nat) (input : Bytes) :
    ∃ value' rest, exponentDigits value (input ++ pad) = (value', rest ++ pad) ∧
      exponentDigits value input = (value', rest) ∧ rest.length ≤ input.length := by
  induction input generalizing value with
  | nil =>
    cases pad with
    | nil => exact ⟨some value, [], rfl, rfl, Nat.le_refl _⟩
    | cons p pad =>
      obtain ⟨-, -, -, -, -, -, -, -, hdigit, -⟩ := space_is (hpad p List.mem_cons_self)
      refine ⟨some value, [], ?_, rfl, Nat.le_refl _⟩
      rw [List.nil_append, exponentDigits, hdigit]
  | cons b input ih =>
    rw [List.cons_append, exponentDigits, exponentDigits]
    split
    · exact ⟨some value, b :: input, rfl, rfl, Nat.le_refl _⟩
    · next d _ =>
      split
      · obtain ⟨value', rest, hlong, hshort, hlen⟩ := ih (value * 10 + d)
        exact ⟨value', rest, hlong, hshort, Nat.le_succ_of_le hlen⟩
      · exact ⟨none, input, rfl, rfl, Nat.le_succ _⟩

theorem exponentSign_padded (hpad : Spaces pad) (input : Bytes) :
    ∃ down rest, exponentSign (input ++ pad) = (down, rest ++ pad) ∧
      exponentSign input = (down, rest) ∧ rest.length ≤ input.length := by
  cases input with
  | nil =>
    cases pad with
    | nil => exact ⟨false, [], rfl, rfl, Nat.le_refl _⟩
    | cons p pad =>
      obtain ⟨-, -, -, -, hplus, hminus, -⟩ := space_is (hpad p List.mem_cons_self)
      refine ⟨false, [], ?_, rfl, Nat.le_refl _⟩
      rw [List.nil_append, exponentSign, if_neg hplus, if_neg hminus]
  | cons b input =>
    rw [List.cons_append, exponentSign, exponentSign]
    split
    · exact ⟨false, input, rfl, rfl, Nat.le_succ _⟩
    · split
      · exact ⟨true, input, rfl, rfl, Nat.le_succ _⟩
      · exact ⟨false, b :: input, rfl, rfl, Nat.le_refl _⟩

/-- White space has no first digit. -/
theorem no_digit (hpad : Spaces pad) : ∀ b rest, pad = b :: rest → digit? b = none := by
  rintro b rest rfl
  obtain ⟨-, -, -, -, -, -, -, -, hdigit, -⟩ := space_is (hpad b List.mem_cons_self)
  exact hdigit

theorem exponentPart_padded (hpad : Spaces pad) (negative : Bool) (significand : Nat)
    (exponent : Int) (input : Bytes) :
    Agree (SameRead pad (input.length + 1))
      (exponentPart negative significand exponent (input ++ pad))
      (exponentPart negative significand exponent input) := by
  obtain ⟨down, rest, hlong, hshort, hlen⟩ := exponentSign_padded hpad input
  unfold exponentPart
  simp only [hlong, hshort]
  cases rest with
  | nil =>
    cases pad with
    | nil => exact .error _ _
    | cons p pad =>
      simp only [List.nil_append, no_digit hpad p pad rfl]
      exact .error _ _
  | cons b rest =>
    simp only [List.cons_append]
    split
    · exact .error _ _
    · next d _ =>
      obtain ⟨value, after, hlong, hshort, hafter⟩ := exponentDigits_padded hpad d rest
      have hless : after.length < input.length + 1 := by
        rw [List.length_cons] at hlen
        omega
      rw [hlong, hshort]
      cases value with
      | some value =>
        simp only
        cases assemble negative significand (if down then exponent - value else exponent + value)
          with
        | error e => exact .error _ _
        | ok x => exact .ok ⟨rfl, rfl, hless⟩
      | none =>
        obtain ⟨count, last, hlong, hshort, hlast⟩ := skipDigits_padded hpad 0 after
        simp only [hlong, hshort]
        split
        · exact .error _ _
        · exact .ok ⟨rfl, rfl, Nat.lt_of_le_of_lt hlast hless⟩

theorem fractionPart_padded (hpad : Spaces pad) (negative : Bool) (significand : Nat)
    (exponent : Int) (input : Bytes) :
    Agree (SameRead pad (input.length + 1))
      (fractionPart negative significand exponent (input ++ pad))
      (fractionPart negative significand exponent input) := by
  obtain ⟨value, count, rest, hlong, hshort, hlen⟩ := digits_padded hpad significand 0 input
  unfold fractionPart
  simp only [hlong, hshort, startsWithDigit_padded hpad]
  split
  · exact .error _ _
  · obtain ⟨count', after, hlong', hshort', hafter⟩ := skipDigits_padded hpad 0 rest
    simp only [hlong', hshort', startsWithExponent_padded hpad]
    split
    · next hexponent =>
      cases after with
      | nil => exact absurd hexponent (by decide)
      | cons b after =>
        rw [List.length_cons] at hafter
        exact SameRead.widen (exponentPart_padded hpad negative value _ after) (by omega)
    · cases assemble negative value (exponent - count) with
      | error e => exact .error _ _
      | ok x => exact .ok ⟨rfl, rfl, show after.length < _ by omega⟩

theorem whole_padded (negative : Bool) (significand left : Nat) (input : Bytes) :
    Agree (SameRead pad (input.length + 1))
      (afterInteger.whole negative significand left (input ++ pad))
      (afterInteger.whole negative significand left input) := by
  have hless : input.length < input.length + 1 := Nat.lt_succ_self _
  unfold afterInteger.whole
  split
  · cases assemble negative significand left with
    | error e => exact .error _ _
    | ok x => exact .ok ⟨rfl, rfl, hless⟩
  · split
    · exact .ok ⟨rfl, rfl, hless⟩
    · split
      · exact .ok ⟨rfl, rfl, hless⟩
      · exact .ok ⟨rfl, rfl, hless⟩

theorem afterInteger_padded (hpad : Spaces pad) (negative : Bool) (significand left : Nat)
    (input : Bytes) :
    Agree (SameRead pad (input.length + 1)) (afterInteger negative significand left (input ++ pad))
      (afterInteger negative significand left input) := by
  cases input with
  | nil =>
    have hwhole : Agree (SameRead pad 1) (afterInteger.whole negative significand left pad)
        (afterInteger.whole negative significand left []) :=
      whole_padded negative significand left []
    cases pad with
    | nil => exact hwhole
    | cons p pad =>
      obtain ⟨-, -, -, hpoint, -, -, -, -, -, hexponent⟩ := space_is (hpad p List.mem_cons_self)
      have hexponent' : startsWithExponent (p :: pad) = false := hexponent
      rw [List.nil_append, afterInteger, if_neg hpoint, hexponent']
      exact hwhole
  | cons b input =>
    rw [List.cons_append, afterInteger, afterInteger]
    split
    · exact SameRead.widen (fractionPart_padded hpad negative significand left input)
        (Nat.le_succ _)
    · have hsame : startsWithExponent (b :: (input ++ pad)) = startsWithExponent (b :: input) := rfl
      rw [hsame]
      split
      · exact SameRead.widen (exponentPart_padded hpad negative significand left input)
          (Nat.le_succ _)
      · exact whole_padded negative significand left (b :: input)

theorem number_padded (hpad : Spaces pad) (negative : Bool) (input : Bytes) :
    Agree (SameRead pad input.length) (number negative (input ++ pad)) (number negative input) := by
  cases input with
  | nil =>
    cases pad with
    | nil => exact .error _ _
    | cons p pad =>
      have hfails : number negative (p :: pad) = fail .badNumber pad := by
        rw [number, no_digit hpad p pad rfl]
      exact Agree.of_error hfails rfl
  | cons b input =>
    rw [List.cons_append, number, number, startsWithDigit_padded hpad]
    split
    · exact .error _ _
    · split
      · exact .error _ _
      · exact afterInteger_padded hpad negative 0 0 input
    · next d _ _ =>
      obtain ⟨value, count, rest, hlong, hshort, hlen⟩ := digits_padded hpad d 0 input
      obtain ⟨left, after, hlong', hshort', hafter⟩ := skipDigits_padded hpad 0 rest
      simp only [hlong, hshort, hlong', hshort']
      refine SameRead.widen (afterInteger_padded hpad negative value left after) ?_
      rw [List.length_cons]
      omega

/-! ## Values that nobody wants -/

theorem skipExponent_padded (hpad : Spaces pad) (input : Bytes) :
    Agree (Padded pad (input.length + 1)) (skipExponent (input ++ pad)) (skipExponent input) := by
  obtain ⟨down, rest, hlong, hshort, hlen⟩ := exponentSign_padded hpad input
  obtain ⟨count, after, hlong', hshort', hafter⟩ := skipDigits_padded hpad 0 rest
  unfold skipExponent
  simp only [hlong, hshort, startsWithDigit_padded hpad, hlong', hshort']
  split
  · exact .ok ⟨rfl, by omega⟩
  · exact .error _ _

theorem skipNumber_padded (hpad : Spaces pad) (input : Bytes) :
    Agree (Padded pad input.length) (skipNumber (input ++ pad)) (skipNumber input) := by
  cases input with
  | nil =>
    cases pad with
    | nil => exact .error _ _
    | cons p pad =>
      have hfails : skipNumber (p :: pad) = fail .badNumber pad := by
        rw [skipNumber, no_digit hpad p pad rfl]
      exact Agree.of_error hfails rfl
  | cons b input =>
    rw [List.cons_append, skipNumber, skipNumber]
    split
    · exact .error _ _
    · next d _ =>
      rw [startsWithDigit_padded hpad]
      split
      · exact .error _ _
      · obtain ⟨count, rest, hlong, hshort, hlen⟩ := skipDigits_padded hpad 0 input
        simp only [hlong, hshort]
        cases rest with
        | nil =>
          cases pad with
          | nil => exact .ok ⟨rfl, Nat.succ_pos _⟩
          | cons p pad =>
            obtain ⟨-, -, -, hpoint, -, -, -, -, -, hexponent⟩ :=
              space_is (hpad p List.mem_cons_self)
            have hexponent' : startsWithExponent (p :: pad) = false := hexponent
            rw [List.nil_append]
            simp only [if_neg hpoint, hexponent']
            exact .ok ⟨rfl, Nat.succ_pos _⟩
        | cons c tail =>
          rw [List.length_cons] at hlen
          rw [List.cons_append]
          simp only [startsWithDigit_padded hpad]
          split
          · split
            · exact .error _ _
            · obtain ⟨count', after, hlong', hshort', hafter⟩ := skipDigits_padded hpad 0 tail
              simp only [hlong', hshort', startsWithExponent_padded hpad]
              split
              · next hexponent =>
                cases after with
                | nil => exact absurd hexponent (by decide)
                | cons e after =>
                  rw [List.length_cons] at hafter
                  exact Padded.widen (skipExponent_padded hpad after) (by
                    rw [List.length_cons]
                    omega)
              · exact .ok ⟨rfl, by rw [List.length_cons]; omega⟩
          · have hsame : startsWithExponent (c :: (tail ++ pad)) = startsWithExponent (c :: tail) :=
              rfl
            rw [hsame]
            split
            · exact Padded.widen (skipExponent_padded hpad tail) (by
                rw [List.length_cons]
                omega)
            · exact .ok ⟨rfl, by rw [List.length_cons, List.length_cons]; omega⟩

theorem skipScalar_padded (hpad : Spaces pad) (b : UInt8) (rest : Bytes) :
    Agree (Padded pad (rest.length + 1)) (skipScalar b (rest ++ pad)) (skipScalar b rest) := by
  obtain ⟨hnull, htrue, hfalse⟩ := tails_inked
  unfold skipScalar
  split
  · exact word_padded hpad hnull rest
  · split
    · exact word_padded hpad htrue rest
    · split
      · exact word_padded hpad hfalse rest
      · split
        · exact Padded.widen (skipNumber_padded hpad rest) (Nat.le_succ _)
        · split
          · exact skipNumber_padded hpad (b :: rest)
          · split
            · exact Padded.widen (skipTextFrom_padded hpad .plain rest) (Nat.le_succ _)
            · exact .error _ _

theorem skipKey_padded (hpad : Spaces pad) (bracket : Bracket) (input : Bytes) :
    Agree (Padded pad (input.length + 1)) (skipKey bracket (input ++ pad))
      (skipKey bracket input) := by
  cases bracket with
  | list => exact .ok ⟨rfl, Nat.lt_succ_self _⟩
  | object =>
    unfold skipKey
    rcases next_byte hpad input with ⟨hlong, hshort⟩ | ⟨b, rest, hlong, hshort, -, hlen⟩
    · simp only [hlong, hshort]
      exact .error _ _
    · simp only [hlong, hshort]
      split
      · exact .error _ _
      · refine Agree.bind (skipTextFrom_padded hpad .plain rest) fun long short h => ?_
        obtain ⟨rfl, hless⟩ := h
        rcases next_byte hpad short with ⟨hlong, hshort⟩ | ⟨c, after, hlong, hshort, -, hafter⟩
        · simp only [hlong, hshort]
          exact .error _ _
        · simp only [hlong, hshort]
          split
          · exact .ok ⟨rfl, by omega⟩
          · exact .error _ _

/-- The steps that are taken at most until a value is skipped of which `n` bytes are left. -/
def skipSteps (n : Nat) : SkipState → Nat
  | .value => 2 * n + 1
  | .next _ => 2 * n + 2

/-- When there are steps enough it does not matter how many. -/
theorem skipFrom_padded (hpad : Spaces pad) (fuel fuel' : Nat) (state : SkipState)
    (brackets : List Bracket) (input : Bytes) (hfuel : skipSteps input.length state ≤ fuel)
    (hfuel' : skipSteps (input ++ pad).length state ≤ fuel') :
    Agree (Padded pad (input.length + 1)) (skipFrom fuel' state brackets (input ++ pad))
      (skipFrom fuel state brackets input) := by
  induction fuel generalizing fuel' state brackets input with
  | zero => cases state <;> exact absurd hfuel (by simp [skipSteps])
  | succ fuel ih =>
    obtain ⟨fuel', rfl⟩ : ∃ f, fuel' = f + 1 := by
      cases fuel' with
      | zero => cases state <;> exact absurd hfuel' (by simp [skipSteps])
      | succ f => exact ⟨f, rfl⟩
    rw [List.length_append] at hfuel'
    -- what is left after a byte has its steps left, with two spent
    have hafter (state : SkipState) (brackets : List Bracket) (rest : Bytes)
        (hsteps : skipSteps rest.length state ≤ fuel)
        (hsteps' : skipSteps (rest.length + pad.length) state ≤ fuel')
        (hlen : rest.length ≤ input.length) :
        Agree (Padded pad (input.length + 1)) (skipFrom fuel' state brackets (rest ++ pad))
          (skipFrom fuel state brackets rest) :=
      Padded.widen (ih fuel' state brackets rest hsteps (by rwa [List.length_append])) (by omega)
    rw [skipFrom.eq_def, skipFrom.eq_def (fuel + 1)]
    rcases next_byte hpad input with ⟨hlong, hshort⟩ | ⟨b, rest, hlong, hshort, -, hlen⟩
    · cases state with
      | value =>
        simp only [hlong, hshort]
        exact .error _ _
      | next afterItem =>
        cases brackets with
        | nil => exact .ok ⟨rfl, Nat.lt_succ_self _⟩
        | cons bracket outer =>
          simp only [hlong, hshort]
          exact .error _ _
    · cases state with
      | value =>
        have hfuel : 2 * input.length + 1 ≤ fuel + 1 := hfuel
        have hfuel' : 2 * (input.length + pad.length) + 1 ≤ fuel' + 1 := hfuel'
        simp only [hlong, hshort]
        split
        · exact hafter (.next false) _ rest (show 2 * _ + 2 ≤ _ by omega)
            (show 2 * _ + 2 ≤ _ by omega) (by omega)
        · split
          · exact hafter (.next false) _ rest (show 2 * _ + 2 ≤ _ by omega)
              (show 2 * _ + 2 ≤ _ by omega) (by omega)
          · refine Agree.bind (skipScalar_padded hpad b rest) fun long short h => ?_
            obtain ⟨rfl, hless⟩ := h
            exact hafter (.next true) _ short (show 2 * _ + 2 ≤ _ by omega)
              (show 2 * _ + 2 ≤ _ by omega) (by omega)
      | next afterItem =>
        have hfuel : 2 * input.length + 2 ≤ fuel + 1 := hfuel
        have hfuel' : 2 * (input.length + pad.length) + 2 ≤ fuel' + 1 := hfuel'
        cases brackets with
        | nil => exact .ok ⟨rfl, Nat.lt_succ_self _⟩
        | cons bracket outer =>
          simp only [hlong, hshort]
          split
          · refine Agree.bind (skipKey_padded hpad bracket rest) fun long short h => ?_
            obtain ⟨rfl, hless⟩ := h
            exact hafter .value _ short (show 2 * _ + 1 ≤ _ by omega)
              (show 2 * _ + 1 ≤ _ by omega) (by omega)
          · split
            · exact hafter (.next true) _ rest (show 2 * _ + 2 ≤ _ by omega)
                (show 2 * _ + 2 ≤ _ by omega) (by omega)
            · split
              · exact .error _ _
              · refine Agree.bind (skipKey_padded hpad bracket (b :: rest)) fun long short h => ?_
                obtain ⟨rfl, hless⟩ := h
                rw [List.length_cons] at hless
                exact hafter .value _ short (show 2 * _ + 1 ≤ _ by omega)
                  (show 2 * _ + 1 ≤ _ by omega) (by omega)

theorem skipValue_padded (hpad : Spaces pad) (input : Bytes) :
    Agree (Padded pad (input.length + 1)) (skipValue (input ++ pad)) (skipValue input) := by
  refine skipFrom_padded hpad _ _ .value [] input ?_ ?_
  · show 2 * _ + 1 ≤ 2 * _ + 3
    omega
  · show 2 * _ + 1 ≤ 2 * _ + 3
    omega

end

end Json

end CloudIde
