import CloudIde.Json.Reader
import CloudIde.Proofs.JsonFaithful
import CloudIde.Proofs.JsonPadding

/-!
# White space around what is read by a shape

Every shape reads the same when there is white space behind its text (`Shape.read_padded`), as all
that it reads with does. White space in front is skipped before anything is looked at. So a whole
text is read alike with any white space around it (`Shape.parse_padded`).
-/

namespace CloudIde.Json

open Lexeme

variable {pad : Bytes}

theorem within_padded {α : Type} {R : α → α → Prop} {x y : Except Stop α} (step : Step)
    (h : Agree R x y) : Agree R (within step x) (within step y) := h.mapError _ _

/-! ## Brackets -/

theorem colon_padded (hpad : Spaces pad) (input : Bytes) :
    Agree (Padded pad input.length) (colon (input ++ pad)) (colon input) := by
  unfold colon
  rcases next_byte hpad input with ⟨hlong, hshort⟩ | ⟨b, rest, hlong, hshort, -, hlen⟩
  · rw [hlong, hshort]
    exact .error _ _
  · rw [hlong, hshort]
    simp only
    split
    · exact .ok ⟨rfl, hlen⟩
    · exact .error _ _

/-- Both find the end of a list or an object, or both find another part. -/
inductive NextPart {α : Type} (pad input : Bytes) (R : α → α → Prop) :
    Option α → Option α → Prop
  | closing (h : Padded pad input.length (afterClosing (input ++ pad)) (afterClosing input)) :
    NextPart pad input R none none
  | part {a b : α} (h : R a b) : NextPart pad input R (some a) (some b)

theorem nextItem_padded (hpad : Spaces pad) (index : Nat) (input : Bytes) :
    Agree (NextPart pad input (Padded pad (input.length + 1))) (nextItem index (input ++ pad))
      (nextItem index input) := by
  unfold nextItem
  rcases next_byte hpad input with ⟨hlong, hshort⟩ | ⟨b, rest, hlong, hshort, -, hlen⟩
  · rw [hlong, hshort]
    exact .error _ _
  · rw [hlong, hshort]
    simp only
    split
    · refine .ok (.closing ?_)
      unfold afterClosing
      rw [hlong, hshort]
      exact ⟨rfl, hlen⟩
    · split
      · exact .ok (.part ⟨rfl, Nat.succ_lt_succ hlen⟩)
      · split
        · rcases next_byte hpad rest with ⟨hlong, hshort⟩ | ⟨c, after, hlong, hshort, -, hafter⟩
          · rw [hlong, hshort]
            exact .error _ _
          · rw [hlong, hshort]
            simp only
            split
            · exact .error _ _
            · exact .ok (.part ⟨rfl, Nat.succ_lt_succ (Nat.lt_trans hafter hlen)⟩)
        · exact .error _ _

theorem nextKey_padded (hpad : Spaces pad) (isFirst : Bool) (input : Bytes) :
    Agree (NextPart pad input (SameRead pad input.length)) (nextKey isFirst (input ++ pad))
      (nextKey isFirst input) := by
  have hkey {rest : Bytes} (hlen : rest.length < input.length) :
      Agree (NextPart pad input (SameRead pad input.length))
        ((Lexeme.text (rest ++ pad)).map some) ((Lexeme.text rest).map some) :=
    (textFrom_padded hpad .plain [] rest).map fun _ _ h => .part (h.mono (Nat.le_of_lt hlen))
  unfold nextKey
  rcases next_byte hpad input with ⟨hlong, hshort⟩ | ⟨b, rest, hlong, hshort, -, hlen⟩
  · rw [hlong, hshort]
    exact .error _ _
  · rw [hlong, hshort]
    simp only
    split
    · refine .ok (.closing ?_)
      unfold afterClosing
      rw [hlong, hshort]
      exact ⟨rfl, hlen⟩
    · split
      · split
        · exact hkey hlen
        · exact .error _ _
      · split
        · rcases next_byte hpad rest with ⟨hlong, hshort⟩ | ⟨c, after, hlong, hshort, -, hafter⟩
          · rw [hlong, hshort]
            exact .error _ _
          · rw [hlong, hshort]
            simp only
            split
            · exact hkey (Nat.lt_trans hafter hlen)
            · split
              · exact .error _ _
              · exact .error _ _
        · exact .error _ _

/-- A reader reads the same with white space behind its text, and takes a byte at least. -/
def ReadsPadded {α : Type} (pad : Bytes) (read : Bytes → Except Stop (α × Bytes)) : Prop :=
  ∀ input, Agree (SameRead pad input.length) (read (input ++ pad)) (read input)

theorem readItems_padded (hpad : Spaces pad) {α : Type}
    {item : Bytes → Except Stop (α × Bytes)} (hitem : ReadsPadded pad item)
    (fuel fuel' index : Nat) (done : List α) (input : Bytes) (hfuel : input.length < fuel)
    (hfuel' : (input ++ pad).length < fuel') :
    Agree (SameRead pad input.length) (readItems item fuel' index done (input ++ pad))
      (readItems item fuel index done input) := by
  -- the fuel of the shorter text goes down; that of the longer one only has to last
  induction fuel generalizing fuel' index done input with
  | zero => exact absurd hfuel (Nat.not_lt_zero _)
  | succ fuel ih =>
    obtain ⟨fuel', rfl⟩ := Nat.exists_eq_succ_of_ne_zero (Nat.ne_of_gt (Nat.zero_lt_of_lt hfuel'))
    rw [List.length_append] at hfuel'
    rw [readItems, readItems]
    refine Agree.bind (nextItem_padded hpad index input) fun x y h => ?_
    cases h with
    | closing hclosing => exact .ok ⟨rfl, hclosing⟩
    | @part long short hstart =>
      obtain ⟨rfl, hless⟩ := hstart
      refine Agree.bind (within_padded (.item index) (hitem short)) fun x y h => ?_
      obtain ⟨value, rest, rfl, rfl, hrest⟩ := h.parts
      refine SameRead.widen (ih fuel' (index + 1) (value :: done) rest (by omega) ?_) (by omega)
      rw [List.length_append]
      omega

/-- What may be a list is read the same, when its items are. -/
theorem readList_padded (hpad : Spaces pad) {α : Type} {item : Bytes → Except Stop (α × Bytes)}
    (hitem : ReadsPadded pad item) (b : UInt8) (rest : Bytes) (stop stop' : Stop) :
    Agree (SameRead pad rest.length)
      (if b = '['.toUInt8 then readItems item ((rest ++ pad).length + 1) 0 [] (rest ++ pad)
        else .error stop)
      (if b = '['.toUInt8 then readItems item (rest.length + 1) 0 [] rest else .error stop') := by
  split
  · exact readItems_padded hpad hitem _ _ 0 [] rest (Nat.lt_succ_self _) (Nat.lt_succ_self _)
  · exact .error _ _

theorem readEntries_padded (hpad : Spaces pad) {σ : Type}
    {entry : String → σ → Bytes → Except Stop (σ × Bytes)}
    (hentry : ∀ key state, ReadsPadded pad (entry key state)) (fuel fuel' : Nat) (isFirst : Bool)
    (state : σ) (input : Bytes) (hfuel : input.length < fuel)
    (hfuel' : (input ++ pad).length < fuel') :
    Agree (SameRead pad input.length) (readEntries entry fuel' isFirst state (input ++ pad))
      (readEntries entry fuel isFirst state input) := by
  induction fuel generalizing fuel' isFirst state input with
  | zero => exact absurd hfuel (Nat.not_lt_zero _)
  | succ fuel ih =>
    obtain ⟨fuel', rfl⟩ := Nat.exists_eq_succ_of_ne_zero (Nat.ne_of_gt (Nat.zero_lt_of_lt hfuel'))
    rw [List.length_append] at hfuel'
    rw [readEntries, readEntries]
    refine Agree.bind (within_padded .unnamed (nextKey_padded hpad isFirst input))
      fun x y h => ?_
    cases h with
    | closing hclosing => exact .ok ⟨rfl, hclosing⟩
    | part hkey =>
      obtain ⟨key, after, rfl, rfl, hafter⟩ := hkey.parts
      refine Agree.bind (hentry key state after) fun x y h => ?_
      obtain ⟨next, rest, rfl, rfl, hrest⟩ := h.parts
      refine SameRead.widen (ih fuel' false next rest (by omega) ?_) (by omega)
      rw [List.length_append]
      omega

theorem closeList_padded (hpad : Spaces pad) (input : Bytes) :
    Agree (Padded pad input.length) (closeList (input ++ pad)) (closeList input) := by
  unfold closeList
  rcases next_byte hpad input with ⟨hlong, hshort⟩ | ⟨b, rest, hlong, hshort, -, hlen⟩
  · rw [hlong, hshort]
    exact .error _ _
  · rw [hlong, hshort]
    simp only
    split
    · exact .ok ⟨rfl, hlen⟩
    · split
      · rcases next_byte hpad rest with ⟨hlong, hshort⟩ | ⟨c, after, hlong, hshort, -, -⟩
        · rw [hlong, hshort]
          exact .error _ _
        · rw [hlong, hshort]
          exact .error _ _
      · exact .error _ _

/-! ## Leaves -/

theorem readNumber_padded (hpad : Spaces pad) (wanted : Wanted) (b : UInt8) (rest : Bytes) :
    Agree (SameRead pad (rest.length + 1)) (readNumber wanted b (rest ++ pad))
      (readNumber wanted b rest) := by
  unfold readNumber
  split
  · exact SameRead.widen (number_padded hpad true rest) (Nat.le_succ _)
  · split
    · exact number_padded hpad false (b :: rest)
    · exact .error _ _

theorem readNothing_padded (hpad : Spaces pad) (input : Bytes) :
    Agree (Padded pad input.length) (readNothing (input ++ pad)) (readNothing input) := by
  unfold readNothing
  rcases next_byte hpad input with ⟨hlong, hshort⟩ | ⟨b, rest, hlong, hshort, -, hlen⟩
  · rw [hlong, hshort]
    exact .error _ _
  · rw [hlong, hshort]
    simp only
    split
    · exact Padded.widen (word_padded hpad tails_inked.1 rest) hlen
    · exact .error _ _

theorem readVariantObject_padded (hpad : Spaces pad) (first : String) (others : List String) :
    ReadsPadded pad (readVariantObject first others) := by
  intro input
  unfold readVariantObject
  rcases next_byte hpad input with ⟨hlong, hshort⟩ | ⟨b, rest, hlong, hshort, -, hlen⟩
  · rw [hlong, hshort]
    exact .error _ _
  · rw [hlong, hshort]
    simp only
    split
    · exact .error _ _
    · split
      · exact .error _ _
      · refine Agree.bind (textFrom_padded hpad .plain [] rest) fun x y h => ?_
        obtain ⟨name, short, rfl, rfl, hname⟩ := h.parts
        simp only
        cases variant first others name with
        | error cause => exact .error _ _
        | ok place =>
          refine Agree.bind (colon_padded hpad short) fun x y h => ?_
          obtain ⟨rfl, hcolon⟩ := h
          refine Agree.bind (within_padded _ (readNothing_padded hpad y))
            fun x y h => ?_
          obtain ⟨rfl, hnothing⟩ := h
          rcases next_byte hpad y with ⟨hlong, hshort⟩ | ⟨c, after, hlong, hshort, -, hafter⟩
          · rw [hlong, hshort]
            exact .error _ _
          · rw [hlong, hshort]
            simp only
            split
            · exact .ok ⟨rfl, rfl, show after.length < _ by omega⟩
            · exact .error _ _

theorem Leaf.readFrom_padded (hpad : Spaces pad) (leaf : Leaf) (b : UInt8) (rest : Bytes) :
    Agree (SameRead pad (rest.length + 1)) (leaf.readFrom b (rest ++ pad))
      (leaf.readFrom b rest) := by
  have htext : Agree (SameRead pad (rest.length + 1)) (Lexeme.text (rest ++ pad))
      (Lexeme.text rest) :=
    SameRead.widen (textFrom_padded hpad .plain [] rest) (Nat.le_succ _)
  have hword {tail : Bytes} {α : Type} (a : α) (htail : ∀ b ∈ tail, isSpace b = false) :
      Agree (SameRead pad (rest.length + 1)) ((word tail (rest ++ pad)).map fun rest => (a, rest))
        ((word tail rest).map fun rest => (a, rest)) :=
    (word_padded hpad htail rest).map fun _ _ h => ⟨rfl, h⟩
  cases leaf with
  | text =>
    unfold Leaf.readFrom
    simp only
    split
    · exact htext
    · exact .error _ _
  | flag =>
    unfold Leaf.readFrom
    simp only
    split
    · exact hword true tails_inked.2.1
    · split
      · exact hword false tails_inked.2.2
      · exact .error _ _
  | int32 =>
    refine Agree.bind (readNumber_padded hpad .int32 b rest) fun x y h => ?_
    obtain ⟨number, short, rfl, rfl, hlen⟩ := h.parts
    simp only
    cases int32OfNumber number with
    | error cause => exact .error _ _
    | ok n => exact .ok ⟨rfl, rfl, hlen⟩
  | double =>
    refine Agree.bind (readNumber_padded hpad .double b rest) fun x y h => ?_
    obtain ⟨number, short, rfl, rfl, hlen⟩ := h.parts
    exact .ok ⟨rfl, rfl, hlen⟩
  | choice first others =>
    unfold Leaf.readFrom
    simp only
    split
    · refine Agree.bind htext fun x y h => ?_
      obtain ⟨name, short, rfl, rfl, hlen⟩ := h.parts
      simp only
      cases variant first others name with
      | error cause => exact .error _ _
      | ok place => exact .ok ⟨rfl, rfl, hlen⟩
    · split
      · exact SameRead.widen (readVariantObject_padded hpad first others rest) (Nat.le_succ _)
      · exact .error _ _

theorem Leaf.read_padded (hpad : Spaces pad) (leaf : Leaf) : ReadsPadded pad leaf.read := by
  intro input
  unfold Leaf.read
  rcases next_byte hpad input with ⟨hlong, hshort⟩ | ⟨b, rest, hlong, hshort, -, hlen⟩
  · rw [hlong, hshort]
    exact .error _ _
  · rw [hlong, hshort]
    exact SameRead.widen (leaf.readFrom_padded hpad b rest) hlen

/-! ## Inner fields -/

/-- A value is read the same when the values in its brackets are. -/
theorem readAny_step (hpad : Spaces pad) (depth : Nat)
    (hinner : ∀ inner, depth = inner + 2 → ReadsPadded pad (readAny (inner + 1))) :
    ReadsPadded pad (readAny depth) := by
  intro input
  rcases next_byte hpad input with ⟨hlong, hshort⟩ | ⟨b, rest, hlong, hshort, -, hlen⟩
  · rw [readAny.eq_def, readAny.eq_def depth input]
    simp only [hlong, hshort]
    exact .error _ _
  · have hword {tail : Bytes} (json : Json) (htail : ∀ b ∈ tail, isSpace b = false) :
        Agree (SameRead pad input.length)
          ((word tail (rest ++ pad)).map fun rest => (json, rest))
          ((word tail rest).map fun rest => (json, rest)) :=
      (word_padded hpad htail rest).map fun _ _ h => ⟨rfl, h.mono hlen⟩
    have hnumber {n : Nat} {x y : Except Stop (Number × Bytes)} (h : Agree (SameRead pad n) x y)
        (hn : n ≤ input.length) : Agree (SameRead pad input.length)
          (x.map fun read => (read.1.toJson, read.2))
          (y.map fun read => (read.1.toJson, read.2)) := by
      refine h.map fun x y h => ?_
      obtain ⟨number, short, rfl, rfl, hlen⟩ := h.parts
      exact ⟨rfl, rfl, Nat.lt_of_lt_of_le hlen hn⟩
    rw [readAny.eq_def, readAny.eq_def depth input]
    simp only [hlong, hshort]
    split
    · exact hword .null tails_inked.1
    split
    · exact hword (.flag true) tails_inked.2.1
    split
    · exact hword (.flag false) tails_inked.2.2
    split
    · exact hnumber (number_padded hpad true rest) (Nat.le_of_lt hlen)
    split
    · exact hnumber (number_padded hpad false (b :: rest)) hlen
    split
    · refine (textFrom_padded hpad .plain [] rest).map fun x y h => ?_
      obtain ⟨text, short, rfl, rfl, hshorter⟩ := h.parts
      exact ⟨rfl, rfl, Nat.lt_trans hshorter hlen⟩
    split
    · -- a list
      rcases depth with _ | _ | inner
      · exact .error _ _
      · exact .error _ _
      · refine Agree.bind (readItems_padded hpad (hinner inner rfl) (rest.length + 1)
          ((rest ++ pad).length + 1) 0 [] rest (Nat.lt_succ_self _) (Nat.lt_succ_self _))
          fun x y h => ?_
        obtain ⟨items, short, rfl, rfl, hshorter⟩ := h.parts
        exact .ok ⟨rfl, rfl, Nat.lt_trans hshorter hlen⟩
    split
    · -- an object
      rcases depth with _ | _ | inner
      · exact .error _ _
      · exact .error _ _
      · refine Agree.bind (readEntries_padded hpad (fun key state input => ?_) (rest.length + 1)
          ((rest ++ pad).length + 1) true [] rest (Nat.lt_succ_self _) (Nat.lt_succ_self _))
          fun x y h => ?_
        · refine Agree.bind (colon_padded hpad input) fun x y h => ?_
          obtain ⟨rfl, hcolon⟩ := h
          refine Agree.bind (hinner inner rfl y) fun x y h => ?_
          obtain ⟨value, short, rfl, rfl, hshorter⟩ := h.parts
          exact .ok ⟨rfl, rfl, Nat.lt_trans hshorter hcolon⟩
        · obtain ⟨fields, short, rfl, rfl, hshorter⟩ := h.parts
          exact .ok ⟨rfl, rfl, Nat.lt_trans hshorter hlen⟩
    · exact .error _ _

/-- Any value is read the same. -/
theorem readAny_padded (hpad : Spaces pad) (depth : Nat) : ReadsPadded pad (readAny depth) := by
  induction depth with
  | zero => exact readAny_step hpad 0 fun inner h => absurd h (by omega)
  | succ depth ih =>
    refine readAny_step hpad (depth + 1) fun inner h => ?_
    obtain rfl : depth = inner + 1 := by omega
    exact ih

/-! ## Shapes -/

theorem skipEntry_padded (hpad : Spaces pad) (key : String) (input : Bytes) :
    Agree (Padded pad input.length) (skipEntry key (input ++ pad)) (skipEntry key input) := by
  unfold skipEntry
  refine Agree.bind (colon_padded hpad input) fun x y h => ?_
  obtain ⟨rfl, hcolon⟩ := h
  exact within_padded _ (Padded.widen (skipValue_padded hpad y) hcolon)

/-- A field is met by both or by neither, and then its readings agree. -/
abbrev SameField {α : Type} (pad : Bytes) (n : Nat) :
    Option (Except Stop (α × Bytes)) → Option (Except Stop (α × Bytes)) → Prop :=
  Option.Rel (Agree (SameRead pad n))

/-- The fields of a record read the same, whichever is met. -/
def FieldsPadded (pad : Bytes) (fields : Fields) : Prop :=
  ∀ key (slots : fields.Slots) input, SameField pad input.length
    (fields.readField key slots (input ++ pad)) (fields.readField key slots input)

theorem dictEntry_padded (hpad : Spaces pad) (key : String) (d : Dict) :
    ReadsPadded pad (dictEntry key d) := by
  intro input
  refine Agree.bind (colon_padded hpad input) fun x y h => ?_
  obtain ⟨rfl, hcolon⟩ := h
  refine Agree.bind (within_padded _ (Leaf.read_padded hpad .text y)) fun x y h => ?_
  obtain ⟨value, short, rfl, rfl, hshorter⟩ := h.parts
  exact .ok ⟨rfl, rfl, Nat.lt_trans hshorter hcolon⟩

/-- An entry of a record is a field, or is skipped. -/
theorem recordEntry_padded (hpad : Spaces pad) {fields : Fields} (hfields : FieldsPadded pad fields)
    (key : String) (slots : fields.Slots) : ReadsPadded pad (recordEntry fields key slots) := by
  intro input
  have hfield := hfields key slots input
  unfold recordEntry
  generalize fields.readField key slots (input ++ pad) = x at hfield ⊢
  generalize fields.readField key slots input = y at hfield ⊢
  cases hfield with
  | some h => exact h
  | none => exact (skipEntry_padded hpad key input).map fun _ _ h => ⟨rfl, h⟩

/-- An entry of a record with others within is a field, or is kept as it is. -/
theorem flatEntry_padded (hpad : Spaces pad) {fields : Fields} (hfields : FieldsPadded pad fields)
    (key : String) (state : fields.Slots × List (String × Json)) :
    ReadsPadded pad (flatEntry fields key state) := by
  intro input
  have hfield := hfields key state.1 input
  unfold flatEntry
  generalize fields.readField key state.1 (input ++ pad) = x at hfield ⊢
  generalize fields.readField key state.1 input = y at hfield ⊢
  cases hfield with
  | some h =>
    refine h.map fun x y h => ?_
    obtain ⟨slots, short, rfl, rfl, hshorter⟩ := h.parts
    exact ⟨rfl, rfl, hshorter⟩
  | none =>
    refine Agree.bind (colon_padded hpad input) fun x y h => ?_
    obtain ⟨rfl, hcolon⟩ := h
    refine Agree.bind (within_padded _ (readAny_padded hpad innerDepth y)) fun x y h => ?_
    obtain ⟨value, short, rfl, rfl, hshorter⟩ := h.parts
    exact .ok ⟨rfl, rfl, Nat.lt_trans hshorter hcolon⟩

mutual

/-- **Every shape reads the same with white space behind its text.** -/
theorem Shape.read_padded (hpad : Spaces pad) : (shape : Shape) → ReadsPadded pad shape.read
  | .leaf leaf, input => by
    rw [Shape.read, Shape.read]
    exact leaf.read_padded hpad input
  | .nullable shape, input => by
    rw [Shape.read, Shape.read]
    rcases next_byte hpad input with ⟨hlong, hshort⟩ | ⟨b, rest, hlong, hshort, -, hlen⟩
    · rw [hlong, hshort]
      exact .error _ _
    · rw [hlong, hshort]
      simp only
      split
      · exact (word_padded hpad tails_inked.1 rest).map fun _ _ h => ⟨rfl, h.mono hlen⟩
      · refine (shape.read_padded hpad (b :: rest)).map fun x y h => ?_
        obtain ⟨value, short, rfl, rfl, hshorter⟩ := h.parts
        exact ⟨rfl, rfl, Nat.lt_of_lt_of_le hshorter hlen⟩
  | .list item, input => by
    rw [Shape.read, Shape.read]
    rcases next_byte hpad input with ⟨hlong, hshort⟩ | ⟨b, rest, hlong, hshort, -, hlen⟩
    · rw [hlong, hshort]
      exact .error _ _
    · rw [hlong, hshort]
      exact SameRead.widen (readList_padded hpad (item.read_padded hpad) b rest _ _)
        (Nat.le_of_lt hlen)
  | .dict, input => by
    rw [Shape.read, Shape.read]
    rcases next_byte hpad input with ⟨hlong, hshort⟩ | ⟨b, rest, hlong, hshort, -, hlen⟩
    · rw [hlong, hshort]
      exact .error _ _
    · rw [hlong, hshort]
      by_cases hb : b = '\x7b'.toUInt8
      · simp only [if_pos hb]
        have hentry := dictEntry_padded hpad
        exact SameRead.widen (readEntries_padded hpad hentry _ _ true Dict.empty rest
          (Nat.lt_succ_self _) (Nat.lt_succ_self _)) (Nat.le_of_lt hlen)
      · simp only [if_neg hb]
        exact .error _ _
  | .record name fields, input => by
    rw [Shape.read, Shape.read]
    rcases next_byte hpad input with ⟨hlong, hshort⟩ | ⟨b, rest, hlong, hshort, -, hlen⟩
    · rw [hlong, hshort]
      exact .error _ _
    · rw [hlong, hshort]
      by_cases hb : b = '\x7b'.toUInt8
      · simp only [if_pos hb]
        have hentry := recordEntry_padded hpad (fields.readField_padded hpad)
        refine Agree.bind (readEntries_padded hpad hentry _ _ true fields.noSlots rest
          (Nat.lt_succ_self _) (Nat.lt_succ_self _)) fun x y h => ?_
        obtain ⟨slots, short, rfl, rfl, hshorter⟩ := h.parts
        simp only
        cases fields.fill slots with
        | error cause => exact .error _ _
        | ok values => exact .ok ⟨rfl, rfl, Nat.lt_trans hshorter hlen⟩
      · simp only [if_neg hb]
        by_cases hb : b = '['.toUInt8
        · simp only [if_pos hb]
          refine Agree.bind (fields.readInOrder_padded hpad name fields.size 0 rest)
            fun x y h => ?_
          obtain ⟨values, short, rfl, rfl, hshorter⟩ := h.parts
          refine Agree.bind (closeList_padded hpad short) fun x y h => ?_
          obtain ⟨rfl, hclosing⟩ := h
          exact .ok ⟨rfl, rfl, show y.length < _ by omega⟩
        · simp only [if_neg hb]
          exact .error _ _
  | .flattened name inner fields, input => by
    rw [Shape.read, Shape.read]
    rcases next_byte hpad input with ⟨hlong, hshort⟩ | ⟨b, rest, hlong, hshort, -, hlen⟩
    · rw [hlong, hshort]
      exact .error _ _
    · rw [hlong, hshort]
      by_cases hb : b = '\x7b'.toUInt8
      · simp only [if_pos hb]
        have hentry := flatEntry_padded hpad (fields.readField_padded hpad)
        refine Agree.bind (readEntries_padded hpad hentry _ _ true (fields.noSlots, []) rest
          (Nat.lt_succ_self _) (Nat.lt_succ_self _)) fun x y h => ?_
        obtain ⟨⟨slots, entries⟩, short, rfl, rfl, hshorter⟩ := h.parts
        simp only
        cases fields.fill slots with
        | error cause => exact .error _ _
        | ok values =>
          cases inner.ofEntries entries.reverse with
          | error cause => exact .error _ _
          | ok innerValues => exact .ok ⟨rfl, rfl, Nat.lt_trans hshorter hlen⟩
      · simp only [if_neg hb]
        exact .error _ _

/-- A field reads the same. -/
theorem Fields.readField_padded (hpad : Spaces pad) : (fields : Fields) → (key : String) →
    (slots : fields.Slots) → (input : Bytes) →
    SameField pad input.length (fields.readField key slots (input ++ pad))
      (fields.readField key slots input)
  | .nil, key, slots, input => by
    rw [Fields.readField, Fields.readField]
    exact .none
  | .cons name presence shape rest, key, slots, input => by
    rw [Fields.readField, Fields.readField]
    by_cases hkey : key = name
    · simp only [if_pos hkey]
      refine .some ?_
      cases (slots.1 : Option shape.Val) with
      | some value => exact .error _ _
      | none =>
        refine Agree.bind (colon_padded hpad input) fun x y h => ?_
        obtain ⟨rfl, hcolon⟩ := h
        refine Agree.bind (within_padded _ (shape.read_padded hpad y)) fun x y h => ?_
        obtain ⟨value, short, rfl, rfl, hshorter⟩ := h.parts
        exact .ok ⟨rfl, rfl, Nat.lt_trans hshorter hcolon⟩
    · have hrest := rest.readField_padded hpad key slots.2 input
      simp only [if_neg hkey]
      generalize rest.readField key slots.2 (input ++ pad) = x at hrest ⊢
      generalize rest.readField key slots.2 input = y at hrest ⊢
      cases hrest with
      | none => exact .none
      | some h =>
        refine .some (h.map fun x y h => ?_)
        obtain ⟨others, short, rfl, rfl, hshorter⟩ := h.parts
        exact ⟨rfl, rfl, hshorter⟩

/-- A record that is written as a list reads the same. -/
theorem Fields.readInOrder_padded (hpad : Spaces pad) : (fields : Fields) → (record : String) →
    (total index : Nat) → (input : Bytes) →
    Agree (SameRead pad (input.length + 1)) (fields.readInOrder record total index (input ++ pad))
      (fields.readInOrder record total index input)
  | .nil, record, total, index, input => by
    rw [Fields.readInOrder, Fields.readInOrder]
    exact .ok ⟨rfl, rfl, Nat.lt_succ_self _⟩
  | .cons name presence shape rest, record, total, index, input => by
    rw [Fields.readInOrder, Fields.readInOrder]
    refine Agree.bind (nextItem_padded hpad index input) fun x y h => ?_
    cases h with
    | closing hclosing =>
      simp only
      split
      · refine Agree.bind (rest.readInOrder_padded hpad record total (index + 1) input)
          fun x y h => ?_
        obtain ⟨values, short, rfl, rfl, hshorter⟩ := h.parts
        exact .ok ⟨rfl, rfl, hshorter⟩
      · exact .error _ _
    | @part long start hstart =>
      obtain ⟨rfl, hstart⟩ := hstart
      refine Agree.bind (within_padded _ (shape.read_padded hpad start)) fun x y h => ?_
      obtain ⟨value, short, rfl, rfl, hshorter⟩ := h.parts
      refine Agree.bind (rest.readInOrder_padded hpad record total (index + 1) short)
        fun x y h => ?_
      obtain ⟨values, after, rfl, rfl, hafter⟩ := h.parts
      exact .ok ⟨rfl, rfl, show after.length < _ by omega⟩

end

/-- White space in front of a text is skipped by every shape. -/
theorem Shape.read_skips (hpad : Spaces pad) (shape : Shape) (input : Bytes) :
    shape.read (pad ++ input) = shape.read input := by
  cases shape with
  | leaf leaf =>
    rw [Shape.read, Shape.read, Leaf.read, Leaf.read, skipSpace_append hpad]
  | _ => rw [Shape.read, Shape.read, skipSpace_append hpad]

/-- **A whole text is read alike with any white space around it.** -/
theorem Shape.parse_padded {before after : Bytes} (hbefore : Spaces before) (hafter : Spaces after)
    (shape : Shape) (input : Bytes) :
    Agree (· = ·) (shape.parse (before ++ input ++ after)) (shape.parse input) := by
  unfold Shape.parse Shape.readWhole
  refine Agree.mapError ?_ _ _
  rw [List.append_assoc, shape.read_skips hbefore]
  refine Agree.bind (shape.read_padded hafter input) fun x y h => ?_
  obtain ⟨value, rest, rfl, rfl, -⟩ := h.parts
  rcases next_byte hafter rest with ⟨hlong, hshort⟩ | ⟨b, tail, hlong, hshort, -, -⟩
  · simp only [hlong, hshort]
    exact .ok rfl
  · simp only [hlong, hshort]
    exact .error _ _

end CloudIde.Json
