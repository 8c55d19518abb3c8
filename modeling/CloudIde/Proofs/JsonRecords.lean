import CloudIde.Http.Body
import CloudIde.Proofs.JsonNumbers
import CloudIde.Proofs.Trimming
import Mathlib.Data.List.Nodup

/-!
# Records that are read

The fields of a record may stand in an object in any order, and what may be absent may be left out.
`Fields.Says` says what such an object looks like for the values of the fields, and `read_record`
that it is read as these values. What the reader has found on the way is described by the names of
the fields that it has met: `Fields.found` has the values of those and of no others.

A null is a value like any other for a field that can be null, and for such a field nothing at all
is read as null.
-/

namespace CloudIde.Json

open Lexeme

/-! ## Variants and nulls -/

theorem variant_get {first : String} {others : List String} (h : (first :: others).Nodup)
    (place : Fin (others.length + 1)) :
    variant first others ((first :: others).get place) = .ok place := by
  have hfound : (first :: others).finIdxOf? ((first :: others).get place) = some place := by
    rw [List.finIdxOf?_eq_some_iff]
    refine ⟨rfl, fun other hlt hsame => ?_⟩
    have heq : other = place := List.nodup_iff_injective_get.1 h (by simpa using hsame)
    exact absurd hlt (by simp [heq])
  unfold variant
  rw [hfound]

/-- Variants are sound when no two have one name. -/
theorem sound_choice {first : String} {others : List String} (h : (first :: others).Nodup) :
    (Shape.leaf (.choice first others)).Sound where
  starts place := by
    rw [Shape.toJson]
    exact starts_text ((first :: others).get place)
  reads place rest _ := by
    have hvariant := variant_get h place
    obtain ⟨tail, htail, hread⟩ := text_renderText ((first :: others).get place) rest
    have hbytes : ((Shape.leaf (.choice first others)).toJson place).toBytes
        = Bytes.ofText (renderText ((first :: others).get place)) := by
      rw [Shape.toJson]
      exact toBytes_text _
    rw [hbytes, htail, Shape.read, Leaf.read, skipSpace_cons (by decide)]
    simp only [Leaf.readFrom, if_true, hread, ok_bind, hvariant]
    rfl

/-- Texts do not begin like a null. -/
theorem text_not_null (text : String) (tail : Bytes) :
    (Json.text text).toBytes ≠ 'n'.toUInt8 :: tail := by
  obtain ⟨rest, hrest, -⟩ := text_renderText text []
  rw [List.append_nil] at hrest
  rw [toBytes_text, hrest]
  exact fun h => absurd (List.cons.inj h).1 (by decide)

theorem toBytes_null : Json.null.toBytes = 'n'.toUInt8 :: nullTail := by
  show Bytes.ofText "null" = 'n'.toUInt8 :: Bytes.ofText "ull"
  rw [Bytes.ofText_eq, Bytes.ofText_eq]
  rfl

/-- A value or null is sound when no value begins like a null. -/
theorem sound_nullable {shape : Shape} (h : shape.Sound)
    (hstart : ∀ v tail, (shape.toJson v).toBytes ≠ 'n'.toUInt8 :: tail) :
    (Shape.nullable shape).Sound := by
  constructor
  · intro v
    rw [Shape.toJson]
    cases hv : (v : Option shape.Val) with
    | none => exact ⟨_, _, toBytes_null, by decide⟩
    | some w => exact h.starts w
  · intro v rest hrest
    rw [Shape.toJson, Shape.read]
    cases hv : (v : Option shape.Val) with
    | none =>
      have hbytes : (Option.map (fun v => shape.toJson v) (none : Option shape.Val)).getD .null
          = .null := rfl
      rw [hbytes, toBytes_null, List.cons_append, skipSpace_cons (by decide)]
      simp [word_append]
    | some w =>
      obtain ⟨b, tail, hb, hstarts⟩ := h.starts w
      have hread := h.reads w rest hrest
      have hne : b ≠ 'n'.toUInt8 := by
        rintro rfl
        exact hstart w tail hb
      have hbytes : (Option.map (fun v => shape.toJson v) (some w)).getD .null
          = shape.toJson w := rfl
      rw [hbytes]
      rw [hb, List.cons_append] at hread ⊢
      rw [skipSpace_cons hstarts.1]
      simp only [if_neg hne, hread, map_ok]

/-! ## Fields -/

/-- The fields have sound shapes, and no two have one name. -/
def Fields.Sound : Fields → Prop
  | .nil => True
  | .cons name _ shape rest => shape.Sound ∧ name ∉ rest.names ∧ rest.Sound

/-- All fields, named and in JSON form, nulls included. -/
def Fields.named : (fields : Fields) → fields.Val → List (String × Json)
  | .nil, _ => []
  | .cons name _ shape rest, v => (name, shape.toJson v.1) :: rest.named v.2

/-- The fields whose names were met, with their values. -/
def Fields.found (met : String → Bool) : (fields : Fields) → fields.Val → fields.Slots
  | .nil, _ => ()
  | .cons name _ _ rest, v => (if met name then some v.1 else none, rest.found met v.2)

/-- The fields whose names were not met have the values that absent ones have. -/
def Fields.Complete (met : String → Bool) : (fields : Fields) → fields.Val → Prop
  | .nil, _ => True
  | .cons name presence shape rest, v =>
    (met name = true ∨ shape.absent? presence = some v.1) ∧ rest.Complete met v.2

/-- Whether some entries have a name. -/
def meets (entries : List (String × Json)) (name : String) : Bool :=
  entries.any fun entry => entry.1 = name

/-- The entries of an object say the values of some fields: each stands there at most once, in any
order, and what is left out is read as it is. -/
structure Fields.Says (fields : Fields) (v : fields.Val) (entries : List (String × Json)) :
    Prop where
  once : (entries.map Prod.fst).Nodup
  named : ∀ entry ∈ entries, entry ∈ fields.named v
  complete : fields.Complete (meets entries) v

variable {met met' : String → Bool}

theorem Fields.name_of_named : (fields : Fields) → (v : fields.Val) → ∀ {entry : String × Json},
    entry ∈ fields.named v → entry.1 ∈ fields.names
  | .nil, _, _, h => absurd h List.not_mem_nil
  | .cons name _ _ rest, v, entry, h => by
    rcases List.mem_cons.1 h with rfl | hrest
    · exact List.mem_cons_self
    · exact List.mem_cons_of_mem name (rest.name_of_named v.2 hrest)

theorem Fields.found_congr : (fields : Fields) → (v : fields.Val) →
    (∀ name ∈ fields.names, met name = met' name) → fields.found met v = fields.found met' v
  | .nil, _, _ => rfl
  | .cons name _ _ rest, v, h => by
    have hfirst : met name = met' name := h name List.mem_cons_self
    have hrest : rest.found met v.2 = rest.found met' v.2 :=
      rest.found_congr v.2 fun other hother => h other (List.mem_cons_of_mem name hother)
    unfold Fields.found
    rw [hfirst, hrest]

theorem Fields.found_nothing : (fields : Fields) → (v : fields.Val) →
    fields.found (fun _ => false) v = fields.noSlots
  | .nil, _ => rfl
  | .cons _ _ _ rest, v => congrArg (Prod.mk none) (rest.found_nothing v.2)

/-- **A field that is met is read**, and then its value is found beside the others. -/
theorem Fields.readField_found : (fields : Fields) → fields.Sound → (v : fields.Val) →
    ∀ {name : String} {json : Json}, (name, json) ∈ fields.named v → met name = false →
      ∀ {rest : Bytes}, Follows rest →
        fields.readField name (fields.found met v) (':'.toUInt8 :: (json.toBytes ++ rest)) =
          some (.ok (fields.found (fun other => met other || other = name) v, rest))
  | .nil, _, _, _, _, h, _, _, _ => absurd h List.not_mem_nil
  | .cons own _ shape others, hsound, v, name, json, h, hfree, rest, hrest => by
    obtain ⟨hshape, hnew, hothers⟩ := hsound
    rw [Fields.readField]
    by_cases hname : name = own
    · -- the other fields have other names
      subst hname
      have hjson : json = shape.toJson v.1 := by
        rcases List.mem_cons.1 h with hhere | hlater
        · exact (Prod.mk.inj hhere).2
        · exact absurd (others.name_of_named v.2 hlater) hnew
      have hsame : others.found met v.2 =
          others.found (fun other => met other || other = name) v.2 :=
        others.found_congr v.2 fun other hother => by
          have hne : other ≠ name := fun he => hnew (he ▸ hother)
          simp [hne]
      have hcolon : skipSpace (':'.toUInt8 :: (json.toBytes ++ rest)) =
          ':'.toUInt8 :: (json.toBytes ++ rest) := skipSpace_cons (by decide)
      have hread := hshape.reads v.1 rest hrest
      rw [← hjson] at hread
      simp [Fields.found, hfree, hsame, colon, hcolon, within, hread, pure, Except.pure]
    · have hlater : (name, json) ∈ others.named v.2 := by
        rcases List.mem_cons.1 h with hhere | hlater
        · exact absurd (Prod.mk.inj hhere).1 hname
        · exact hlater
      have hread := others.readField_found hothers v.2 hlater hfree hrest
      rw [if_neg hname]
      have hne : own ≠ name := Ne.symm hname
      have hown : (met own || decide (own = name)) = met own := by simp [hne]
      simp only [Fields.found, hread, hown]
      rfl

/-- The reader of the entries of a record. -/
def recordEntry (fields : Fields) (key : String) (slots : fields.Slots) (input : Bytes) :
    Except Stop (fields.Slots × Bytes) :=
  match fields.readField key slots input with
  | some reading => reading
  | none => (skipEntry key input).map fun rest => (slots, rest)

/-- A reader of entries keeps what was found of some fields in its state, and takes an entry for one
of them as the fields do. -/
def Fields.TakenBy (fields : Fields) {σ : Type} (put : fields.Slots → σ)
    (entry : String → σ → Bytes → Except Stop (σ × Bytes)) : Prop :=
  ∀ {key : String} {slots slots' : fields.Slots} {input rest : Bytes},
    fields.readField key slots input = some (.ok (slots', rest)) →
      entry key (put slots) input = .ok (put slots', rest)

theorem takenBy_record (fields : Fields) : fields.TakenBy id (recordEntry fields) := by
  intro key slots slots' input rest h
  show recordEntry fields key slots input = _
  unfold recordEntry
  rw [h]
  rfl

/-- Entries of new names are taken one after the other. -/
theorem takes_named {fields : Fields} {σ : Type} {put : fields.Slots → σ}
    {entry : String → σ → Bytes → Except Stop (σ × Bytes)} (htaken : fields.TakenBy put entry)
    (met : String → Bool) (hsound : fields.Sound) (v : fields.Val)
    {entries : List (String × Json)} (honce : (entries.map Prod.fst).Nodup)
    (hnamed : ∀ entry ∈ entries, entry ∈ fields.named v)
    (hfree : ∀ entry ∈ entries, met entry.1 = false) :
    Takes entry (put (fields.found met v)) entries
      (put (fields.found (fun name => met name || meets entries name) v)) := by
  induction entries generalizing met with
  | nil => simpa [meets] using Takes.none
  | cons first rest ih =>
    obtain ⟨name, json⟩ := first
    obtain ⟨hnew, hrest⟩ := List.nodup_cons.1 honce
    have hlater := ih (fun other => met other || other = name) hrest
      (fun e he => hnamed e (List.mem_cons_of_mem _ he)) fun e he => by
        have hne : e.1 ≠ name := fun hsame => hnew (List.mem_map.2 ⟨e, he, hsame⟩)
        simp [hfree e (List.mem_cons_of_mem _ he), hne]
    have hmet : (fun other => (met other || decide (other = name)) || meets rest other) =
        fun other => met other || meets ((name, json) :: rest) other := by
      funext other
      simp [meets, Bool.or_assoc, eq_comm]
    rw [hmet] at hlater
    refine .next (fun input hinput => htaken ?_) hlater
    exact fields.readField_found hsound v (hnamed _ List.mem_cons_self)
      (hfree _ List.mem_cons_self) hinput

theorem Fields.fill_found : (fields : Fields) → (v : fields.Val) → fields.Complete met v →
    fields.fill (fields.found met v) = .ok v
  | .nil, _, _ => rfl
  | .cons name presence shape rest, v, ⟨hfirst, hrest⟩ => by
    have hvalue : ((if met name then some v.1 else none : Option shape.Val) <|>
        shape.absent? presence) = some v.1 := by
      rcases hfirst with hmet | habsent
      · simp [hmet]
      · by_cases hmet : met name = true
        · simp [hmet]
        · simp [hmet, habsent]
    unfold Fields.fill Fields.found
    simp only [hvalue, rest.fill_found v.2 hrest]
    rfl

/-- **An object that says the values of some fields is read as the record with these values.** -/
theorem read_record (name : String) {fields : Fields} (hsound : fields.Sound) {v : fields.Val}
    {entries : List (String × Json)} (h : fields.Says v entries) (rest : Bytes) :
    (Shape.record name fields).read ((Json.object entries).toBytes ++ rest) = .ok (v, rest) := by
  have htakes := takes_named (takenBy_record fields) (fun _ => false) hsound v h.once h.named
    fun _ _ => rfl
  simp only [Bool.false_or, id_eq] at htakes
  rw [fields.found_nothing v] at htakes
  have hread : readEntries (recordEntry fields)
      ((Bytes.ofText (renderFields entries) ++ '\x7d'.toUInt8 :: rest).length + 1) true
      fields.noSlots (Bytes.ofText (renderFields entries) ++ '\x7d'.toUInt8 :: rest) =
        .ok (fields.found (meets entries) v, rest) := by
    refine readEntries_render htakes ?_ rest
    rw [List.length_append]
    exact Nat.lt_succ_of_le (Nat.le_trans (length_le_fields _) (Nat.le_add_right _ _))
  rw [toBytes_object, Shape.read, skipSpace_cons (by decide)]
  show (readEntries (recordEntry fields) _ true _ _ >>= _) = _
  rw [hread, ok_bind]
  show (here rest (fields.fill (fields.found (meets entries) v)) >>= fun values => _) = _
  rw [fields.fill_found v h.complete]
  rfl

/-- The shape is that of a record with sound fields. -/
def Shape.SoundRecord : Shape → Prop
  | .record _ fields => fields.Sound
  | _ => False

/-- The entries of an object say a value of the shape, which is that of a record. -/
def Shape.Says : (shape : Shape) → shape.Val → List (String × Json) → Prop
  | .record _ fields, v, entries => fields.Says v entries
  | _, _, _ => False

theorem Shape.Says.parse {shape : Shape} (hsound : shape.SoundRecord) {v : shape.Val}
    {entries : List (String × Json)} (h : shape.Says v entries) :
    shape.parse (Json.object entries).toBytes = .ok v := by
  cases shape with
  | record name fields =>
    have hread := read_record name hsound h []
    rw [List.append_nil] at hread
    exact Shape.parse_eq_ok.2 ⟨[], hread, rfl⟩
  | _ => exact h.elim

end CloudIde.Json

namespace CloudIde

/-! ## Bodies -/

theorem toList_render_object (entries : List (String × Json)) :
    (Json.object entries).render.toList =
      '\x7b' :: ((Json.renderFields entries).toList ++ ['\x7d']) := by
  rw [Json.render]
  simp

theorem trimmed_object (entries : List (String × Json)) :
    Trimmed (Json.object entries).render.toList := by
  rw [toList_render_object]
  refine ⟨?_, ?_⟩
  · intro c hc
    cases hc
    decide
  · intro c hc
    rw [List.reverse_cons, List.reverse_append] at hc
    cases hc
    decide

/-- White space after an object is trimmed. -/
theorem trim_object (entries : List (String × Json)) {blanks : List Char}
    (hblanks : ∀ c ∈ blanks, isBlank c = true) :
    trim ((Json.object entries).render ++ String.ofList blanks) = (Json.object entries).render := by
  have hnone : AllBlank [] := by simp [AllBlank]
  have hcore := trimChars_enclosed hnone hblanks (trimmed_object entries)
  unfold trim
  rw [String.toList_append, String.toList_ofList]
  rw [List.nil_append] at hcore
  rw [hcore, String.ofList_toList]

/-- The text of an object begins with its brace. -/
theorem render_object_ne (entries : List (String × Json)) (text : String)
    (h : text.toList.head? ≠ some '\x7b') : (Json.object entries).render ≠ text := by
  rintro rfl
  rw [toList_render_object] at h
  exact h rfl

/-- The entries of an object say a value. -/
def Wire.Says {α : Type} [Wire α] (a : α) (entries : List (String × Json)) : Prop :=
  (Wire.shape α).Says (Wire.toVal a) entries

theorem Wire.parseText_object {α : Type} [Wire α] (hsound : (Wire.shape α).SoundRecord) {a : α}
    {entries : List (String × Json)} (h : Wire.Says a entries) :
    Wire.parseText α (Json.object entries).render = .ok a := by
  have hshape : (Wire.shape α).parse (Bytes.ofText (Json.object entries).render) =
      .ok (Wire.toVal a) := Json.Shape.Says.parse hsound h
  unfold Wire.parseText Wire.parse
  rw [hshape, map_ok, Wire.ofVal_toVal]

/-- **A body that is an object gives what the entries say**, whatever white space comes after it. -/
theorem Body.optional_object {α : Type} [Wire α] (hsound : (Wire.shape α).SoundRecord) {a : α}
    {entries : List (String × Json)} (h : Wire.Says a entries) {blanks : List Char}
    (hblanks : ∀ c ∈ blanks, isBlank c = true) :
    Body.optional α ((Json.object entries).toBytes ++ Bytes.ofText (String.ofList blanks)) =
      .ok (some a) := by
  have hbytes : (Json.object entries).toBytes ++ Bytes.ofText (String.ofList blanks)
      = Bytes.ofText ((Json.object entries).render ++ String.ofList blanks) :=
    (Bytes.ofText_append _ _).symm
  have hempty : (Json.object entries).render.isEmpty = false := by
    simpa using render_object_ne entries "" (by simp)
  have hnull : (Json.object entries).render ≠ "null" := render_object_ne entries "null" (by decide)
  unfold Body.optional Utf8.decode
  rw [hbytes, Bytes.text?_ofText]
  simp only [trim_object entries hblanks, hempty, hnull, Wire.parseText_object hsound h]
  rfl

end CloudIde
