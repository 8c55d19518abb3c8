import CloudIde.Proofs.JsonNumbers
import CloudIde.Proofs.JsonRecords

/-!
# Faithful shapes

Which shapes are sound can be computed: `Shape.faithful` looks at the names of fields and variants,
which have to be different, and at what can be null, which must not look like a null when it is
none. Floating-point numbers are not faithful, as what is no number is written as a null.
`Shape.sound_of_faithful` says that faithful shapes are sound, whatever they are made of.
-/

namespace CloudIde.Json

open Lexeme

/-! ## Records -/

theorem Fields.Sound.names_nodup : (fields : Fields) → fields.Sound → fields.names.Nodup
  | .nil, _ => List.nodup_nil
  | .cons _ _ _ rest, h => List.nodup_cons.2 ⟨h.2.1, names_nodup rest h.2.2⟩

/-- A null that is left out is read as it is. -/
theorem Shape.Sound.absent {shape : Shape} (h : shape.Sound) {v : shape.Val}
    (hnull : isNull (shape.toJson v) = true) :
    shape.absent? .omittable = some v := by
  cases shape with
  | nullable inner =>
    -- the text of a null is read as no value, so there is none
    have hjson : (Shape.nullable inner).toJson v = .null := by
      cases hv : (Shape.nullable inner).toJson v with
      | null => rfl
      | _ =>
        rw [hv] at hnull
        exact Bool.noConfusion hnull
    have hform (w : (Shape.nullable inner).Val) : (Shape.nullable inner).toJson w
        = ((w : Option inner.Val).map fun v => inner.toJson v).getD .null := by
      rw [Shape.toJson]
    have hnone : (Shape.nullable inner).toJson (none : Option inner.Val) = .null := hform _
    have hread := h.reads v [] follows_nil
    have hread' := h.reads (none : Option inner.Val) [] follows_nil
    rw [hjson] at hread
    rw [hnone, hread] at hread'
    have hv : v = (none : Option inner.Val) := (Prod.mk.inj (Except.ok.inj hread')).1
    rw [hv]
    rfl
  | leaf leaf =>
    cases leaf <;> exact absurd hnull (by simp [Shape.toJson, Leaf.toJson, isNull])
  | list item => exact absurd hnull (by simp [Shape.toJson, isNull])
  | dict => exact absurd hnull (by simp [Shape.toJson, ofDict, isNull])
  | record name fields => exact absurd hnull (by simp [Shape.toJson, isNull])
  | flattened name inner fields => exact absurd hnull (by simp [Shape.toJson, isNull])

/-- What is written are fields with their values. -/
theorem Fields.toJson_sublist : (fields : Fields) → (v : fields.Val) →
    (fields.toJson v).Sublist (fields.named v)
  | .nil, _ => by
    rw [Fields.toJson]
    exact List.nil_sublist _
  | .cons name presence shape rest, v => by
    have hrest := rest.toJson_sublist v.2
    rw [Fields.toJson, Fields.named]
    split
    · exact hrest.cons _
    · exact hrest.cons_cons _

theorem Fields.names_named : (fields : Fields) → (v : fields.Val) →
    (fields.named v).map Prod.fst = fields.names
  | .nil, _ => rfl
  | .cons name _ _ rest, v => congrArg (name :: ·) (rest.names_named v.2)

theorem Fields.Complete.mono {met met' : String → Bool} : (fields : Fields) → {v : fields.Val} →
    (∀ name, met name = true → met' name = true) → fields.Complete met v → fields.Complete met' v
  | .nil, _, _, _ => trivial
  | .cons name _ _ rest, _, hmet, h => ⟨h.1.imp_left (hmet name), mono rest hmet h.2⟩

theorem Fields.complete_toJson : (fields : Fields) → fields.Sound → (v : fields.Val) →
    fields.Complete (meets (fields.toJson v)) v
  | .nil, _, _ => trivial
  | .cons name presence shape rest, hsound, v => by
    have hrest := rest.complete_toJson hsound.2.2 v.2
    rw [Fields.toJson]
    split
    · next hnull =>
      -- what is left out is a null that may be
      simp only [Bool.and_eq_true, decide_eq_true_eq] at hnull
      obtain ⟨rfl, hnull⟩ := hnull
      exact ⟨Or.inr (hsound.1.absent hnull), hrest⟩
    · refine ⟨Or.inl (by simp [meets]), Complete.mono rest (fun other hother => ?_) hrest⟩
      unfold meets at hother ⊢
      rw [List.any_cons, hother, Bool.or_true]

/-- What is written for the fields of a record says their values. -/
theorem Fields.says_toJson {fields : Fields} (hsound : fields.Sound) (v : fields.Val) :
    fields.Says v (fields.toJson v) where
  once := by
    have hnames := (fields.toJson_sublist v).map Prod.fst
    rw [fields.names_named v] at hnames
    exact hnames.nodup (Fields.Sound.names_nodup fields hsound)
  named _ h := (fields.toJson_sublist v).subset h
  complete := fields.complete_toJson hsound v

theorem starts_object (entries : List (String × Json)) :
    ∃ b tail, (Json.object entries).toBytes = b :: tail ∧ Starts b ∧ b ≠ 'n'.toUInt8 := by
  have hbytes := toBytes_object entries []
  rw [List.append_nil] at hbytes
  exact ⟨_, _, hbytes, by decide, by decide⟩

theorem sound_record (name : String) {fields : Fields} (h : fields.Sound) :
    (Shape.record name fields).Sound where
  starts v := by
    rw [Shape.toJson]
    obtain ⟨b, tail, hbytes, hstarts, -⟩ := starts_object (fields.toJson v)
    exact ⟨b, tail, hbytes, hstarts⟩
  reads v rest _ := by
    rw [Shape.toJson]
    exact read_record name h (Fields.says_toJson h v) rest

/-! ## Inner fields -/

/-- The values of a leaf are read back, when they are kept as JSON values first. -/
structure Leaf.Kept (leaf : Leaf) : Prop where
  reads (v : leaf.Val) (depth : Nat) {rest : Bytes} (h : Follows rest) :
    readAny depth ((leaf.toJson v).toBytes ++ rest) = .ok (leaf.toJson v, rest)
  ofJson (v : leaf.Val) : leaf.ofJson (leaf.toJson v) = .ok v

theorem readAny_text (s : String) (depth : Nat) (rest : Bytes) :
    readAny depth ((Json.text s).toBytes ++ rest) = .ok (.text s, rest) := by
  obtain ⟨tail, htail, hread⟩ := text_renderText s rest
  rw [toBytes_text, htail, readAny.eq_def, skipSpace_cons (by decide)]
  show ((Lexeme.text tail).map fun x => (Json.text x.1, x.2)) = _
  rw [hread]
  rfl

theorem readAny_flag (v : Bool) (depth : Nat) (rest : Bytes) :
    readAny depth ((Json.flag v).toBytes ++ rest) = .ok (.flag v, rest) := by
  cases v with
  | true =>
    rw [toBytes_true, List.cons_append, readAny.eq_def, skipSpace_cons (by decide)]
    show ((word trueTail (trueTail ++ rest)).map fun rest => (Json.flag true, rest)) = _
    rw [word_append]
    rfl
  | false =>
    rw [toBytes_false, List.cons_append, readAny.eq_def, skipSpace_cons (by decide)]
    show ((word falseTail (falseTail ++ rest)).map fun rest => (Json.flag false, rest)) = _
    rw [word_append]
    rfl

/-- A null is read where anything is. -/
theorem readAny_null (depth : Nat) (rest : Bytes) :
    readAny depth (Json.null.toBytes ++ rest) = .ok (.null, rest) := by
  rw [toBytes_null, List.cons_append, readAny.eq_def, skipSpace_cons (by decide)]
  show ((word nullTail (nullTail ++ rest)).map fun rest => (Json.null, rest)) = _
  rw [word_append]
  rfl

theorem kept_text : Leaf.Kept .text where
  reads v depth _ _ := readAny_text v depth _
  ofJson _ := rfl

theorem kept_flag : Leaf.Kept .flag where
  reads v depth _ _ := readAny_flag v depth _
  ofJson _ := rfl

theorem kept_choice {first : String} {others : List String} (h : (first :: others).Nodup) :
    Leaf.Kept (.choice first others) where
  reads v depth _ _ := readAny_text ((first :: others).get v) depth _
  ofJson v := variant_get h v

theorem readAny_number (wanted : Wanted) (depth : Nat) {b : UInt8} (h : StartsNumber b)
    (rest : Bytes) :
    readAny depth (b :: rest)
      = (readNumber wanted b rest).map fun x => (x.1.toJson, x.2) := by
  obtain ⟨hstarts, hn, ht, hf⟩ := h.starts
  unfold readNumber
  rw [readAny.eq_def, skipSpace_cons hstarts.1]
  simp only [if_neg hn, if_neg ht, if_neg hf]
  rcases h with rfl | hdigit
  · simp only [if_true]
  · simp only [if_neg (minus_not_digit hdigit), if_pos hdigit]

theorem kept_int32 : Leaf.Kept .int32 where
  reads v depth rest hrest := by
    obtain ⟨b, tail, number, hbytes, hstarts, hnumber, hread⟩ := readNumber_int32 .int32 v
    have hbytes' : (Leaf.toJson .int32 v).toBytes = b :: tail := hbytes
    rw [hbytes', List.cons_append, readAny_number .int32 depth hstarts, hread rest hrest]
    show Except.ok (number.toJson, rest) = _
    rw [hnumber]
    rfl
  ofJson v := by
    have hlow : Int32.minValue.toInt ≤ Int32.toInt v := Int32.minValue_le_toInt v
    have hhigh : Int32.toInt v ≤ Int32.maxValue.toInt := Int32.toInt_le v
    show (if Int32.minValue.toInt ≤ Int32.toInt v ∧ Int32.toInt v ≤ Int32.maxValue.toInt then
      Except.ok (Int32.ofInt (Int32.toInt v)) else _) = Except.ok v
    rw [if_pos ⟨hlow, hhigh⟩, Int32.ofInt_toInt]

/-- The inner fields can be kept, and no two have one name. -/
def FlatFields.Sound : FlatFields → Prop
  | .nil => True
  | .required name leaf rest | .optional name leaf rest =>
    leaf.Kept ∧ name ∉ rest.names ∧ rest.Sound

/-- All inner fields, with their values. -/
def FlatFields.all : (fields : FlatFields) → fields.Val → fields.Slots
  | .nil, _ => ()
  | .required _ _ rest, v => (some v.1, rest.all v.2)
  | .optional _ _ rest, v => (some v.1, rest.all v.2)

theorem FlatFields.fill_all : (fields : FlatFields) → (v : fields.Val) →
    fields.fill (fields.all v) = .ok v
  | .nil, _ => rfl
  | .required name leaf rest, v => by
    show (rest.fill (rest.all v.2)).map _ = _
    rw [rest.fill_all v.2]
    rfl
  | .optional name leaf rest, v => by
    show (rest.fill (rest.all v.2)).map _ = _
    rw [rest.fill_all v.2]
    rfl

/-- Takes some entries one after the other. -/
def FlatFields.takeAll (fields : FlatFields) (slots : fields.Slots)
    (entries : List (String × Json)) : Except Cause fields.Slots :=
  entries.foldlM (fun slots entry => fields.take slots entry) slots

theorem FlatFields.take_required_other {name key : String} {leaf : Leaf} {rest : FlatFields}
    (h : key ≠ name) (slot : Option leaf.Val) (slots : rest.Slots) (json : Json) :
    (FlatFields.required name leaf rest).take (slot, slots) (key, json)
      = (rest.take slots (key, json)).map fun slots => (slot, slots) := by
  conv_lhs => unfold FlatFields.take
  exact if_neg h

theorem FlatFields.take_optional_other {name key : String} {leaf : Leaf} {rest : FlatFields}
    (h : key ≠ name) (slot : Option (Option leaf.Val)) (slots : rest.Slots) (json : Json) :
    (FlatFields.optional name leaf rest).take (slot, slots) (key, json)
      = (rest.take slots (key, json)).map fun slots => (slot, slots) := by
  conv_lhs => unfold FlatFields.take
  exact if_neg h

/-- Entries of other names leave a field as it is, and are taken by the fields after it. -/
theorem FlatFields.takeAll_others {name : String} {leaf : Leaf} {rest : FlatFields}
    {slots slots' : rest.Slots} {entries : List (String × Json)}
    (hother : ∀ entry ∈ entries, entry.1 ≠ name) (h : rest.takeAll slots entries = .ok slots') :
    (∀ slot, (FlatFields.required name leaf rest).takeAll (slot, slots) entries
        = .ok (slot, slots')) ∧
      ∀ slot, (FlatFields.optional name leaf rest).takeAll (slot, slots) entries
        = .ok (slot, slots') := by
  induction entries generalizing slots with
  | nil =>
    cases h
    exact ⟨fun slot => rfl, fun slot => rfl⟩
  | cons entry entries ih =>
    obtain ⟨key, json⟩ := entry
    have hne : key ≠ name := hother _ List.mem_cons_self
    unfold FlatFields.takeAll at h
    rw [List.foldlM_cons] at h
    obtain ⟨after, hafter, h⟩ := bind_eq_ok.1 h
    obtain ⟨hrequired, hoptional⟩ := ih (fun e he => hother e (List.mem_cons_of_mem _ he)) h
    constructor
    · intro slot
      unfold FlatFields.takeAll
      rw [List.foldlM_cons, take_required_other hne, hafter, map_ok, ok_bind]
      exact hrequired slot
    · intro slot
      unfold FlatFields.takeAll
      rw [List.foldlM_cons, take_optional_other hne, hafter, map_ok, ok_bind]
      exact hoptional slot

theorem FlatFields.name_of_toJson : (fields : FlatFields) → (v : fields.Val) →
    (fields.toJson v).map Prod.fst = fields.names
  | .nil, _ => rfl
  | .required name _ rest, v => congrArg (name :: ·) (rest.name_of_toJson v.2)
  | .optional name _ rest, v => congrArg (name :: ·) (rest.name_of_toJson v.2)

/-- The JSON form of a leaf is no null. -/
theorem Leaf.toJson_ne_null (leaf : Leaf) (v : leaf.Val) : leaf.toJson v ≠ .null := by
  cases leaf <;> exact Json.noConfusion

theorem FlatFields.ne_of_toJson (fields : FlatFields) {name : String} (h : name ∉ fields.names)
    (v : fields.Val) : ∀ entry ∈ fields.toJson v, entry.1 ≠ name := by
  rintro entry hentry rfl
  rw [← fields.name_of_toJson v] at h
  exact h (List.mem_map_of_mem hentry)

/-- What may be absent is taken for what it was, present or not. -/
theorem FlatFields.take_optional {leaf : Leaf} (h : leaf.Kept) {name : String} {rest : FlatFields}
    {slots : rest.Slots} (value : Option leaf.Val) :
    (FlatFields.optional name leaf rest).take (none, slots)
      (name, (value.map leaf.toJson).getD .null) = .ok (some value, slots) := by
  cases value with
  | none =>
    unfold FlatFields.take
    exact if_pos rfl
  | some w =>
    have hjson := h.ofJson w
    have hnull := leaf.toJson_ne_null w
    rw [Option.map_some, Option.getD_some]
    generalize leaf.toJson w = json at hjson hnull
    cases json with
    | null => exact absurd rfl hnull
    | _ =>
      unfold FlatFields.take
      simp only [if_true, hjson]
      rfl

/-- The entries that are written for inner fields are taken by them. -/
theorem FlatFields.takeAll_toJson : (fields : FlatFields) → fields.Sound → (v : fields.Val) →
    fields.takeAll fields.noSlots (fields.toJson v) = .ok (fields.all v)
  | .nil, _, _ => rfl
  | .required name leaf rest, ⟨hkept, hnew, hrest⟩, (value, values) => by
    have hothers := rest.takeAll_toJson hrest values
    have hfirst : (FlatFields.required name leaf rest).take (none, rest.noSlots)
        (name, leaf.toJson value) = .ok (some value, rest.noSlots) := by
      rw [FlatFields.take, if_pos rfl, hkept.ofJson value]
      rfl
    show List.foldlM _ _ ((name, leaf.toJson value) :: rest.toJson values) = _
    rw [List.foldlM_cons]
    show ((FlatFields.required name leaf rest).take (none, rest.noSlots) _ >>= _) = _
    rw [hfirst, ok_bind]
    exact (takeAll_others (rest.ne_of_toJson hnew values) hothers).1 (some value)
  | .optional name leaf rest, ⟨hkept, hnew, hrest⟩, (value, values) => by
    have hothers := rest.takeAll_toJson hrest values
    show List.foldlM _ _ ((name, (value.map leaf.toJson).getD .null) :: rest.toJson values) = _
    rw [List.foldlM_cons]
    show ((FlatFields.optional name leaf rest).take (none, rest.noSlots) _ >>= _) = _
    rw [take_optional hkept, ok_bind]
    exact (takeAll_others (rest.ne_of_toJson hnew values) hothers).2 (some value)

theorem FlatFields.ofEntries_toJson {fields : FlatFields} (h : fields.Sound) (v : fields.Val) :
    fields.ofEntries (fields.toJson v) = .ok v := by
  have htaken := fields.takeAll_toJson h v
  unfold FlatFields.takeAll at htaken
  unfold FlatFields.ofEntries
  rw [htaken, ok_bind, fields.fill_all v]

/-- The entries that are written for inner fields are read where anything is. -/
theorem FlatFields.readAny_toJson : (fields : FlatFields) → fields.Sound → (v : fields.Val) →
    ∀ entry ∈ fields.toJson v, ∀ depth rest, Follows rest →
      readAny depth (entry.2.toBytes ++ rest) = .ok (entry.2, rest)
  | .nil, _, _, _, h => absurd h List.not_mem_nil
  | .required name leaf rest, hsound, (value, values), entry, h => by
    rcases List.mem_cons.1 h with rfl | h
    · exact fun depth rest hrest => hsound.1.reads value depth hrest
    · exact rest.readAny_toJson hsound.2.2 values entry h
  | .optional name leaf rest, hsound, (value, values), entry, h => by
    rcases List.mem_cons.1 h with rfl | h
    · intro depth rest hrest
      cases value with
      | none => exact readAny_null depth rest
      | some w => exact hsound.1.reads w depth hrest
    · exact rest.readAny_toJson hsound.2.2 values entry h

/-! ## Flattened records -/

theorem Takes.append {σ : Type} {entry : String → σ → Bytes → Except Stop (σ × Bytes)}
    {first middle last : σ} {front back : List (String × Json)} (h : Takes entry first front middle)
    (h' : Takes entry middle back last) : Takes entry first (front ++ back) last := by
  induction h with
  | none => exact h'
  | next hentry _ ih => exact .next hentry (ih h')

theorem Fields.readField_other : (fields : Fields) → {key : String} → key ∉ fields.names →
    (slots : fields.Slots) → (input : Bytes) → fields.readField key slots input = none
  | .nil, _, _, _, _ => by rw [Fields.readField]
  | .cons name _ _ rest, key, h, slots, input => by
    have hne : key ≠ name := fun he => h (he ▸ List.mem_cons_self)
    have hrest := rest.readField_other (fun hlater => h (List.mem_cons_of_mem name hlater))
      slots.2 input
    rw [Fields.readField, if_neg hne, hrest]
    rfl

/-- The reader of the entries of a flattened record. -/
def flatEntry (fields : Fields) (key : String) (state : fields.Slots × List (String × Json))
    (input : Bytes) : Except Stop ((fields.Slots × List (String × Json)) × Bytes) :=
  match fields.readField key state.1 input with
  | some reading => reading.map fun (slots, rest) => ((slots, state.2), rest)
  | none => do
    let input ← colon input
    let (value, rest) ← within (.field key) (readAny innerDepth input)
    return ((state.1, (key, value) :: state.2), rest)

theorem takenBy_flat (fields : Fields) (done : List (String × Json)) :
    fields.TakenBy (fun slots => (slots, done)) (flatEntry fields) := by
  intro key slots slots' input rest h
  unfold flatEntry
  rw [h]
  rfl

/-- Entries that no field takes are kept. -/
theorem takes_kept (fields : Fields) (slots : fields.Slots) {entries : List (String × Json)}
    (hother : ∀ entry ∈ entries, entry.1 ∉ fields.names)
    (hread : ∀ entry ∈ entries, ∀ depth rest, Follows rest →
      readAny depth (entry.2.toBytes ++ rest) = .ok (entry.2, rest))
    (done : List (String × Json)) :
    Takes (flatEntry fields) (slots, done) entries (slots, entries.reverse ++ done) := by
  induction entries generalizing done with
  | nil => exact .none
  | cons entry entries ih =>
    obtain ⟨key, json⟩ := entry
    have hlater := ih (fun e he => hother e (List.mem_cons_of_mem _ he))
      (fun e he => hread e (List.mem_cons_of_mem _ he)) ((key, json) :: done)
    have htaken (rest : Bytes) (hrest : Follows rest) :
        flatEntry fields key (slots, done) (':'.toUInt8 :: (json.toBytes ++ rest))
          = .ok ((slots, (key, json) :: done), rest) := by
      have hcolon : skipSpace (':'.toUInt8 :: (json.toBytes ++ rest))
          = ':'.toUInt8 :: (json.toBytes ++ rest) := skipSpace_cons (by decide)
      have hvalue := hread _ List.mem_cons_self innerDepth rest hrest
      unfold flatEntry
      rw [fields.readField_other (hother _ List.mem_cons_self)]
      simp [colon, hcolon, within, hvalue, pure, Except.pure]
    rw [List.reverse_cons, List.append_assoc]
    exact .next htaken hlater

/-- **A record that holds the fields of another among its own is sound.** -/
theorem sound_flattened (name : String) {inner : FlatFields} {fields : Fields}
    (hinner : inner.Sound) (hfields : fields.Sound)
    (hdisjoint : ∀ key ∈ inner.names, key ∉ fields.names) :
    (Shape.flattened name inner fields).Sound where
  starts v := by
    rw [Shape.toJson]
    obtain ⟨b, tail, hbytes, hstarts, -⟩ :=
      starts_object (inner.toJson v.1 ++ fields.toJson v.2)
    exact ⟨b, tail, hbytes, hstarts⟩
  reads v rest _ := by
    have hother : ∀ entry ∈ inner.toJson v.1, entry.1 ∉ fields.names := by
      intro entry hentry
      refine hdisjoint entry.1 ?_
      rw [← inner.name_of_toJson v.1]
      exact List.mem_map_of_mem hentry
    -- the inner entries are kept for later, then the fields are taken, as they are written
    have hkept := takes_kept fields fields.noSlots hother (inner.readAny_toJson hinner v.1) []
    have hsays := Fields.says_toJson hfields v.2
    have hown := takes_named (takenBy_flat fields ((inner.toJson v.1).reverse ++ []))
      (fun _ => false) hfields v.2 hsays.once hsays.named fun _ _ => rfl
    simp only [Bool.false_or, fields.found_nothing v.2] at hown
    have htakes := hkept.append hown
    generalize hentries : inner.toJson v.1 ++ fields.toJson v.2 = entries at htakes
    have hread : readEntries (flatEntry fields)
        ((Bytes.ofText (renderFields entries) ++ '\x7d'.toUInt8 :: rest).length + 1) true
        (fields.noSlots, []) (Bytes.ofText (renderFields entries) ++ '\x7d'.toUInt8 :: rest) =
          .ok ((fields.found (meets (fields.toJson v.2)) v.2, (inner.toJson v.1).reverse ++ []),
            rest) := by
      refine readEntries_render htakes ?_ rest
      rw [List.length_append]
      exact Nat.lt_succ_of_le (Nat.le_trans (length_le_fields _) (Nat.le_add_right _ _))
    rw [Shape.toJson, hentries, toBytes_object, Shape.read, skipSpace_cons (by decide)]
    show (readEntries (flatEntry fields) _ true _ _ >>= _) = _
    rw [hread, ok_bind]
    show (here rest (fields.fill (fields.found (meets (fields.toJson v.2)) v.2)) >>=
      fun values => _) = _
    rw [fields.fill_found v.2 hsays.complete, List.append_nil]
    show (here rest (inner.ofEntries (inner.toJson v.1).reverse.reverse) >>= fun values => _) = _
    rw [List.reverse_reverse, inner.ofEntries_toJson hinner v.1]
    rfl

/-! ## Faithful shapes -/

/-- Whether the values of a leaf can be told from its text. -/
def Leaf.faithful : Leaf → Bool
  | .text | .flag | .int32 => true
  | .double => false
  | .choice first others => (first :: others).Nodup

/-- Whether the values of inner fields can be told from their texts. -/
def FlatFields.faithful : FlatFields → Bool
  | .nil => true
  | .required name leaf rest | .optional name leaf rest =>
    leaf.faithful && name ∉ rest.names && rest.faithful

/-- Whether a value of the shape can be null. -/
def Shape.canBeNull : Shape → Bool
  | .nullable _ => true
  | _ => false

mutual

/-- Whether the values of a shape can be told from their texts. -/
def Shape.faithful : Shape → Bool
  | .leaf leaf => leaf.faithful
  | .nullable shape => shape.faithful && !shape.canBeNull
  | .list item => item.faithful
  | .dict => true
  | .record _ fields => fields.faithful
  | .flattened _ inner fields =>
    inner.faithful && fields.faithful && inner.names.all fun name => name ∉ fields.names

/-- Whether the values of fields can be told from their texts. -/
def Fields.faithful : Fields → Bool
  | .nil => true
  | .cons name _ shape rest => shape.faithful && name ∉ rest.names && rest.faithful

end

theorem Leaf.kept : (leaf : Leaf) → leaf.faithful = true → leaf.Kept
  | .text, _ => kept_text
  | .flag, _ => kept_flag
  | .int32, _ => kept_int32
  | .double, h => absurd h (by decide)
  | .choice _ _, h => kept_choice (of_decide_eq_true h)

theorem Leaf.sound : (leaf : Leaf) → leaf.faithful = true → (Shape.leaf leaf).Sound
  | .text, _ => sound_text
  | .flag, _ => sound_flag
  | .int32, _ => sound_int32
  | .double, h => absurd h (by decide)
  | .choice _ _, h => sound_choice (of_decide_eq_true h)

theorem FlatFields.sound : (fields : FlatFields) → fields.faithful = true → fields.Sound
  | .nil, _ => trivial
  | .required name leaf rest, h | .optional name leaf rest, h => by
    simp only [FlatFields.faithful, Bool.and_eq_true, decide_eq_true_eq] at h
    exact ⟨leaf.kept h.1.1, h.1.2, rest.sound h.2⟩

/-- What cannot be null does not begin like a null. -/
theorem Shape.starts_inked {shape : Shape} (h : shape.faithful = true)
    (hnull : shape.canBeNull = false) (v : shape.Val) (tail : Bytes) :
    (shape.toJson v).toBytes ≠ 'n'.toUInt8 :: tail := by
  have hstart {b : UInt8} {rest : Bytes} (hbytes : (shape.toJson v).toBytes = b :: rest)
      (hne : b ≠ 'n'.toUInt8) : (shape.toJson v).toBytes ≠ 'n'.toUInt8 :: tail := by
    rw [hbytes]
    exact fun he => hne (List.cons.inj he).1
  cases shape with
  | leaf leaf =>
    rw [Shape.toJson] at hstart ⊢
    cases leaf with
    | text => exact text_not_null v tail
    | flag =>
      cases hv : (v : Bool) with
      | true => rw [hv] at hstart; exact hstart toBytes_true (by decide)
      | false => rw [hv] at hstart; exact hstart toBytes_false (by decide)
    | int32 =>
      obtain ⟨b, rest, -, hbytes, hnumber, -⟩ := readNumber_int32 .int32 v
      exact hstart hbytes hnumber.starts.2.1
    | double => exact absurd h (by decide)
    | choice first others => exact text_not_null _ tail
  | nullable inner => exact absurd hnull (by simp [canBeNull])
  | list item =>
    have hbytes := toBytes_list ((v : List item.Val).map item.toJson) []
    rw [List.append_nil] at hbytes
    rw [Shape.toJson] at hstart ⊢
    exact hstart hbytes (by decide)
  | dict | record _ _ | flattened _ _ _ =>
    rw [Shape.toJson] at hstart ⊢
    obtain ⟨b, rest, hbytes, -, hne⟩ := starts_object _
    exact hstart hbytes hne

mutual

/-- **Faithful shapes are sound.** -/
theorem Shape.sound_of_faithful : (shape : Shape) → shape.faithful = true → shape.Sound
  | .leaf leaf, h => by
    rw [Shape.faithful] at h
    exact leaf.sound h
  | .nullable shape, h => by
    rw [Shape.faithful, Bool.and_eq_true, Bool.not_eq_true'] at h
    exact sound_nullable (shape.sound_of_faithful h.1) (Shape.starts_inked h.1 h.2)
  | .list item, h => by
    rw [Shape.faithful] at h
    exact sound_list (item.sound_of_faithful h)
  | .dict, _ => sound_dict
  | .record name fields, h => by
    rw [Shape.faithful] at h
    exact sound_record name (fields.sound_of_faithful h)
  | .flattened name inner fields, h => by
    rw [Shape.faithful, Bool.and_eq_true, Bool.and_eq_true, List.all_eq_true] at h
    exact sound_flattened name (inner.sound h.1.1) (fields.sound_of_faithful h.1.2)
      fun key hkey => of_decide_eq_true (h.2 key hkey)

/-- The same of the fields of a record. -/
theorem Fields.sound_of_faithful : (fields : Fields) → fields.faithful = true → fields.Sound
  | .nil, _ => trivial
  | .cons name presence shape rest, h => by
    rw [Fields.faithful, Bool.and_eq_true, Bool.and_eq_true, decide_eq_true_eq] at h
    exact ⟨shape.sound_of_faithful h.1.1, h.1.2, rest.sound_of_faithful h.2⟩

end

end CloudIde.Json
