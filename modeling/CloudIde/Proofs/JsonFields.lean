import CloudIde.Json.Wire

/-!
# What stands in the fields of a JSON value

`Json.Under name value` says of a JSON value that somewhere in it, at whatever depth, there is a
field of a name that has a value. For a value that was written by a shape the shape tells where such
fields are: `Shape.held` collects what is written into the fields of a name, as parts of the value
with their shapes. The entries of dictionaries have names, too, but they are texts. So every object
in a field of the name is the JSON form of a part that is collected (`Shape.under_toJson`), and
there is none when no field has the name (`Shape.not_under`).
-/

namespace CloudIde.Json

/-- Somewhere in a value there is a field of a name with another value. -/
inductive Under (name : String) (value : Json) : Json → Prop
  | field {fields : List (String × Json)} (h : (name, value) ∈ fields) :
    Under name value (.object fields)
  | inField {fields : List (String × Json)} {key : String} {inner : Json}
      (h : (key, inner) ∈ fields) (hinner : Under name value inner) :
    Under name value (.object fields)
  | inItem {items : List Json} {item : Json} (h : item ∈ items) (hitem : Under name value item) :
    Under name value (.list items)

mutual

/-- The parts of a value in the fields of a name, with their shapes. -/
def Shape.held (name : String) : (shape : Shape) → shape.Val → List (Σ part : Shape, part.Val)
  | .leaf _, _ | .dict, _ => []
  | .nullable shape, value =>
    (value : Option shape.Val).toList.flatMap fun v => shape.held name v
  | .list item, value => (value : List item.Val).flatMap fun v => item.held name v
  | .record _ fields, value => fields.held name value
  | .flattened _ _ fields, value => fields.held name value.2

/-- The parts in the fields of a name, among these and in them. -/
def Fields.held (name : String) : (fields : Fields) → fields.Val → List (Σ part : Shape, part.Val)
  | .nil, _ => []
  | .cons key _ shape rest, value =>
    (if key = name then [⟨shape, value.1⟩] else [])
      ++ shape.held name value.1 ++ rest.held name value.2

end

mutual

/-- Whether a shape has a field of a name, at whatever depth. -/
def Shape.hasField (name : String) : Shape → Bool
  | .leaf _ | .dict => false
  | .nullable shape | .list shape => shape.hasField name
  | .record _ fields | .flattened _ _ fields => fields.hasField name

/-- Whether there is a field of a name among these or in them. -/
def Fields.hasField (name : String) : Fields → Bool
  | .nil => false
  | .cons key _ shape rest => key = name || shape.hasField name || rest.hasField name

end

variable {name : String} {entries : List (String × Json)}

/-- Nothing stands in null. -/
theorem not_under_null {value : Json} : ¬ Under name value .null := nofun

/-- Nothing stands in a value without parts. -/
theorem Leaf.not_under {value : Json} (leaf : Leaf) (v : leaf.Val) :
    ¬ Under name value (leaf.toJson v) := by
  cases leaf <;> simp only [Leaf.toJson] <;> exact nofun

/-- A value without parts is no object. -/
theorem Leaf.toJson_ne_object (leaf : Leaf) (v : leaf.Val) : leaf.toJson v ≠ .object entries := by
  cases leaf <;> exact Json.noConfusion

/-- No object stands in a field of a dictionary. -/
theorem not_under_ofDict (d : Dict) : ¬ Under name (.object entries) (ofDict d) := by
  intro h
  unfold ofDict at h
  cases h with
  | field h =>
    obtain ⟨e, -, he⟩ := List.mem_map.1 h
    exact absurd (congrArg Prod.snd he) Json.noConfusion
  | inField h hinner =>
    obtain ⟨e, -, he⟩ := List.mem_map.1 h
    cases he
    exact absurd hinner nofun

/-- What stands in a record stands in one of its fields or is in one. -/
theorem under_object {value : Json} {fields : List (String × Json)} :
    Under name value (.object fields) ↔
      ∃ field ∈ fields, field = (name, value) ∨ Under name value field.2 := by
  constructor
  · intro h
    cases h with
    | field h => exact ⟨_, h, .inl rfl⟩
    | inField h hinner => exact ⟨_, h, .inr hinner⟩
  · rintro ⟨field, h, rfl | hinner⟩
    · exact .field h
    · exact .inField h hinner

/-- The fields of an inner record hold no object. -/
theorem FlatFields.not_object (fields : FlatFields) (v : fields.Val) :
    ∀ field ∈ fields.toJson v,
      ¬ (field = (name, .object entries) ∨ Under name (.object entries) field.2) := by
  have hleaf (key : String) (leaf : Leaf) (v : leaf.Val) :
      ¬ ((key, leaf.toJson v) = (name, .object entries) ∨
        Under name (.object entries) (leaf.toJson v)) := by
    rintro (h | h)
    · exact leaf.toJson_ne_object v (congrArg Prod.snd h)
    · exact leaf.not_under v h
  induction fields with
  | nil => exact fun field hfield => absurd hfield List.not_mem_nil
  | required key leaf rest ih =>
    intro field hfield
    rcases List.mem_cons.1 hfield with rfl | hfield
    · exact hleaf key leaf v.1
    · exact ih v.2 field hfield
  | optional key leaf rest ih =>
    obtain ⟨w?, rest'⟩ := v
    intro field hfield
    rcases List.mem_cons.1 hfield with rfl | hfield
    · cases w? with
      | none => exact fun h => h.elim (fun h => nomatch congrArg Prod.snd h) not_under_null
      | some w => exact hleaf key leaf w
    · exact ih rest' field hfield

mutual

/-- Every object in a field of the name is the JSON form of a part that the shape has there. -/
theorem Shape.under_toJson : (shape : Shape) → (v : shape.Val) →
    Under name (.object entries) (shape.toJson v) →
    ∃ part ∈ shape.held name v, part.1.toJson part.2 = .object entries
  | .leaf leaf, v, h => by
    simp only [Shape.toJson] at h
    exact absurd h (leaf.not_under v)
  | .dict, v, h => by
    simp only [Shape.toJson] at h
    exact absurd h (not_under_ofDict v)
  | .nullable shape, v, h => by
    simp only [Shape.toJson] at h
    cases v with
    | none => exact absurd h not_under_null
    | some w => simpa [Shape.held] using shape.under_toJson w h
  | .list item, v, h => by
    simp only [Shape.toJson] at h
    cases h with
    | inItem hmem hitem =>
      obtain ⟨w, hw, rfl⟩ := List.mem_map.1 hmem
      obtain ⟨part, hpart, heq⟩ := item.under_toJson w hitem
      exact ⟨part, by simpa only [Shape.held] using List.mem_flatMap.2 ⟨w, hw, hpart⟩, heq⟩
  | .record _ fields, v, h => by
    simp only [Shape.toJson] at h
    obtain ⟨field, hmem, hfield⟩ := under_object.1 h
    simpa only [Shape.held] using fields.under_toJson v field hmem hfield
  | .flattened _ inner fields, v, h => by
    simp only [Shape.toJson] at h
    obtain ⟨field, hmem, hfield⟩ := under_object.1 h
    rcases List.mem_append.1 hmem with hmem | hmem
    · exact absurd hfield (inner.not_object v.1 field hmem)
    · simpa only [Shape.held] using fields.under_toJson v.2 field hmem hfield

/-- The same of the fields of a record. -/
theorem Fields.under_toJson : (fields : Fields) → (v : fields.Val) → ∀ field ∈ fields.toJson v,
    field = (name, .object entries) ∨ Under name (.object entries) field.2 →
    ∃ part ∈ fields.held name v, part.1.toJson part.2 = .object entries
  | .nil, _, field, hmem, _ => by
    simp only [Fields.toJson] at hmem
    exact absurd hmem List.not_mem_nil
  | .cons key presence shape rest, v, field, hmem, hfield => by
    -- an omittable field that is null is not written
    have hmem' : field = (key, shape.toJson v.1) ∨ field ∈ rest.toJson v.2 := by
      simp only [Fields.toJson] at hmem
      split at hmem
      · exact .inr hmem
      · exact List.mem_cons.1 hmem
    simp only [Fields.held, List.mem_append]
    rcases hmem' with rfl | hmem'
    · rcases hfield with hfield | hfield
      · obtain ⟨rfl, heq⟩ := Prod.mk.inj hfield
        exact ⟨⟨shape, v.1⟩, .inl (.inl (by simp)), heq⟩
      · obtain ⟨part, hpart, heq⟩ := shape.under_toJson v.1 hfield
        exact ⟨part, .inl (.inr hpart), heq⟩
    · obtain ⟨part, hpart, heq⟩ := rest.under_toJson v.2 field hmem' hfield
      exact ⟨part, .inr hpart, heq⟩

end

mutual

/-- Nothing is in a field of a name that no field has. -/
theorem Shape.held_eq_nil : (shape : Shape) → (v : shape.Val) → shape.hasField name = false →
    shape.held name v = []
  | .leaf _, _, _ | .dict, _, _ => by simp only [Shape.held]
  | .nullable shape, v, h => by
    simp only [Shape.hasField] at h
    simp only [Shape.held]
    exact List.flatMap_eq_nil_iff.2 fun w _ => shape.held_eq_nil w h
  | .list item, v, h => by
    simp only [Shape.hasField] at h
    simp only [Shape.held]
    exact List.flatMap_eq_nil_iff.2 fun w _ => item.held_eq_nil w h
  | .record _ fields, v, h => by
    simp only [Shape.hasField] at h
    simpa only [Shape.held] using fields.held_eq_nil v h
  | .flattened _ _ fields, v, h => by
    simp only [Shape.hasField] at h
    simpa only [Shape.held] using fields.held_eq_nil v.2 h

/-- The same of the fields of a record. -/
theorem Fields.held_eq_nil : (fields : Fields) → (v : fields.Val) → fields.hasField name = false →
    fields.held name v = []
  | .nil, _, _ => by simp only [Fields.held]
  | .cons key _ shape rest, v, h => by
    simp only [Fields.hasField, Bool.or_eq_false_iff, decide_eq_false_iff_not] at h
    simp only [Fields.held, if_neg h.1.1, shape.held_eq_nil v.1 h.1.2, rest.held_eq_nil v.2 h.2,
      List.append_nil]

end

/-- No object stands in a field of a name that no field has. -/
theorem Shape.not_under {shape : Shape} (h : shape.hasField name = false) (v : shape.Val) :
    ¬ Under name (.object entries) (shape.toJson v) := by
  intro hunder
  obtain ⟨part, hpart, -⟩ := shape.under_toJson v hunder
  rw [shape.held_eq_nil v h] at hpart
  exact absurd hpart List.not_mem_nil

end CloudIde.Json

namespace CloudIde.Wire

open Json

variable {α : Type} [Wire α] {name : String} {entries : List (String × Json)}

/-- An object in a field of a name is the JSON form of a part of the value. -/
theorem under_toJson {a : α} (h : Under name (.object entries) (toJson a)) :
    ∃ part ∈ (shape α).held name (toVal a), part.1.toJson part.2 = .object entries :=
  (shape α).under_toJson _ h

/-- What stands in a list stands in one of the items. -/
theorem under_toJson_list {json : Json} {as : List α} :
    Under name json (toJson as) ↔ ∃ a ∈ as, Under name json (toJson a) := by
  simp only [toJson, Wire.shape, toVal, Shape.toJson]
  constructor
  · intro h
    cases h with
    | inItem hmem hitem =>
      obtain ⟨v, hv, rfl⟩ := List.mem_map.1 hmem
      obtain ⟨a, ha, rfl⟩ := List.mem_map.1 hv
      exact ⟨a, ha, hitem⟩
  · rintro ⟨a, ha, h⟩
    exact .inItem (List.mem_map_of_mem (List.mem_map_of_mem ha)) h

/-- No object stands in a field of a name that the type does not have. -/
theorem not_under {a : α} (hnone : (shape α).hasField name = false) :
    ¬ Under name (.object entries) (toJson a) :=
  Shape.not_under hnone _

end CloudIde.Wire
