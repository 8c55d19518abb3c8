import CloudIde.Proofs.Fallible
import CloudIde.Proofs.JsonText
import CloudIde.Store.Rows

/-!
# Reading undoes writing

A shape is **sound** when its values, written as JSON and followed by anything that can follow a
value, are read back with what follows. Texts, dictionaries of texts and lists of a sound shape are
sound; this is all that is stored in columns.
-/

namespace CloudIde.Json

open Lexeme

/-- What may come after a value: the end, or the end of its part of the text. -/
def Follows (rest : Bytes) : Prop :=
  ∀ b ∈ rest.head?, b = ','.toUInt8 ∨ b = ']'.toUInt8 ∨ b = '\x7d'.toUInt8

theorem follows_nil : Follows [] := by
  intro b hb
  exact absurd hb (by simp)

/-- The first byte of a value: no space and no end of anything. -/
def Starts (b : UInt8) : Prop :=
  isSpace b = false ∧ b ≠ ','.toUInt8 ∧ b ≠ ']'.toUInt8 ∧ b ≠ '\x7d'.toUInt8

instance (b : UInt8) : Decidable (Starts b) := inferInstanceAs (Decidable (_ ∧ _ ∧ _ ∧ _))

theorem starts_quote : Starts '"'.toUInt8 := by decide

theorem skipSpace_cons {b : UInt8} {rest : Bytes} (h : isSpace b = false) :
    skipSpace (b :: rest) = b :: rest := by
  simp [skipSpace, h]

/-- Values of a shape are read back. -/
structure Shape.Sound (shape : Shape) : Prop where
  starts (v : shape.Val) : ∃ b tail, (shape.toJson v).toBytes = b :: tail ∧ Starts b
  reads (v : shape.Val) (rest : Bytes) (h : Follows rest) :
    shape.read ((shape.toJson v).toBytes ++ rest) = .ok (v, rest)

/-- A whole text is what is read and white space. -/
theorem Shape.parse_eq_ok {shape : Shape} {input : Bytes} {v : shape.Val} :
    shape.parse input = .ok v ↔ ∃ rest, shape.read input = .ok (v, rest) ∧ skipSpace rest = [] := by
  unfold parse readWhole
  rw [mapError_eq_ok, bind_eq_ok]
  constructor
  · rintro ⟨⟨w, rest⟩, hread, hend⟩
    cases hskip : skipSpace rest with
    | nil =>
      simp only [hskip] at hend
      cases hend
      exact ⟨rest, hread, hskip⟩
    | cons b after =>
      simp only [hskip] at hend
      cases hend
  · rintro ⟨rest, hread, hend⟩
    refine ⟨(v, rest), hread, ?_⟩
    simp only [hend]
    rfl

theorem Shape.Sound.parse {shape : Shape} (h : shape.Sound) (v : shape.Val) :
    shape.parse (shape.toJson v).toBytes = .ok v := by
  have hread := h.reads v [] follows_nil
  rw [List.append_nil] at hread
  exact Shape.parse_eq_ok.2 ⟨[], hread, rfl⟩

/-! ## Texts -/

theorem toBytes_text (s : String) : (Json.text s).toBytes = Bytes.ofText (renderText s) := by
  rw [toBytes, render]

theorem readText (s : String) (rest : Bytes) :
    Leaf.read .text (Bytes.ofText (renderText s) ++ rest) = .ok (s, rest) := by
  obtain ⟨tail, htail, hread⟩ := text_renderText s rest
  rw [htail, Leaf.read, skipSpace_cons (by decide)]
  simp only [Leaf.readFrom, if_true, hread]

theorem starts_text (s : String) : ∃ b tail, (Json.text s).toBytes = b :: tail ∧ Starts b := by
  have hbytes := ofText_renderText s []
  rw [List.append_nil] at hbytes
  exact ⟨_, _, (toBytes_text s).trans hbytes, starts_quote⟩

theorem sound_text : (Shape.leaf .text).Sound where
  starts s := by
    rw [Shape.toJson]
    exact starts_text s
  reads s rest _ := by
    rw [Shape.toJson, Shape.read]
    exact (congrArg _ (congrArg (· ++ rest) (toBytes_text s))).trans (readText s rest)

/-! ## Parts with a comma before each -/

/-- What comes after some parts, or is their end, may come after a value. -/
theorem follows_more {α : Type} (form : α → Bytes) (parts : List α) {close : UInt8}
    (hclose : close = ']'.toUInt8 ∨ close = '\x7d'.toUInt8) (rest : Bytes) :
    Follows ((parts.flatMap fun part => ','.toUInt8 :: form part) ++ close :: rest) := by
  intro b hb
  cases parts with
  | nil =>
    cases hb
    exact Or.inr hclose
  | cons part parts =>
    cases hb
    exact Or.inl rfl

/-- Every part takes a byte. -/
theorem length_le_more {α : Type} (form : α → Bytes) (parts : List α) :
    parts.length ≤ (parts.flatMap fun part => ','.toUInt8 :: form part).length := by
  induction parts with
  | nil => exact Nat.zero_le _
  | cons part parts ih =>
    simp only [List.flatMap_cons, List.length_append, List.length_cons] at ih ⊢
    omega

/-! ## Lists -/

/-- What stands between the first item of a list and its closing bracket. -/
def moreItems (items : List Json) : Bytes := items.flatMap fun json => ','.toUInt8 :: json.toBytes

theorem toBytes_items (json : Json) (items : List Json) :
    Bytes.ofText (renderItems (json :: items)) = json.toBytes ++ moreItems items := by
  induction items generalizing json with
  | nil => simp [renderItems, moreItems, toBytes]
  | cons next items ih =>
    have hcomma : Bytes.ofText "," = [','.toUInt8] := by rw [Bytes.ofText_eq]; rfl
    rw [renderItems, Bytes.ofText_append, Bytes.ofText_append, ih next, hcomma]
    simp [moreItems, toBytes]

theorem toBytes_list (items : List Json) (rest : Bytes) :
    (Json.list items).toBytes ++ rest
      = '['.toUInt8 :: (Bytes.ofText (renderItems items) ++ ']'.toUInt8 :: rest) := by
  have hopen : Bytes.ofText "[" = ['['.toUInt8] := by rw [Bytes.ofText_eq]; rfl
  have hclose : Bytes.ofText "]" = [']'.toUInt8] := by rw [Bytes.ofText_eq]; rfl
  simp [toBytes, render, Bytes.ofText_append, hopen, hclose]

theorem follows_moreItems (items : List Json) (rest : Bytes) :
    Follows (moreItems items ++ ']'.toUInt8 :: rest) :=
  follows_more Json.toBytes items (Or.inl rfl) rest

section

variable {α : Type} {item : Bytes → Except Stop (α × Bytes)} {json : α → Json}

/-- The items after the first, with a comma before each. -/
theorem readItems_more (hstart : ∀ a, ∃ b tail, (json a).toBytes = b :: tail ∧ Starts b)
    (hread : ∀ a rest, Follows rest → item ((json a).toBytes ++ rest) = .ok (a, rest))
    (items : List α) {fuel index : Nat} (hfuel : items.length < fuel) (hindex : index ≠ 0)
    (done : List α) (rest : Bytes) :
    readItems item fuel index done (moreItems (items.map json) ++ ']'.toUInt8 :: rest)
      = .ok (done.reverse ++ items, rest) := by
  induction items generalizing fuel index done with
  | nil =>
    obtain ⟨fuel, rfl⟩ := Nat.exists_eq_succ_of_ne_zero (Nat.ne_of_gt hfuel)
    have hspace : skipSpace (']'.toUInt8 :: rest) = ']'.toUInt8 :: rest :=
      skipSpace_cons (by decide)
    simp [readItems, nextItem, moreItems, hspace, afterClosing, pure, Except.pure]
  | cons a items ih =>
    obtain ⟨fuel, rfl⟩ := Nat.exists_eq_succ_of_ne_zero (Nat.ne_of_gt (Nat.zero_lt_of_lt hfuel))
    obtain ⟨b, tail, hb, hstarts⟩ := hstart a
    have hnext : nextItem index (moreItems ((a :: items).map json) ++ ']'.toUInt8 :: rest)
        = .ok (some ((json a).toBytes ++ (moreItems (items.map json) ++ ']'.toUInt8 :: rest))) := by
      have hspace (l : Bytes) : skipSpace (','.toUInt8 :: l) = ','.toUInt8 :: l :=
        skipSpace_cons (by decide)
      have hcomma : ','.toUInt8 ≠ ']'.toUInt8 := by decide
      simp [nextItem, moreItems, hb, hspace, hcomma, hindex, skipSpace_cons hstarts.1,
        hstarts.2.2.1]
    have hitem := hread a (moreItems (items.map json) ++ ']'.toUInt8 :: rest)
      (follows_moreItems _ rest)
    have hrest : readItems item fuel (index + 1) (a :: done)
        (moreItems (items.map json) ++ ']'.toUInt8 :: rest)
          = .ok ((a :: done).reverse ++ items, rest) :=
      ih (Nat.lt_of_succ_lt_succ hfuel) (Nat.succ_ne_zero index) (a :: done)
    rw [readItems, hnext]
    simp only [within, mapError_ok, ok_bind, hitem, hrest]
    simp

/-- **A list of values that are read back is read back.** -/
theorem readItems_render (hstart : ∀ a, ∃ b tail, (json a).toBytes = b :: tail ∧ Starts b)
    (hread : ∀ a rest, Follows rest → item ((json a).toBytes ++ rest) = .ok (a, rest))
    (items : List α) {fuel : Nat} (hfuel : items.length < fuel) (rest : Bytes) :
    readItems item fuel 0 [] (Bytes.ofText (renderItems (items.map json)) ++ ']'.toUInt8 :: rest)
      = .ok (items, rest) := by
  obtain ⟨fuel, rfl⟩ := Nat.exists_eq_succ_of_ne_zero (Nat.ne_of_gt (Nat.zero_lt_of_lt hfuel))
  cases items with
  | nil =>
    have hspace : skipSpace (']'.toUInt8 :: rest) = ']'.toUInt8 :: rest :=
      skipSpace_cons (by decide)
    simp [readItems, nextItem, renderItems, Bytes.ofText, hspace, afterClosing, pure,
      Except.pure]
  | cons a items =>
    obtain ⟨b, tail, hb, hstarts⟩ := hstart a
    rw [List.map_cons, toBytes_items, List.append_assoc]
    have hnext : nextItem 0
        ((json a).toBytes ++ (moreItems (items.map json) ++ ']'.toUInt8 :: rest))
        = .ok (some ((json a).toBytes ++ (moreItems (items.map json) ++ ']'.toUInt8 :: rest))) := by
      simp [nextItem, hb, skipSpace_cons hstarts.1, hstarts.2.2.1]
    have hitem := hread a (moreItems (items.map json) ++ ']'.toUInt8 :: rest)
      (follows_moreItems _ rest)
    have hrest : readItems item fuel 1 [a]
        (moreItems (items.map json) ++ ']'.toUInt8 :: rest) = .ok ([a].reverse ++ items, rest) :=
      readItems_more hstart hread items (Nat.lt_of_succ_lt_succ hfuel) Nat.one_ne_zero [a] rest
    rw [readItems, hnext]
    simp only [within, mapError_ok, ok_bind, hitem]
    exact hrest

end

/-- Every item takes a byte. -/
theorem length_le_items (items : List Json) (h : ∀ json ∈ items, json.toBytes ≠ []) :
    items.length ≤ (Bytes.ofText (renderItems items)).length := by
  cases items with
  | nil => exact Nat.zero_le _
  | cons json items =>
    rw [toBytes_items, List.length_append, List.length_cons]
    have hfirst : 0 < json.toBytes.length := List.length_pos_iff.2 (h json List.mem_cons_self)
    have hmore : items.length ≤ (moreItems items).length := length_le_more Json.toBytes items
    omega

theorem read_list {item : Shape} (h : item.Sound) (values : List item.Val) (rest : Bytes) :
    (Shape.list item).read ((Json.list (values.map item.toJson)).toBytes ++ rest)
      = .ok (values, rest) := by
  have hbytes : ∀ json ∈ values.map item.toJson, json.toBytes ≠ [] := by
    intro json hjson
    obtain ⟨a, -, rfl⟩ := List.mem_map.1 hjson
    obtain ⟨b, tail, hb, -⟩ := h.starts a
    simp [hb]
  have hlen := length_le_items (values.map item.toJson) hbytes
  rw [List.length_map] at hlen
  rw [toBytes_list, Shape.read, skipSpace_cons (by decide)]
  refine readItems_render h.starts h.reads values ?_ rest
  rw [List.length_append]
  exact Nat.lt_succ_of_le (Nat.le_trans hlen (Nat.le_add_right _ _))

theorem sound_list {item : Shape} (h : item.Sound) : (Shape.list item).Sound where
  starts v := by
    have hbytes := toBytes_list ((v : List item.Val).map item.toJson) []
    rw [List.append_nil] at hbytes
    rw [Shape.toJson]
    exact ⟨_, _, hbytes, by decide⟩
  reads v rest _ := by
    rw [Shape.toJson]
    exact read_list h v rest

/-! ## Objects -/

/-- What stands for a field: its name, a colon and its value. -/
def fieldBytes (field : String × Json) : Bytes :=
  Bytes.ofText (renderText field.1) ++ ':'.toUInt8 :: field.2.toBytes

/-- What stands between the first field of an object and its closing brace. -/
def moreFields (fields : List (String × Json)) : Bytes :=
  fields.flatMap fun field => ','.toUInt8 :: fieldBytes field

theorem toBytes_fields (field : String × Json) (fields : List (String × Json)) :
    Bytes.ofText (renderFields (field :: fields)) = fieldBytes field ++ moreFields fields := by
  have hcolon : Bytes.ofText ":" = [':'.toUInt8] := by rw [Bytes.ofText_eq]; rfl
  induction fields generalizing field with
  | nil => simp [renderFields, moreFields, fieldBytes, toBytes, Bytes.ofText_append, hcolon]
  | cons next fields ih =>
    have hcomma : Bytes.ofText "," = [','.toUInt8] := by rw [Bytes.ofText_eq]; rfl
    rw [renderFields, Bytes.ofText_append, ih next]
    simp [moreFields, fieldBytes, toBytes, Bytes.ofText_append, hcolon, hcomma]

theorem toBytes_object (fields : List (String × Json)) (rest : Bytes) :
    (Json.object fields).toBytes ++ rest
      = '\x7b'.toUInt8 :: (Bytes.ofText (renderFields fields) ++ '\x7d'.toUInt8 :: rest) := by
  have hopen : Bytes.ofText "\x7b" = ['\x7b'.toUInt8] := by rw [Bytes.ofText_eq]; rfl
  have hclose : Bytes.ofText "\x7d" = ['\x7d'.toUInt8] := by rw [Bytes.ofText_eq]; rfl
  simp [toBytes, render, Bytes.ofText_append, hopen, hclose]

theorem follows_moreFields (fields : List (String × Json)) (rest : Bytes) :
    Follows (moreFields fields ++ '\x7d'.toUInt8 :: rest) :=
  follows_more fieldBytes fields (Or.inr rfl) rest

section

variable {σ : Type}

/-- A reader of entries takes some fields one after the other, from a state to another. -/
inductive Takes (entry : String → σ → Bytes → Except Stop (σ × Bytes)) :
    σ → List (String × Json) → σ → Prop
  | none {state : σ} : Takes entry state [] state
  | next {key : String} {json : Json} {fields : List (String × Json)} {state after last : σ}
      (h : ∀ rest, Follows rest →
        entry key state (':'.toUInt8 :: (json.toBytes ++ rest)) = .ok (after, rest))
      (more : Takes entry after fields last) : Takes entry state ((key, json) :: fields) last

variable {entry : String → σ → Bytes → Except Stop (σ × Bytes)} {state last : σ}
  {fields : List (String × Json)}

/-- The key of an entry is found behind its comma, if one is needed. -/
theorem nextKey_field (isFirst : Bool) (key : String) (rest : Bytes) :
    nextKey isFirst
        ((if isFirst then [] else [','.toUInt8]) ++ Bytes.ofText (renderText key) ++ rest)
      = .ok (some (key, rest)) := by
  obtain ⟨tail, htail, hread⟩ := text_renderText key rest
  have hbrace : '"'.toUInt8 ≠ '\x7d'.toUInt8 := by decide
  have hcomma : ','.toUInt8 ≠ '\x7d'.toUInt8 := by decide
  have hquote (l : Bytes) : skipSpace ('"'.toUInt8 :: l) = '"'.toUInt8 :: l :=
    skipSpace_cons (by decide)
  have hspace (l : Bytes) : skipSpace (','.toUInt8 :: l) = ','.toUInt8 :: l :=
    skipSpace_cons (by decide)
  cases isFirst with
  | true => simp [nextKey, htail, hquote, hbrace, hread]
  | false => simp [nextKey, htail, hquote, hspace, hcomma, hread]

/-- The entries after the first, with a comma before each. -/
theorem readEntries_more (h : Takes entry state fields last) {fuel : Nat}
    (hfuel : fields.length < fuel) (rest : Bytes) :
    readEntries entry fuel false state (moreFields fields ++ '\x7d'.toUInt8 :: rest)
      = .ok (last, rest) := by
  induction h generalizing fuel with
  | none =>
    obtain ⟨fuel, rfl⟩ := Nat.exists_eq_succ_of_ne_zero (Nat.ne_of_gt hfuel)
    have hspace : skipSpace ('\x7d'.toUInt8 :: rest) = '\x7d'.toUInt8 :: rest :=
      skipSpace_cons (by decide)
    simp [readEntries, nextKey, moreFields, hspace, within, afterClosing, pure, Except.pure]
  | @next key json fields state after last hentry more ih =>
    obtain ⟨fuel, rfl⟩ := Nat.exists_eq_succ_of_ne_zero (Nat.ne_of_gt (Nat.zero_lt_of_lt hfuel))
    have hnext : nextKey false (moreFields ((key, json) :: fields) ++ '\x7d'.toUInt8 :: rest)
        = .ok (some (key,
          ':'.toUInt8 :: (json.toBytes ++ (moreFields fields ++ '\x7d'.toUInt8 :: rest)))) := by
      have hkey := nextKey_field false key
        (':'.toUInt8 :: (json.toBytes ++ (moreFields fields ++ '\x7d'.toUInt8 :: rest)))
      simpa [moreFields, fieldBytes] using hkey
    have hvalue := hentry _ (follows_moreFields fields rest)
    rw [readEntries, hnext]
    simp only [within, mapError_ok, ok_bind, hvalue]
    exact ih (Nat.lt_of_succ_lt_succ hfuel)

/-- **An object is read when its fields can be taken one after the other.** -/
theorem readEntries_render (h : Takes entry state fields last) {fuel : Nat}
    (hfuel : fields.length < fuel) (rest : Bytes) :
    readEntries entry fuel true state
        (Bytes.ofText (renderFields fields) ++ '\x7d'.toUInt8 :: rest) = .ok (last, rest) := by
  obtain ⟨fuel, rfl⟩ := Nat.exists_eq_succ_of_ne_zero (Nat.ne_of_gt (Nat.zero_lt_of_lt hfuel))
  cases h with
  | none =>
    have hspace : skipSpace ('\x7d'.toUInt8 :: rest) = '\x7d'.toUInt8 :: rest :=
      skipSpace_cons (by decide)
    simp [readEntries, nextKey, renderFields, Bytes.ofText, hspace, within, afterClosing,
      pure, Except.pure]
  | @next key json fields _ after _ hentry more =>
    have hnext : nextKey true
        (Bytes.ofText (renderFields ((key, json) :: fields)) ++ '\x7d'.toUInt8 :: rest)
        = .ok (some (key,
          ':'.toUInt8 :: (json.toBytes ++ (moreFields fields ++ '\x7d'.toUInt8 :: rest)))) := by
      have hkey := nextKey_field true key
        (':'.toUInt8 :: (json.toBytes ++ (moreFields fields ++ '\x7d'.toUInt8 :: rest)))
      rw [toBytes_fields]
      simpa [fieldBytes] using hkey
    have hvalue := hentry _ (follows_moreFields fields rest)
    rw [readEntries, hnext]
    simp only [within, mapError_ok, ok_bind, hvalue]
    exact readEntries_more more (Nat.lt_of_succ_lt_succ hfuel) rest

end

/-- Every field takes a byte. -/
theorem length_le_fields (fields : List (String × Json)) :
    fields.length ≤ (Bytes.ofText (renderFields fields)).length := by
  cases fields with
  | nil => exact Nat.zero_le _
  | cons field fields =>
    have hmore : fields.length ≤ (moreFields fields).length := length_le_more fieldBytes fields
    rw [toBytes_fields]
    simp only [fieldBytes, List.length_append, List.length_cons]
    omega

/-! ## Dictionaries -/

/-- A key that comes after all others is put at the end. -/
theorem insertEntry_last {key : String} (value : String) {entries : List (String × String)}
    (h : ∀ e ∈ entries, e.1 < key) :
    Dict.insertEntry key value entries = entries ++ [(key, value)] := by
  induction entries with
  | nil => rfl
  | cons e rest ih =>
    have hlt : e.1 < key := h e List.mem_cons_self
    rw [Dict.insertEntry, if_neg fun h' => String.lt_irrefl _ (String.lt_trans hlt h'), if_pos hlt,
      ih fun e' he' => h e' (List.mem_cons_of_mem e he')]
    rfl

/-- The reader of the entries of a dictionary. -/
def dictEntry (key : String) (d : Dict) (input : Bytes) : Except Stop (Dict × Bytes) := do
  let input ← colon input
  let (value, rest) ← within (.field key) (Leaf.read .text input)
  return (d.insert key value, rest)

/-- Entries that come after those of a dictionary are added to it one after the other. -/
theorem takes_entries (entries : List (String × String)) (d e : Dict)
    (h : e.entries = d.entries ++ entries) :
    Takes dictEntry d (entries.map fun e => (e.1, Json.text e.2)) e := by
  induction entries generalizing d with
  | nil =>
    have he : d = e := by
      cases d
      cases e
      simpa [eq_comm] using h
    exact he ▸ .none
  | cons entry entries ih =>
    obtain ⟨key, value⟩ := entry
    have hasc := e.ascending
    rw [h, List.pairwise_append] at hasc
    have hlast := insertEntry_last value fun e he => hasc.2.2 e he _ List.mem_cons_self
    have htake (rest : Bytes) : dictEntry key d (':'.toUInt8 :: ((Json.text value).toBytes ++ rest))
        = .ok (d.insert key value, rest) := by
      have hspace (l : Bytes) : skipSpace (':'.toUInt8 :: l) = ':'.toUInt8 :: l :=
        skipSpace_cons (by decide)
      have hread := readText value rest
      rw [← toBytes_text] at hread
      simp [dictEntry, colon, hspace, within, hread, pure, Except.pure]
    refine .next (fun rest _ => htake rest) (ih _ ?_)
    show e.entries = Dict.insertEntry key value d.entries ++ entries
    rw [h, hlast]
    simp

theorem sound_dict : Shape.dict.Sound where
  starts v := by
    have hbytes := toBytes_object ((v : Dict).entries.map fun e => (e.1, Json.text e.2)) []
    rw [List.append_nil] at hbytes
    rw [Shape.toJson]
    exact ⟨_, _, hbytes, by decide⟩
  reads v rest _ := by
    have hbytes : (ofDict v).toBytes ++ rest = _ := toBytes_object _ rest
    rw [Shape.toJson, Shape.read, hbytes, skipSpace_cons (by decide)]
    refine readEntries_render (takes_entries (v : Dict).entries .empty v rfl) ?_ rest
    rw [List.length_append]
    exact Nat.lt_succ_of_le (Nat.le_trans (length_le_fields _) (Nat.le_add_right _ _))

end CloudIde.Json

namespace CloudIde

/-- **Reading undoes writing** for a type whose shape is sound. -/
theorem Wire.parseText_toJson {α : Type} [Wire α] (h : (Wire.shape α).Sound) (a : α) :
    Wire.parseText α (Wire.toJson a).render = .ok a := by
  have hparse : (Wire.shape α).parse (Bytes.ofText (Wire.toJson a).render) = .ok (Wire.toVal a) :=
    h.parse (Wire.toVal a)
  unfold Wire.parseText Wire.parse
  rw [hparse, map_ok, Wire.ofVal_toVal]

/-- **A column that was written is read.** -/
theorem readColumn_writeColumn {α : Type} [Wire α] (h : (Wire.shape α).Sound) (a : α) :
    readColumn α (writeColumn a) = .ok a := by
  unfold readColumn writeColumn
  rw [Wire.parseText_toJson h a, mapError_ok]

theorem readColumn_roles (roles : List String) :
    readColumn (List String) (writeColumn roles) = .ok roles :=
  readColumn_writeColumn (Json.sound_list Json.sound_text) roles

theorem readColumn_properties (properties : Properties) :
    readColumn Properties (writeColumn properties) = .ok properties :=
  readColumn_writeColumn Json.sound_dict properties

end CloudIde
