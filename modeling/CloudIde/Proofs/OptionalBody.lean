import CloudIde.Command.Basic
import CloudIde.Http.Body
import CloudIde.Proofs.JsonPaddedReading
import CloudIde.Proofs.Trimming
import CloudIde.Subscription.Usage

/-!
# Bodies that may be absent, as JSON

A body that may be absent is read by cutting white space off, by looking for the word that stands
for nothing, and only then as the JSON text of a record. `Body.Reads` says what comes of it.

There are two kinds of white space, that of texts and that of JSON, and a record is never written as
nothing is. So this is the same as to read a record or null, as long as the body is not blank and
the white space around it is that of JSON (`Body.optional_json`).

`Body.optional_bodies` puts this together for the three types of bodies that may be absent.
-/

namespace CloudIde

open Json Lexeme

/-! ## White space as bytes -/

/-- The characters that are white space in JSON. -/
def JsonBlank (cs : List Char) : Prop := ∀ c ∈ cs, c = ' ' ∨ c = '\n' ∨ c = '\t' ∨ c = '\r'

theorem JsonBlank.allBlank {cs : List Char} (h : JsonBlank cs) : AllBlank cs := by
  intro c hc
  rcases h c hc with rfl | rfl | rfl | rfl <;> decide

theorem JsonBlank.spaces {cs : List Char} (h : JsonBlank cs) :
    Spaces (Bytes.ofText (String.ofList cs)) := by
  intro b hb
  rw [Bytes.ofText_ofList] at hb
  obtain ⟨c, hc, hb⟩ := List.mem_flatMap.1 hb
  have hall : (String.utf8EncodeChar c).all isSpace = true := by
    rcases h c hc with rfl | rfl | rfl | rfl <;> decide
  exact List.all_eq_true.1 hall b hb

/-- White space of JSON is a text of white space. -/
theorem Json.Spaces.text {pad : Bytes} (h : Spaces pad) :
    ∃ cs, pad = Bytes.ofText (String.ofList cs) ∧ AllBlank cs := by
  have hall : ∀ n : Fin 256, isSpace (UInt8.ofFin n) = true →
      UInt8.ofFin n < 0x80 ∧ isBlank (Char.ofNat (UInt8.ofFin n).toNat) = true := by decide +kernel
  have hspace (b : UInt8) (hb : isSpace b = true) :
      b < 0x80 ∧ isBlank (Char.ofNat b.toNat) = true := hall b.toFin hb
  refine ⟨pad.map fun b => Char.ofNat b.toNat,
    (Bytes.ofText_ascii fun b hb => (hspace b (h b hb)).1).symm, fun c hc => ?_⟩
  obtain ⟨b, hb, rfl⟩ := List.mem_map.1 hc
  exact (hspace b (h b hb)).2

/-! ## Records -/

namespace Json

/-- Whether the shape is that of a record. -/
def Shape.isRecord : Shape → Bool
  | .record .. => true
  | _ => false

/-- A record is written with braces or brackets. -/
theorem Shape.read_starts {shape : Shape} (h : shape.isRecord = true) {input : Bytes}
    {x : shape.Val × Bytes} (hread : shape.read input = .ok x) :
    ∃ b rest, skipSpace input = b :: rest ∧ (b = '\x7b'.toUInt8 ∨ b = '['.toUInt8) := by
  cases shape with
  | record name fields =>
    rw [Shape.read] at hread
    cases hskip : skipSpace input with
    | nil =>
      rw [hskip] at hread
      cases hread
    | cons b rest =>
      refine ⟨b, rest, rfl, ?_⟩
      rw [hskip] at hread
      by_cases hbrace : b = '\x7b'.toUInt8
      · exact Or.inl hbrace
      · by_cases hbracket : b = '['.toUInt8
        · exact Or.inr hbracket
        · simp only [if_neg hbrace, if_neg hbracket] at hread
          cases hread
  | _ => exact absurd h (by simp [isRecord])

theorem word_eq_ok {tail input rest : Bytes} (h : word tail input = .ok rest) :
    input = tail ++ rest := by
  induction tail generalizing input with
  | nil =>
    cases h
    rfl
  | cons letter tail ih =>
    cases input with
    | nil => cases h
    | cons b input =>
      rw [word] at h
      split at h
      · next hb => rw [hb, ih h, List.cons_append]
      · cases h

/-- A text that is split where its first piece begins. -/
theorem skipSpace_split (input : Bytes) :
    ∃ pad, Spaces pad ∧ input = pad ++ skipSpace input :=
  ⟨input.takeWhile isSpace, List.all_eq_true.1 List.all_takeWhile,
    (List.takeWhile_append_dropWhile).symm⟩

/-- What begins with neither brace nor bracket is no record. -/
theorem Shape.parse_fails {shape : Shape} (h : shape.isRecord = true) {input : Bytes}
    (hstart : ∀ b rest, skipSpace input = b :: rest → b ≠ '\x7b'.toUInt8 ∧ b ≠ '['.toUInt8) :
    ∃ problem, shape.parse input = .error problem := by
  cases hparse : shape.parse input with
  | error problem => exact ⟨problem, rfl⟩
  | ok v =>
    obtain ⟨after, hread, -⟩ := Shape.parse_eq_ok.1 hparse
    obtain ⟨b, rest, hskip, hb⟩ := Shape.read_starts h hread
    obtain ⟨hbrace, hbracket⟩ := hstart b rest hskip
    rcases hb with hb | hb
    · exact absurd hb hbrace
    · exact absurd hb hbracket

/-- What begins like the word is nothing else that may be null. -/
theorem Shape.nullable_fails (shape : Shape) {input rest : Bytes}
    (hskip : skipSpace input = 'n'.toUInt8 :: rest)
    (hnull : ¬ ∃ before after, Spaces before ∧ Spaces after ∧
      input = before ++ Json.null.toBytes ++ after) :
    ∃ problem, (Shape.nullable shape).parse input = .error problem := by
  cases hparse : (Shape.nullable shape).parse input with
  | error problem => exact ⟨problem, rfl⟩
  | ok v =>
    -- then the word would be all there is
    refine absurd ?_ hnull
    obtain ⟨after, hread, hend⟩ := Shape.parse_eq_ok.1 hparse
    rw [Shape.read, hskip] at hread
    simp only [if_true] at hread
    cases hword : word nullTail rest with
    | error stop =>
      rw [hword] at hread
      cases hread
    | ok last =>
      rw [hword] at hread
      cases hread
      obtain ⟨front, hfront, hsplit⟩ := skipSpace_split input
      obtain ⟨back, hback, hall⟩ := skipSpace_split after
      rw [hend, List.append_nil] at hall
      refine ⟨front, back, hfront, hback, ?_⟩
      rw [hsplit, hskip, word_eq_ok hword, hall, toBytes_null]
      simp

/-- What does not begin like the word is read as it would be if it could not be null. -/
theorem Shape.parse_nullable_ne {shape : Shape} {input rest : Bytes} {b : UInt8}
    (hskip : skipSpace input = b :: rest) (hb : b ≠ 'n'.toUInt8) :
    (Shape.nullable shape).parse input
      = (shape.parse input).map fun v => (some v : Option shape.Val) := by
  obtain ⟨before, hbefore, hsplit⟩ := skipSpace_split input
  have hread : shape.read input = shape.read (b :: rest) := by
    rw [hsplit, hskip]
    exact shape.read_skips hbefore (b :: rest)
  unfold Shape.parse Shape.readWhole
  rw [Shape.read, hskip, hread]
  simp only [if_neg hb]
  cases shape.read (b :: rest) with
  | error stop => rfl
  | ok x =>
    simp only [map_ok, ok_bind]
    cases skipSpace x.2 <;> rfl

/-- **What is not the word is read as a record or null as it is read as a record.** -/
theorem Shape.parse_nullable {shape : Shape} (h : shape.isRecord = true) {input : Bytes}
    (hnull : ¬ ∃ before after, Spaces before ∧ Spaces after ∧
      input = before ++ Json.null.toBytes ++ after) :
    Agree (fun (v : Option shape.Val) w => v = some w) ((Shape.nullable shape).parse input)
      (shape.parse input) := by
  cases hskip : skipSpace input with
  | nil =>
    obtain ⟨problem', hnullable⟩ :
        ∃ problem, (Shape.nullable shape).parse input = .error problem := by
      unfold Shape.parse Shape.readWhole
      rw [Shape.read, hskip]
      exact ⟨_, rfl⟩
    obtain ⟨problem, hproblem⟩ : ∃ problem, shape.parse input = .error problem := by
      refine Shape.parse_fails h fun b rest hstart => ?_
      rw [hskip] at hstart
      exact absurd hstart (by simp)
    exact Agree.of_error hnullable hproblem
  | cons b rest =>
    by_cases hb : b = 'n'.toUInt8
    · subst hb
      obtain ⟨problem, hproblem⟩ : ∃ problem, shape.parse input = .error problem := by
        refine Shape.parse_fails h fun b tail hstart => ?_
        rw [hskip] at hstart
        cases hstart
        decide
      obtain ⟨problem', hproblem'⟩ := shape.nullable_fails hskip hnull
      exact Agree.of_error hproblem' hproblem
    · rw [Shape.parse_nullable_ne hskip hb]
      cases shape.parse input with
      | error problem => exact .error _ _
      | ok v => exact .ok rfl

theorem parse_null (shape : Shape) :
    (Shape.nullable shape).parse Json.null.toBytes = .ok (none : Option shape.Val) := by
  refine Shape.parse_eq_ok.2 ⟨[], ?_, rfl⟩
  have hword := word_append nullTail []
  rw [List.append_nil] at hword
  rw [Shape.read, toBytes_null, skipSpace_cons (by decide)]
  simp only [if_true, hword]
  rfl

end Json

/-! ## Bodies -/

namespace Body

variable {α : Type} [Wire α]

/-- The value or null that a JSON text gives. -/
def nullable (α : Type) [Wire α] (body : Bytes) : Except Problem (Option α) :=
  ((Shape.nullable (Wire.shape α)).parse body).map fun v : Option (Wire.shape α).Val =>
    v.map Wire.ofVal

/-- Nothing but a text is read. -/
theorem optional_unspelled {body : Bytes} (h : Bytes.text? body = none) :
    ∃ fault, optional α body = .error (.bodyNotText fault) := by
  unfold optional Utf8.decode
  rw [h]
  exact ⟨_, rfl⟩

/-- What is left of a text is nothing, the word for it, or has to be a value. -/
theorem optional_trims {text core : String} (h : Trims text.toList core.toList) :
    optional α (Bytes.ofText text) = if core = "" ∨ core = "null" then .ok none
      else match Wire.parseText α core with
        | .ok value => .ok (some value)
        | .error problem => .error (.badBody problem) := by
  have htrim : trim text = core := by
    unfold trim
    rw [trimChars_iff.2 h, String.ofList_toList]
  unfold optional Utf8.decode
  rw [Bytes.text?_ofText]
  simp only [htrim]
  by_cases hnone : core = "" ∨ core = "null"
  · have hcond : (core.isEmpty || decide (core = "null")) = true := by simpa using hnone
    rw [if_pos hnone, if_pos hcond]
  · have hcond : ¬ (core.isEmpty || decide (core = "null")) = true := by simpa using hnone
    refine ((if_neg hcond).trans ?_).trans (if_neg hnone).symm
    rfl

/-- A text has a core. -/
theorem exists_core (text : String) : ∃ core : String, Trims text.toList core.toList :=
  ⟨String.ofList (trimChars text.toList), by
    rw [String.toList_ofList]
    exact trims_trimChars text.toList⟩

/-- What a body is read as, and from what. -/
inductive Reads (α : Type) [Wire α] : Bytes → Except Failure (Option α) → Prop
  | unspelled {body : Bytes} (h : ∀ text, body ≠ Bytes.ofText text) (fault : Utf8.Fault) :
    Reads α body (.error (.bodyNotText fault))
  | absent (text core : String) (hcore : Trims text.toList core.toList)
    (h : core = "" ∨ core = "null") : Reads α (Bytes.ofText text) (.ok none)
  | present (text core : String) (hcore : Trims text.toList core.toList) {a : α}
    (h : Wire.parseText α core = .ok a) : Reads α (Bytes.ofText text) (.ok (some a))
  | refused (text core : String) (hcore : Trims text.toList core.toList) {problem : Problem}
    (hsaid : ¬ (core = "" ∨ core = "null")) (h : Wire.parseText α core = .error problem) :
    Reads α (Bytes.ofText text) (.error (.badBody problem))

theorem optional_reads (body : Bytes) : Reads α body (optional α body) := by
  cases htext : Bytes.text? body with
  | none =>
    obtain ⟨fault, hfault⟩ := optional_unspelled (α := α) htext
    rw [hfault]
    refine .unspelled ?_ fault
    rintro text rfl
    rw [Bytes.text?_ofText] at htext
    exact absurd htext (by simp)
  | some text =>
    obtain rfl := Bytes.eq_ofText_of_text? htext
    obtain ⟨core, hcore⟩ := exists_core text
    rw [optional_trims hcore]
    by_cases hnone : core = "" ∨ core = "null"
    · rw [if_pos hnone]
      exact .absent text core hcore hnone
    · rw [if_neg hnone]
      cases hparse : Wire.parseText α core with
      | ok a => exact .present text core hcore hparse
      | error problem => exact .refused text core hcore hnone hparse

/-- **White space around a body does not count**, not even for what is wrong with it. -/
theorem optional_around {before after : List Char} (hbefore : AllBlank before)
    (hafter : AllBlank after) (text : String) :
    optional α (Bytes.ofText (String.ofList before ++ text ++ String.ofList after))
      = optional α (Bytes.ofText text) := by
  obtain ⟨core, hcore⟩ := exists_core text
  have hlong : Trims (String.ofList before ++ text ++ String.ofList after).toList core.toList := by
    obtain ⟨front, back, htext, hfront, hback, hends⟩ := hcore
    refine ⟨before ++ front, back ++ after, ?_, hbefore.append hfront, hback.append hafter, hends⟩
    rw [String.toList_append, String.toList_append, String.toList_ofList, String.toList_ofList,
      htext]
    simp
  rw [optional_trims hlong, optional_trims hcore]

/-- A record is not written by nothing, nor by the word for nothing. -/
theorem parseText_not (hrecord : (Wire.shape α).isRecord = true) {core : String}
    (h : core = "" ∨ core = "null") (a : α) : Wire.parseText α core ≠ .ok a := by
  obtain ⟨problem, hproblem⟩ :
      ∃ problem, (Wire.shape α).parse (Bytes.ofText core) = .error problem := by
    refine Shape.parse_fails hrecord fun b rest hskip => ?_
    rcases h with rfl | rfl
    · exact absurd hskip (by simp [Bytes.ofText, skipSpace])
    · have hbytes : Bytes.ofText "null" = 'n'.toUInt8 :: nullTail := toBytes_null
      rw [hbytes, skipSpace_cons (by decide)] at hskip
      cases hskip
      decide
  unfold Wire.parseText Wire.parse
  rw [hproblem]
  simp [Except.map]

/-- Only the word itself is the word with white space of JSON around it, when it is trimmed. -/
theorem eq_null_of_spaces {core : String} (hcore : Trimmed core.toList) {before after : Bytes}
    (hbefore : Spaces before) (hafter : Spaces after)
    (h : Bytes.ofText core = before ++ Json.null.toBytes ++ after) : core = "null" := by
  obtain ⟨front, rfl, hfront⟩ := hbefore.text
  obtain ⟨back, rfl, hback⟩ := hafter.text
  have hnull : Json.null.toBytes = Bytes.ofText "null" := rfl
  rw [hnull, ← Bytes.ofText_append, ← Bytes.ofText_append] at h
  have hlong := Bytes.ofText_inj.1 h
  have hword : Trims core.toList "null".toList := by
    refine ⟨front, back, ?_, hfront, hback, by simp [Trimmed, StartsInked, isBlank]⟩
    simp only [hlong, String.toList_append, String.toList_ofList]
  exact String.toList_inj.1 ((trimChars_iff.2 hcore.trims).symm.trans (trimChars_iff.2 hword))

/-- A trimmed text is read as a value or null is. -/
theorem optional_trimmed (hrecord : (Wire.shape α).isRecord = true) {core : String}
    (hcore : Trimmed core.toList) (hne : core ≠ "") :
    Agree (· = ·) (optional α (Bytes.ofText core)) (nullable α (Bytes.ofText core)) := by
  rw [optional_trims hcore.trims]
  by_cases hword : core = "null"
  · subst hword
    have hnull : Bytes.ofText "null" = Json.null.toBytes := rfl
    rw [if_pos (Or.inr rfl), nullable, hnull, parse_null]
    exact .ok rfl
  · rw [if_neg (not_or.2 ⟨hne, hword⟩)]
    have hspaced : ¬ ∃ before after, Spaces before ∧ Spaces after ∧
        Bytes.ofText core = before ++ Json.null.toBytes ++ after := by
      rintro ⟨before, after, hbefore, hafter, h⟩
      exact hword (eq_null_of_spaces hcore hbefore hafter h)
    have hagree := Shape.parse_nullable hrecord hspaced
    unfold nullable Wire.parseText Wire.parse
    generalize (Shape.nullable (Wire.shape α)).parse (Bytes.ofText core) = x at hagree ⊢
    generalize (Wire.shape α).parse (Bytes.ofText core) = y at hagree ⊢
    cases hagree with
    | error problem problem' => exact .error _ _
    | ok h =>
      cases h
      exact .ok rfl

/-- **A body that is not blank, with white space of JSON around it, is read as JSON.** -/
theorem optional_json (hrecord : (Wire.shape α).isRecord = true) {before after : List Char}
    (hbefore : JsonBlank before) (hafter : JsonBlank after) {core : String}
    (hcore : Trimmed core.toList) (hne : core ≠ "") :
    Agree (· = ·)
      (optional α (Bytes.ofText (String.ofList before ++ core ++ String.ofList after)))
      (nullable α (Bytes.ofText (String.ofList before ++ core ++ String.ofList after))) := by
  rw [optional_around hbefore.allBlank hafter.allBlank, Bytes.ofText_append, Bytes.ofText_append]
  have hpadded : Agree (· = ·)
      (nullable α (Bytes.ofText (String.ofList before) ++ Bytes.ofText core
        ++ Bytes.ofText (String.ofList after)))
      (nullable α (Bytes.ofText core)) :=
    (Shape.parse_padded hbefore.spaces hafter.spaces (.nullable (Wire.shape α)) _).map
      fun _ _ h => congrArg _ h
  exact (optional_trimmed hrecord hcore hne).trans hpadded.symm

/-- How a body is read that may be absent, from what is left of its text. What is wrong with a body
is wrong with what is left, and has its place there. -/
structure ReadsOptionally (α : Type) [Wire α] : Prop where
  unspelled {body : Bytes} (h : ∀ text, body ≠ Bytes.ofText text) :
    ∃ f, optional α body = .error f ∧ f.kind = .invalidRequest
  absent {body : Bytes} : optional α body = .ok none ↔
    ∃ text core : String, body = Bytes.ofText text ∧ Trims text.toList core.toList ∧
      (core = "" ∨ core = "null")
  present {body : Bytes} {a : α} : optional α body = .ok (some a) ↔
    ∃ text core : String, body = Bytes.ofText text ∧ Trims text.toList core.toList ∧
      Wire.parseText α core = .ok a
  wrong {body : Bytes} {problem : Problem} : optional α body = .error (.badBody problem) ↔
    ∃ text core : String, body = Bytes.ofText text ∧ Trims text.toList core.toList ∧
      core ≠ "" ∧ core ≠ "null" ∧ Wire.parseText α core = .error problem
  refused {body : Bytes} {f : Failure} (h : optional α body = .error f) : f.kind = .invalidRequest
  around {before after : List Char} (hbefore : AllBlank before) (hafter : AllBlank after)
    (text : String) :
    optional α (Bytes.ofText (String.ofList before ++ text ++ String.ofList after))
      = optional α (Bytes.ofText text)
  json {before after : List Char} (hbefore : JsonBlank before) (hafter : JsonBlank after)
    {core : String} (hcore : Trimmed core.toList) (hne : core ≠ "") :
    Agree (· = ·)
      (optional α (Bytes.ofText (String.ofList before ++ core ++ String.ofList after)))
      (nullable α (Bytes.ofText (String.ofList before ++ core ++ String.ofList after)))

theorem readsOptionally_of_isRecord (hrecord : (Wire.shape α).isRecord = true) :
    ReadsOptionally α where
  unspelled {body} h := by
    have hread := optional_reads (α := α) body
    generalize optional α body = result at hread ⊢
    cases hread with
    | unspelled _ fault => exact ⟨_, rfl, rfl⟩
    | absent text => exact absurd rfl (h text)
    | present text => exact absurd rfl (h text)
    | refused text => exact absurd rfl (h text)
  absent {body} := by
    constructor
    · intro hnone
      have hread := optional_reads (α := α) body
      rw [hnone] at hread
      cases hread with
      | absent text core hcore h => exact ⟨text, core, rfl, hcore, h⟩
    · rintro ⟨text, core, rfl, hcore, hnone⟩
      rw [optional_trims hcore, if_pos hnone]
  present {body a} := by
    constructor
    · intro hsome
      have hread := optional_reads (α := α) body
      rw [hsome] at hread
      cases hread with
      | present text core hcore hparse => exact ⟨text, core, rfl, hcore, hparse⟩
    · rintro ⟨text, core, rfl, hcore, hparse⟩
      rw [optional_trims hcore, if_neg fun h => parseText_not hrecord h a hparse, hparse]
  wrong {body problem} := by
    constructor
    · intro hwrong
      have hread := optional_reads (α := α) body
      rw [hwrong] at hread
      cases hread with
      | refused text core hcore hsaid hparse =>
        obtain ⟨hne, hword⟩ := not_or.1 hsaid
        exact ⟨text, core, rfl, hcore, hne, hword, hparse⟩
    · rintro ⟨text, core, rfl, hcore, hne, hword, hparse⟩
      rw [optional_trims hcore, if_neg (not_or.2 ⟨hne, hword⟩), hparse]
  refused {body f} h := by
    have hread := optional_reads (α := α) body
    rw [h] at hread
    cases hread with
    | unspelled => rfl
    | refused => rfl
  around hbefore hafter text := optional_around hbefore hafter text
  json hbefore hafter _ hcore hne := optional_json hrecord hbefore hafter hcore hne

/-- **Every body that may be absent is read as nothing or as JSON**, up to white space. -/
theorem optional_bodies :
    ReadsOptionally NewSubscription ∧ ReadsOptionally NewCommand ∧ ReadsOptionally CommandUpdate :=
  ⟨readsOptionally_of_isRecord rfl, readsOptionally_of_isRecord rfl,
    readsOptionally_of_isRecord rfl⟩

/-- What is wrong has its place in what is left, so neither line ends nor blanks before it count. -/
example : optional NewCommand (Bytes.ofText " \n \u2003{name: 1} ")
    = .error (.badBody ⟨⟨.keyNotText, [.unnamed]⟩, ⟨1, 2⟩⟩) := by rfl

/-- The word may stand between white space that is none in JSON. -/
example : optional NewCommand (Bytes.ofText "\u00a0null\u2003\n") = .ok none := by rfl

end Body

end CloudIde
