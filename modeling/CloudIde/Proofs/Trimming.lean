import CloudIde.Text.Blank

/-!
# Trimming and splitting, from what they leave

A text is trimmed to the one part of it that has white space around it and neither begins nor ends
with any (`trimChars_iff`). The pieces of a list are its parts that reach from an end or a separator
to the next without one in them (`mem_pieces`). A list that is written with commas has the trimmed
pieces that are not empty (`mem_commaList`).
-/

namespace CloudIde

/-! ## Trimming -/

/-- A text that is white space. -/
def AllBlank (cs : List Char) : Prop := ∀ c ∈ cs, isBlank c = true

/-- A text that does not begin with white space. -/
def StartsInked (cs : List Char) : Prop := ∀ c ∈ cs.head?, isBlank c = false

/-- A text that neither begins nor ends with white space. -/
def Trimmed (cs : List Char) : Prop := StartsInked cs ∧ StartsInked cs.reverse

/-- A text is a core with white space around it, and there is none at the ends of the core. -/
def Trims (text core : List Char) : Prop :=
  ∃ before after, text = before ++ core ++ after ∧ AllBlank before ∧ AllBlank after ∧ Trimmed core

section

variable {text core before after cs : List Char}

theorem AllBlank.reverse (h : AllBlank cs) : AllBlank cs.reverse :=
  fun c hc => h c (List.mem_reverse.1 hc)

theorem AllBlank.append (h : AllBlank before) (h' : AllBlank after) :
    AllBlank (before ++ after) := by
  intro c hc
  rcases List.mem_append.1 hc with hc | hc
  · exact h c hc
  · exact h' c hc

theorem trimmed_nil : Trimmed [] := ⟨by simp [StartsInked], by simp [StartsInked]⟩

theorem Trimmed.trims (h : Trimmed core) : Trims core core :=
  ⟨[], [], by simp, by simp [AllBlank], by simp [AllBlank], h⟩

theorem dropWhile_inked (h : StartsInked cs) : cs.dropWhile isBlank = cs := by
  cases cs with
  | nil => rfl
  | cons c rest => exact List.dropWhile_cons_of_neg (by simp [h c rfl])

theorem startsInked_dropWhile (cs : List Char) : StartsInked (cs.dropWhile isBlank) := by
  intro c hc
  have hstops := List.head?_dropWhile_not isBlank cs
  rw [Option.mem_def.1 hc] at hstops
  exact hstops

theorem dropWhile_blank (h : AllBlank before) :
    (before ++ cs).dropWhile isBlank = cs.dropWhile isBlank :=
  List.dropWhile_append_of_pos h

theorem dropWhile_allBlank (h : AllBlank cs) : cs.dropWhile isBlank = [] := by
  have hrest : (cs ++ []).dropWhile isBlank = [] := dropWhile_blank h
  rwa [List.append_nil] at hrest

/-- White space around a core is taken away, and the core is left. -/
theorem trimChars_enclosed (hbefore : AllBlank before) (hafter : AllBlank after)
    (hcore : Trimmed core) : trimChars (before ++ core ++ after) = core := by
  unfold trimChars trimEndChars
  rw [List.append_assoc, dropWhile_blank hbefore]
  cases core with
  | nil => simp [dropWhile_allBlank hafter]
  | cons c rest =>
    have hstart : StartsInked (c :: rest ++ after) := fun d hd => hcore.1 d hd
    rw [dropWhile_inked hstart, List.reverse_append, dropWhile_blank hafter.reverse,
      dropWhile_inked hcore.2, List.reverse_reverse]

/-- What is left has the rest of the text around it. -/
theorem trims_trimChars (text : List Char) : Trims text (trimChars text) := by
  have hfront := (List.takeWhile_append_dropWhile (p := isBlank) (l := text)).symm
  generalize hrest : text.dropWhile isBlank = rest at hfront
  have hback := (List.takeWhile_append_dropWhile (p := isBlank) (l := rest.reverse)).symm
  have hcore : trimChars text = (rest.reverse.dropWhile isBlank).reverse := by
    unfold trimChars trimEndChars
    rw [hrest]
  have hsplit : rest = trimChars text ++ (rest.reverse.takeWhile isBlank).reverse := by
    rw [hcore, ← List.reverse_append, ← hback, List.reverse_reverse]
  refine ⟨text.takeWhile isBlank, (rest.reverse.takeWhile isBlank).reverse, ?_,
    List.all_eq_true.1 List.all_takeWhile,
    AllBlank.reverse (List.all_eq_true.1 List.all_takeWhile), ?_, ?_⟩
  · rw [List.append_assoc, ← hsplit]
    exact hfront
  · -- the core begins like the rest, unless nothing is left
    intro c hc
    refine startsInked_dropWhile text c ?_
    rw [hrest, hsplit, List.head?_append, hc]
    rfl
  · rw [hcore, List.reverse_reverse]
    exact startsInked_dropWhile rest.reverse

/-- **Trimming leaves the core**, and there is one core only. -/
theorem trimChars_iff : trimChars text = core ↔ Trims text core := by
  constructor
  · rintro rfl
    exact trims_trimChars text
  · rintro ⟨before, after, rfl, hbefore, hafter, hcore⟩
    exact trimChars_enclosed hbefore hafter hcore

theorem trimChars_eq_nil : trimChars text = [] ↔ AllBlank text := by
  rw [trimChars_iff]
  constructor
  · rintro ⟨before, after, rfl, hbefore, hafter, -⟩
    rw [List.append_nil]
    exact hbefore.append hafter
  · intro h
    exact ⟨text, [], by simp, h, by simp [AllBlank], trimmed_nil⟩

end

/-! ## Splitting -/

/-- A part of a list that reaches from an end or a separator to the next. -/
def IsPiece {α : Type} (separator : α) (piece text : List α) : Prop :=
  separator ∉ piece ∧ ∃ before after, text = before ++ piece ++ after ∧
    (before = [] ∨ ∃ front, before = front ++ [separator]) ∧
    (after = [] ∨ ∃ back, after = separator :: back)

/-- What is joined has the elements of the parts and what is put between them. -/
theorem mem_intercalate {α : Type} {between : List α} {parts : List (List α)} {a : α}
    (h : a ∈ between.intercalate parts) : a ∈ between ∨ ∃ part ∈ parts, a ∈ part := by
  match parts with
  | [] => exact absurd h List.not_mem_nil
  | [part] =>
    rw [List.intercalate_singleton] at h
    exact Or.inr ⟨part, List.mem_cons_self, h⟩
  | part :: next :: rest =>
    rw [List.intercalate_cons_cons] at h
    rcases List.mem_append.1 h with h | h
    · rcases List.mem_append.1 h with h | h
      · exact Or.inr ⟨part, List.mem_cons_self, h⟩
      · exact Or.inl h
    · rcases mem_intercalate h with h | ⟨other, hother, h⟩
      · exact Or.inl h
      · exact Or.inr ⟨other, List.mem_cons_of_mem _ hother, h⟩

section

variable {α : Type} [DecidableEq α] {separator : α} {piece rest : List α}

theorem pieces_last (h : separator ∉ piece) : pieces separator piece = [piece] := by
  induction piece with
  | nil => rfl
  | cons a piece ih =>
    have hne : a ≠ separator := fun he => h (he ▸ List.mem_cons_self)
    rw [pieces, if_neg hne, ih fun hlater => h (List.mem_cons_of_mem a hlater)]

theorem pieces_append (h : separator ∉ piece) :
    pieces separator (piece ++ separator :: rest) = piece :: pieces separator rest := by
  induction piece with
  | nil => rw [List.nil_append, pieces, if_pos rfl]
  | cons a piece ih =>
    have hne : a ≠ separator := fun he => h (he ▸ List.mem_cons_self)
    rw [List.cons_append, pieces, if_neg hne, ih fun hlater => h (List.mem_cons_of_mem a hlater)]

theorem pieces_separated (front rest : List α) :
    pieces separator (front ++ separator :: rest)
      = pieces separator front ++ pieces separator rest := by
  by_cases hfront : separator ∈ front
  · -- the first separator of the front ends the first piece of both
    obtain ⟨first, middle, rfl, hfirst⟩ := List.eq_append_cons_of_mem hfront
    rw [List.append_assoc, List.cons_append, pieces_append hfirst, pieces_append hfirst,
      pieces_separated middle rest, List.cons_append]
  · rw [pieces_append hfront, pieces_last hfront]
    rfl
termination_by front.length

theorem pieces_ne_nil (text : List α) : pieces separator text ≠ [] := by
  by_cases htext : separator ∈ text
  · obtain ⟨first, rest, rfl, hfirst⟩ := List.eq_append_cons_of_mem htext
    rw [pieces_append hfirst]
    exact List.cons_ne_nil _ _
  · rw [pieces_last htext]
    exact List.cons_ne_nil _ _

/-- Parts without separators, joined by separators, are the pieces of what they make. -/
theorem pieces_intercalate {parts : List (List α)} (hparts : parts ≠ [])
    (h : ∀ part ∈ parts, separator ∉ part) :
    pieces separator ([separator].intercalate parts) = parts := by
  match parts with
  | [] => exact absurd rfl hparts
  | [part] =>
    rw [List.intercalate_singleton, pieces_last (h part List.mem_cons_self)]
  | part :: next :: rest =>
    have hrest := pieces_intercalate (List.cons_ne_nil next rest)
      fun part hpart => h part (List.mem_cons_of_mem _ hpart)
    rw [List.intercalate_cons_cons, List.append_assoc, List.singleton_append,
      pieces_append (h part List.mem_cons_self), hrest]

theorem isPiece_of_mem {text : List α} (h : piece ∈ pieces separator text) :
    IsPiece separator piece text := by
  by_cases htext : separator ∈ text
  · obtain ⟨first, rest, rfl, hfirst⟩ := List.eq_append_cons_of_mem htext
    rw [pieces_append hfirst] at h
    rcases List.mem_cons.1 h with rfl | h
    · exact ⟨hfirst, [], separator :: rest, by simp, Or.inl rfl, Or.inr ⟨rest, rfl⟩⟩
    · obtain ⟨hpiece, before, after, rfl, hbefore, hafter⟩ := isPiece_of_mem h
      refine ⟨hpiece, first ++ separator :: before, after, by simp, Or.inr ?_, hafter⟩
      rcases hbefore with rfl | ⟨front, rfl⟩
      · exact ⟨first, rfl⟩
      · exact ⟨first ++ separator :: front, by simp⟩
  · rw [pieces_last htext] at h
    obtain rfl := List.mem_singleton.1 h
    exact ⟨htext, [], [], by simp, Or.inl rfl, Or.inl rfl⟩
termination_by text.length

/-- **The pieces are what lies between the separators.** -/
theorem mem_pieces {text : List α} :
    piece ∈ pieces separator text ↔ IsPiece separator piece text := by
  refine ⟨isPiece_of_mem, ?_⟩
  rintro ⟨hpiece, before, after, rfl, hbefore, hafter⟩
  have hfirst : piece ∈ pieces separator (piece ++ after) := by
    rcases hafter with rfl | ⟨back, rfl⟩
    · rw [List.append_nil, pieces_last hpiece]
      exact List.mem_singleton_self piece
    · rw [pieces_append hpiece]
      exact List.mem_cons_self
  rcases hbefore with rfl | ⟨front, rfl⟩
  · exact hfirst
  · rw [List.append_assoc, List.append_assoc, List.singleton_append, pieces_separated]
    exact List.mem_append_right _ hfirst

/-- The pieces, joined by separators, are the list. -/
theorem intercalate_pieces (separator : α) (text : List α) :
    [separator].intercalate (pieces separator text) = text := by
  by_cases htext : separator ∈ text
  · obtain ⟨first, rest, rfl, hfirst⟩ := List.eq_append_cons_of_mem htext
    have hrest := intercalate_pieces separator rest
    rw [pieces_append hfirst]
    cases hpieces : pieces separator rest with
    | nil => exact absurd hpieces (pieces_ne_nil rest)
    | cons next others =>
      rw [hpieces] at hrest
      rw [List.intercalate_cons_cons, hrest, List.append_assoc, List.singleton_append]
  · rw [pieces_last htext, List.intercalate_singleton]
termination_by text.length

/-! ### Cutting -/

theorem cut_last (h : separator ∉ piece) : cut separator piece = (piece, none) := by
  induction piece with
  | nil => rfl
  | cons a piece ih =>
    have hne : a ≠ separator := fun he => h (he ▸ List.mem_cons_self)
    rw [cut, if_neg hne, ih fun hlater => h (List.mem_cons_of_mem a hlater)]

theorem cut_append (h : separator ∉ piece) :
    cut separator (piece ++ separator :: rest) = (piece, some rest) := by
  induction piece with
  | nil => rw [List.nil_append, cut, if_pos rfl]
  | cons a piece ih =>
    have hne : a ≠ separator := fun he => h (he ▸ List.mem_cons_self)
    rw [List.cons_append, cut, if_neg hne, ih fun hlater => h (List.mem_cons_of_mem a hlater)]

theorem cut_front (h : separator ∉ piece) (rest : List α) :
    cut separator (piece ++ rest) = (piece ++ (cut separator rest).1, (cut separator rest).2) := by
  induction piece with
  | nil => rfl
  | cons a piece ih =>
    have hne : a ≠ separator := fun he => h (he ▸ List.mem_cons_self)
    rw [List.cons_append, cut, if_neg hne, ih fun hlater => h (List.mem_cons_of_mem a hlater)]
    rfl

/-- What is cut off at a separator begins with what has none. -/
theorem cut_fst (separator : α) (text : List α) :
    separator ∉ (cut separator text).1 ∧ (cut separator text).1.Sublist text := by
  by_cases htext : separator ∈ text
  · obtain ⟨first, rest, rfl, hfirst⟩ := List.eq_append_cons_of_mem htext
    rw [cut_append hfirst]
    exact ⟨hfirst, List.sublist_append_left first _⟩
  · rw [cut_last htext]
    exact ⟨htext, List.Sublist.refl text⟩

/-- The whole list is what is cut off, or that and a separator with more behind it. -/
theorem cut_split (separator : α) (text : List α) :
    text = (cut separator text).1 ∨ ∃ rest, text = (cut separator text).1 ++ separator :: rest := by
  by_cases htext : separator ∈ text
  · obtain ⟨first, rest, rfl, hfirst⟩ := List.eq_append_cons_of_mem htext
    rw [cut_append hfirst]
    exact Or.inr ⟨rest, rfl⟩
  · rw [cut_last htext]
    exact Or.inl rfl

end

/-- A list with commas names what is left of its pieces. -/
theorem mem_commaList {text name : String} :
    name ∈ commaList text ↔
      ∃ piece, IsPiece ',' piece text.toList ∧ Trims piece name.toList ∧ name ≠ "" := by
  unfold commaList
  simp only [List.mem_filterMap, List.mem_map, Option.ite_none_left_eq_some, Option.some.injEq]
  constructor
  · rintro ⟨_, ⟨piece, hpiece, rfl⟩, hsome, rfl⟩
    refine ⟨piece, mem_pieces.1 hpiece, ?_, fun hempty => hsome ?_⟩
    · rw [String.toList_ofList]
      exact trims_trimChars piece
    · have hnone := congrArg String.toList hempty
      rw [String.toList_ofList] at hnone
      simp [hnone]
  · rintro ⟨piece, hpiece, htrims, hne⟩
    refine ⟨trimChars piece, ⟨piece, mem_pieces.2 hpiece, rfl⟩, ?_, ?_⟩
    · rw [trimChars_iff.2 htrims]
      simpa using hne
    · rw [trimChars_iff.2 htrims, String.ofList_toList]

end CloudIde
