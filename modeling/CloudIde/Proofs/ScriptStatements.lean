import CloudIde.Database.Script
import CloudIde.Proofs.Trimming
import Mathlib.Data.List.Chain

/-!
# The statements of a script

A script is written row by row. A row holds a line of a statement, with a semicolon behind the last
one, and perhaps a comment after white space; other rows are blank or comments. Whatever the
comments say, the lines alone are left when the rows are read (`Written.said`), and the semicolons
between them are the ends of the statements. So a script has the statements that were written
(`script_statements`), and no script has one that could not have been.
-/

namespace CloudIde.Script

/-- No comment begins in a text. -/
def Uncommented (text : List Char) : Prop := ¬ ['-', '-'] <:+: text

/-- Words of a statement: there are some, without white space around them, and neither a semicolon
nor a comment is among them. -/
structure Plain (words : List Char) : Prop where
  ne_nil : words ≠ []
  trimmed : Trimmed words
  whole : ';' ∉ words
  uncommented : Uncommented words

/-- White space, with a comment behind it or without. -/
def IsTail (tail : List Char) : Prop :=
  AllBlank tail ∨
    ∃ gap comment, tail = gap ++ '-' :: '-' :: comment ∧ AllBlank gap ∧ gap ≠ []

/-- A row holds some words: they are indented, and followed by white space or a comment. -/
def Holds (words row : List Char) : Prop :=
  ∃ indent tail, row = indent ++ words ++ tail ∧ AllBlank indent ∧ IsTail tail

/-- A row is blank, or a comment with an indentation. -/
def IsIdle (row : List Char) : Prop :=
  AllBlank row ∨ ∃ indent comment, row = indent ++ '-' :: '-' :: comment ∧ AllBlank indent

/-- Rows write statements, which are lists of lines: each line stands in a row of its own, and the
last one of a statement has a semicolon behind it. -/
inductive Written : List (List (List Char)) → List (List Char) → Prop
  | done : Written [] []
  | idle {statements rows row} :
      IsIdle row → Written statements rows → Written statements (row :: rows)
  | line {statements rows line lines row} :
      Plain line → Holds line row → Written (lines :: statements) rows →
        Written ((line :: lines) :: statements) (row :: rows)
  | last {statements rows line gap row} :
      Plain line → AllBlank gap → Holds (line ++ gap ++ [';']) row → Written statements rows →
        Written ([line] :: statements) (row :: rows)

-- a quantifier over the characters of a text is decided along the text, never over all characters
instance (text : List Char) : Decidable (AllBlank text) :=
  List.decidableBAll (fun c => isBlank c = true) text

instance (text : List Char) : Decidable (StartsInked text) :=
  Option.decidableForallMem (p := fun c => isBlank c = false) text.head?

variable {text words row gap : List Char}

/-! ## Comments -/

theorem uncommented_iff :
    Uncommented text ↔ List.IsChain (fun a b => ¬ (a = '-' ∧ b = '-')) text := by
  rw [List.isChain_iff_forall_rel_of_append_cons_cons]
  constructor
  · rintro h a b before after rfl ⟨rfl, rfl⟩
    exact h ⟨before, after, by simp⟩
  · rintro h ⟨before, after, rfl⟩
    have hsplit : before ++ ['-', '-'] ++ after = before ++ '-' :: '-' :: after := by simp
    exact h hsplit ⟨rfl, rfl⟩

instance (text : List Char) : Decidable (Uncommented text) :=
  decidable_of_iff (List.IsChain (fun a b => ¬ (a = '-' ∧ b = '-')) text) uncommented_iff.symm

instance (words : List Char) : Decidable (Plain words) :=
  decidable_of_iff (words ≠ [] ∧ (StartsInked words ∧ StartsInked words.reverse) ∧ ';' ∉ words ∧
      Uncommented words)
    ⟨fun ⟨hne, htrimmed, hwhole, huncommented⟩ => ⟨hne, htrimmed, hwhole, huncommented⟩,
      fun h => ⟨h.ne_nil, h.trimmed, h.whole, h.uncommented⟩⟩

theorem Uncommented.part {part : List Char} (h : Uncommented text) (hpart : part <:+: text) :
    Uncommented part := fun hcomment => h (hcomment.trans hpart)

/-- Two texts make no comment where they meet if they have no hyphens there. -/
theorem Uncommented.append {after : List Char} (h : Uncommented text) (h' : Uncommented after)
    (hmeet : text.getLast? = some '-' → after.head? ≠ some '-') : Uncommented (text ++ after) := by
  rw [uncommented_iff] at h h' ⊢
  refine List.isChain_append.2 ⟨h, h', fun a ha b hb hboth => ?_⟩
  obtain ⟨rfl, rfl⟩ := hboth
  exact hmeet ha hb

theorem hyphen_not_mem (h : AllBlank gap) : '-' ∉ gap := fun hhyphen =>
  absurd (h '-' hhyphen) (by decide)

theorem Uncommented.append_blank (h : Uncommented text) (hgap : AllBlank gap) :
    Uncommented (text ++ gap) := by
  have hnone := hyphen_not_mem hgap
  refine h.append (fun hcomment => hnone (hcomment.subset List.mem_cons_self)) fun _ hhead => ?_
  exact hnone (List.mem_of_head? hhead)

theorem Uncommented.of_cons {c : Char} (h : Uncommented (c :: text)) :
    Uncommented text ∧ ¬ (c = '-' ∧ text.head? = some '-') := by
  rw [uncommented_iff, List.isChain_cons] at h
  exact ⟨uncommented_iff.2 h.2, fun ⟨hc, hhead⟩ => h.1 '-' hhead ⟨hc, rfl⟩⟩

theorem beforeComment_cons {c : Char} (h : ¬ (c = '-' ∧ text.head? = some '-')) :
    beforeComment (c :: text) = c :: beforeComment text := by
  rw [beforeComment.eq_def]
  split
  · next heq => exact absurd heq (List.cons_ne_nil _ _)
  · next heq =>
    obtain ⟨rfl, rfl⟩ := List.cons.inj heq
    rfl
  · next heq =>
    obtain ⟨rfl, rfl⟩ := List.cons.inj heq
    exact absurd ⟨rfl, rfl⟩ h
  · next heq =>
    obtain ⟨rfl, rfl⟩ := List.cons.inj heq
    rfl

theorem beforeComment_uncommented (h : Uncommented text) : beforeComment text = text := by
  induction text with
  | nil => rfl
  | cons c rest ih =>
    obtain ⟨hrest, hcomment⟩ := h.of_cons
    rw [beforeComment_cons hcomment, ih hrest]

/-- A comment is taken away with its two hyphens, if no third one stands before them. -/
theorem beforeComment_comment (h : Uncommented text) (hlast : text.getLast? ≠ some '-')
    (comment : List Char) : beforeComment (text ++ '-' :: '-' :: comment) = text := by
  induction text with
  | nil => rfl
  | cons c rest ih =>
    obtain ⟨hrest, hcomment⟩ := h.of_cons
    cases rest with
    | nil =>
      have hc : c ≠ '-' := fun hc => hlast (congrArg some hc)
      exact beforeComment_cons fun hhead => hc hhead.1
    | cons d rest =>
      rw [List.getLast?_cons_cons] at hlast
      have hkept : beforeComment (c :: (d :: rest ++ '-' :: '-' :: comment))
          = c :: beforeComment (d :: rest ++ '-' :: '-' :: comment) := beforeComment_cons hcomment
      exact hkept.trans (congrArg (List.cons c) (ih hrest hlast))

theorem beforeComment_prefix (text : List Char) : beforeComment text <+: text := by
  fun_induction beforeComment text with
  | case1 => exact List.prefix_rfl
  | case2 => exact List.prefix_rfl
  | case3 => exact List.nil_prefix
  | case4 c rest _ _ ih => exact (List.prefix_cons_inj c).2 ih

/-- What stands before the first comment holds none. -/
theorem uncommented_beforeComment (text : List Char) : Uncommented (beforeComment text) := by
  rw [uncommented_iff]
  fun_induction beforeComment text with
  | case1 => exact List.isChain_nil
  | case2 => exact List.isChain_singleton _
  | case3 => exact List.isChain_nil
  | case4 c rest _ hcomment ih =>
    refine List.isChain_cons.2 ⟨fun d hd hboth => ?_, ih⟩
    obtain ⟨rfl, rfl⟩ := hboth
    obtain ⟨said, hsaid⟩ := List.head?_eq_some_iff.1 hd
    obtain ⟨after, hafter⟩ := beforeComment_prefix rest
    rw [hsaid] at hafter
    exact hcomment _ rfl hafter.symm

/-- Nothing stands before a comment that begins a text. -/
theorem beforeComment_eq_nil : beforeComment text = [] ↔ text = [] ∨ ['-', '-'] <+: text := by
  fun_cases beforeComment text with
  | case1 => simp
  | case2 => simp
  | case3 rest => simp
  | case4 c rest _ hcomment =>
    refine ⟨fun h => absurd h (List.cons_ne_nil _ _), ?_⟩
    rintro (h | ⟨after, hafter⟩)
    · exact absurd h (List.cons_ne_nil _ _)
    · obtain ⟨rfl, hrest⟩ := List.cons.inj hafter
      exact absurd hrest.symm (hcomment _ rfl)

/-! ## Rows -/

/-- What stands behind some words is trimmed at its end only, whatever stands before them. -/
theorem trimChars_behind {indent : List Char} (hindent : AllBlank indent) (hne : words ≠ [])
    (hwords : Trimmed words) (rest : List Char) :
    trimChars (indent ++ words ++ rest) = words ++ trimEndChars isBlank rest := by
  have hstart : StartsInked (words ++ rest) := by
    obtain ⟨c, words, rfl⟩ := List.exists_cons_of_ne_nil hne
    exact hwords.1
  unfold trimChars trimEndChars
  rw [List.append_assoc, dropWhile_blank hindent, dropWhile_inked hstart, List.reverse_append,
    List.dropWhile_append]
  split
  · next hempty =>
    rw [dropWhile_inked hwords.2, List.isEmpty_iff.1 hempty, List.reverse_reverse]
    exact (List.append_nil words).symm
  · rw [List.reverse_append, List.reverse_reverse]

theorem rowText_eq (row : List Char) : rowText row =
    if beforeComment (trimChars row) = [] then []
    else trimChars (beforeComment (trimChars row)) ++ [' '] := by
  unfold rowText
  simp only [beforeComment_eq_nil, Bool.or_eq_true, List.isEmpty_iff, List.isPrefixOf_iff_prefix]

/-- Whatever a row says holds no comment, and ends before one could begin. -/
theorem rowText_uncommented (row : List Char) :
    Uncommented (rowText row) ∧ (rowText row).getLast? ≠ some '-' := by
  rw [rowText_eq]
  split
  · exact ⟨by simp [Uncommented], by simp⟩
  · obtain ⟨before, after, hsplit, -⟩ := trims_trimChars (beforeComment (trimChars row))
    have hsaid := (uncommented_beforeComment (trimChars row)).part ⟨before, after, hsplit.symm⟩
    have hblank : AllBlank [' '] := by simp [AllBlank, isBlank]
    exact ⟨hsaid.append_blank hblank, by simp⟩

theorem rowText_idle (h : IsIdle row) : rowText row = [] := by
  rw [rowText_eq, if_pos]
  rw [beforeComment_eq_nil]
  rcases h with hblank | ⟨indent, comment, rfl, hindent⟩
  · exact Or.inl (trimChars_eq_nil.2 hblank)
  · have hhyphens : Trimmed ['-', '-'] := by simp [Trimmed, StartsInked, isBlank]
    have htrim := trimChars_behind hindent (List.cons_ne_nil _ _) hhyphens comment
    refine Or.inr ⟨trimEndChars isBlank comment, ?_⟩
    rw [← htrim]
    simp

/-- **Of a row that holds some words these are left**, with a blank behind them. -/
theorem rowText_holds (hne : words ≠ []) (htrimmed : Trimmed words)
    (huncommented : Uncommented words) (h : Holds words row) : rowText row = words ++ [' '] := by
  obtain ⟨indent, tail, rfl, hindent, htail⟩ := h
  obtain ⟨gap, hgap, hsaid⟩ : ∃ gap, AllBlank gap ∧
      beforeComment (trimChars (indent ++ words ++ tail)) = words ++ gap := by
    rcases htail with hblank | ⟨gap, comment, rfl, hgap, hgapNe⟩
    · refine ⟨[], by simp [AllBlank], ?_⟩
      rw [trimChars_enclosed hindent hblank htrimmed, beforeComment_uncommented huncommented,
        List.append_nil]
    · refine ⟨gap, hgap, ?_⟩
      have hfront : Trimmed (words ++ gap ++ ['-', '-']) := by
        obtain ⟨c, rest, rfl⟩ := List.exists_cons_of_ne_nil hne
        exact ⟨htrimmed.1, by simp [StartsInked, isBlank]⟩
      have hrow : indent ++ words ++ (gap ++ '-' :: '-' :: comment)
          = indent ++ (words ++ gap ++ ['-', '-']) ++ comment := by simp
      have hlast : (words ++ gap).getLast? ≠ some '-' := by
        intro hlast
        rw [List.getLast?_append_of_ne_nil _ hgapNe] at hlast
        exact hyphen_not_mem hgap (List.mem_of_getLast? hlast)
      rw [hrow, trimChars_behind hindent (by simp) hfront, List.append_assoc (words ++ gap)]
      exact beforeComment_comment (huncommented.append_blank hgap) hlast _
  have htrim : trimChars ([] ++ words ++ gap) = words :=
    trimChars_enclosed (by simp [AllBlank]) hgap htrimmed
  rw [rowText_eq, hsaid, if_neg (List.append_ne_nil_of_left_ne_nil hne gap)]
  exact congrArg (· ++ [' ']) htrim

/-! ## Statements -/

/-- The lines of a statement in one. -/
def joinLines (lines : List (List Char)) : List Char := [' '].intercalate lines

theorem joinLines_singleton (line : List Char) : joinLines [line] = line :=
  List.intercalate_singleton

theorem joinLines_cons {lines : List (List Char)} (line : List Char) (h : lines ≠ []) :
    joinLines (line :: lines) = line ++ ' ' :: joinLines lines := by
  obtain ⟨next, lines, rfl⟩ := List.exists_cons_of_ne_nil h
  exact List.intercalate_cons_cons.trans (List.append_cons ..).symm

/-- A text says some statements, each with a semicolon behind it. -/
inductive Says : List (List (List Char)) → List Char → Prop
  | nothing : Says [] []
  | statement {lines statements gap text} : Plain (joinLines lines) → AllBlank gap →
      Says statements text →
        Says (lines :: statements) (joinLines lines ++ gap ++ ';' :: ' ' :: text)

/-- Words of a statement with a blank between them are such words. -/
theorem Plain.join {others : List Char} (h : Plain words) (h' : Plain others) :
    Plain (words ++ ' ' :: others) where
  ne_nil := List.append_ne_nil_of_left_ne_nil h.ne_nil _
  trimmed := by
    obtain ⟨c, rest, rfl⟩ := List.exists_cons_of_ne_nil h.ne_nil
    refine ⟨h.trimmed.1, ?_⟩
    have hends : StartsInked others.reverse := h'.trimmed.2
    have hne : others.reverse ≠ [] := by simpa using h'.ne_nil
    obtain ⟨d, back, hback⟩ := List.exists_cons_of_ne_nil hne
    rw [List.reverse_append, List.reverse_cons, hback]
    rw [hback] at hends
    exact hends
  whole := by simp [h.whole, h'.whole]
  uncommented := by
    have hblank : AllBlank [' '] := by simp [AllBlank, isBlank]
    rw [List.append_cons]
    exact (h.uncommented.append_blank hblank).append h'.uncommented fun hlast => by simp at hlast

/-- **The rows of a script say the statements that are written in them.** -/
theorem Written.says {statements : List (List (List Char))} {rows : List (List Char)}
    (h : Written statements rows) : Says statements (rows.flatMap rowText) := by
  induction h with
  | done => exact Says.nothing
  | idle hidle _ ih =>
    rw [List.flatMap_cons, rowText_idle hidle]
    exact ih
  | @line statements rows line lines row hline hrow _ ih =>
    rw [List.flatMap_cons, rowText_holds hline.ne_nil hline.trimmed hline.uncommented hrow]
    generalize rows.flatMap rowText = text at ih
    cases ih with
    | statement hlines hgap hrest =>
      have hne : lines ≠ [] := by
        rintro rfl
        exact hlines.ne_nil rfl
      have hjoined : Plain (joinLines (line :: lines)) := by
        rw [joinLines_cons line hne]
        exact hline.join hlines
      have hsays := Says.statement hjoined hgap hrest
      rw [joinLines_cons line hne] at hsays
      simpa using hsays
  | @last statements rows line gap row hline hgap hrow _ ih =>
    have hend : Trimmed (line ++ gap ++ [';']) := by
      obtain ⟨c, rest, rfl⟩ := List.exists_cons_of_ne_nil hline.ne_nil
      exact ⟨hline.trimmed.1, by simp [StartsInked, isBlank]⟩
    have huncommented : Uncommented (line ++ gap ++ [';']) :=
      (hline.uncommented.append_blank hgap).append
        (uncommented_iff.2 (List.isChain_singleton _)) fun _ => by simp
    have hjoined : Plain (joinLines [line]) := (joinLines_singleton line).symm ▸ hline
    have hsays := Says.statement hjoined hgap ih
    rw [joinLines_singleton] at hsays
    rw [List.flatMap_cons, rowText_holds (by simp) hend huncommented hrow]
    simpa using hsays

/-- A blank before a text is trimmed from its first piece. -/
theorem pieces_blank (text : List Char) :
    (pieces ';' (' ' :: text)).map trimChars = (pieces ';' text).map trimChars := by
  rw [pieces, if_neg (by decide)]
  split
  · next hnone => exact absurd hnone (pieces_ne_nil text)
  · next piece others hpieces =>
    rw [hpieces]
    rfl

/-- The pieces of what is said, trimmed, are the statements. -/
theorem Says.recovered {statements : List (List (List Char))} (h : Says statements text) :
    ((pieces ';' text).map trimChars).filter (fun s => !s.isEmpty) = statements.map joinLines := by
  induction h with
  | nothing => rfl
  | @statement lines statements gap text hlines hgap _ ih =>
    have hwhole : ';' ∉ joinLines lines ++ gap := by
      intro hmem
      rcases List.mem_append.1 hmem with hmem | hmem
      · exact hlines.whole hmem
      · exact absurd (hgap ';' hmem) (by decide)
    have htrim : trimChars ([] ++ joinLines lines ++ gap) = joinLines lines :=
      trimChars_enclosed (by simp [AllBlank]) hgap hlines.trimmed
    rw [List.nil_append] at htrim
    rw [pieces_append hwhole, List.map_cons, htrim, pieces_blank, List.filter_cons_of_pos, ih]
    · rfl
    · simpa using hlines.ne_nil

/-- No script says anything that begins a comment. -/
theorem uncommented_joined (script : List Char) : Uncommented (joined script) := by
  unfold joined
  induction CloudIde.pieces '\n' script with
  | nil => simp [Uncommented]
  | cons row rows ih =>
    obtain ⟨hrow, hlast⟩ := rowText_uncommented row
    exact hrow.append ih fun hhyphen => absurd hhyphen hlast

/-- Every statement of a script could have been written in it. -/
theorem plain_of_mem {script s : String} (h : s ∈ statements script) : Plain s.toList := by
  unfold statements at h
  obtain ⟨words, hwords, rfl⟩ := List.mem_map.1 h
  obtain ⟨hmem, hne⟩ := List.mem_filter.1 hwords
  obtain ⟨piece, hpiece, rfl⟩ := List.mem_map.1 hmem
  obtain ⟨hwhole, before, after, hjoined, -⟩ := isPiece_of_mem hpiece
  obtain ⟨front, back, hsplit, -, -, htrimmed⟩ := trims_trimChars piece
  have hpart : trimChars piece <:+: piece := ⟨front, back, hsplit.symm⟩
  rw [String.toList_ofList]
  exact ⟨by simpa using hne, htrimmed, fun hmem => hwhole (hpart.subset hmem),
    (uncommented_joined script.toList).part (hpart.trans ⟨before, after, hjoined.symm⟩)⟩

/-- **A script has the statements that were written**, each with its lines joined by blanks: their
lines stand in its rows in their order, indented or not, a semicolon stands behind the last line of
each, and there may be blank rows, comments as rows, and comments behind white space at the ends of
rows, whatever the comments say. And whatever a script is, none of its statements is empty, has
white space around it, or has a semicolon or a comment in it. -/
theorem script_statements :
    (∀ (written : List (List (List Char))) (rows : List (List Char)) (script : String),
      Written written rows → (∀ row ∈ rows, '\n' ∉ row) →
        script.toList = ['\n'].intercalate rows →
          statements script = written.map fun lines => String.ofList ([' '].intercalate lines)) ∧
    ∀ script, ∀ s ∈ statements script,
      s ≠ "" ∧ ';' ∉ s.toList ∧ ¬ ['-', '-'] <:+: s.toList ∧ Trimmed s.toList := by
  constructor
  · intro written rows script hwritten hrows hscript
    have hjoined : joined script.toList = rows.flatMap rowText := by
      unfold joined
      rw [hscript]
      cases rows with
      | nil => rfl
      | cons row rows => rw [pieces_intercalate (List.cons_ne_nil _ _) hrows]
    unfold statements
    rw [hjoined, hwritten.says.recovered, List.map_map]
    rfl
  · intro script s hs
    have hplain := plain_of_mem hs
    refine ⟨?_, hplain.whole, hplain.uncommented, hplain.trimmed⟩
    rintro rfl
    exact hplain.ne_nil rfl

/-- A script with a comment that reads like a statement, a carriage return, a tab, and a comment
behind a hyphen. -/
def sampleScript : String :=
  "-- Tables; -- and more\nCREATE TABLE a (\r\n  -- x INTEGER;\n\n  id TEXT, -- the id; a key\n" ++
    "  y DEFAULT 2 - -- one\n  1\n); --\n\tCREATE INDEX i ON a(y) ;"

/-- It has two statements, of five lines and of one. -/
theorem script_statements_sample :
    statements sampleScript
        = ["CREATE TABLE a ( id TEXT, y DEFAULT 2 - 1 )", "CREATE INDEX i ON a(y)"] ∧
      ∀ s ∈ statements sampleScript, ';' ∉ s.toList := by
  obtain ⟨hwritten, hplain⟩ := script_statements
  refine ⟨?_, fun s hs => (hplain sampleScript s hs).2.1⟩
  refine (hwritten [["CREATE TABLE a (".toList, "id TEXT,".toList, "y DEFAULT 2 -".toList,
      "1".toList, ")".toList], ["CREATE INDEX i ON a(y)".toList]]
    ["-- Tables; -- and more".toList, "CREATE TABLE a (\r".toList, "  -- x INTEGER;".toList, [],
      "  id TEXT, -- the id; a key".toList, "  y DEFAULT 2 - -- one".toList, "  1".toList,
      "); --".toList, "\tCREATE INDEX i ON a(y) ;".toList] sampleScript ?_ (by decide +kernel)
    (by decide +kernel)).trans (by decide +kernel)
  have hindent : AllBlank "  ".toList := by decide +kernel
  have hblank : AllBlank " ".toList := by decide +kernel
  refine .idle (.inr ⟨[], " Tables; -- and more".toList, by decide +kernel, by decide⟩) ?_
  refine .line (by decide +kernel) ⟨[], "\r".toList, by decide +kernel, by decide,
    .inl (by decide +kernel)⟩ ?_
  refine .idle (.inr ⟨"  ".toList, " x INTEGER;".toList, by decide +kernel, hindent⟩) ?_
  refine .idle (.inl (by decide)) ?_
  refine .line (by decide +kernel) ⟨"  ".toList, " -- the id; a key".toList, by decide +kernel,
    hindent, .inr ⟨" ".toList, " the id; a key".toList, by decide +kernel, hblank, by decide⟩⟩ ?_
  refine .line (by decide +kernel) ⟨"  ".toList, " -- one".toList, by decide +kernel, hindent,
    .inr ⟨" ".toList, " one".toList, by decide +kernel, hblank, by decide⟩⟩ ?_
  refine .line (by decide +kernel) ⟨"  ".toList, [], by decide +kernel, hindent,
    .inl (by decide)⟩ ?_
  refine .last (by decide +kernel) (show AllBlank [] by decide) ⟨[], " --".toList,
    by decide +kernel, by decide, .inr ⟨" ".toList, [], by decide +kernel, hblank, by decide⟩⟩ ?_
  exact .last (by decide +kernel) hblank ⟨"\t".toList, [], by decide +kernel, by decide +kernel,
    .inl (by decide)⟩ .done

end CloudIde.Script
