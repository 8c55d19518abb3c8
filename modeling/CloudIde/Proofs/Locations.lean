import CloudIde.Database.Location
import CloudIde.Proofs.Directories
import CloudIde.Proofs.Encodings
import Mathlib.Data.List.TakeWhile

/-!
# The two readings of a location

A location is read for the directory to make and for the file to open. It is plain when its path is
meant as it is written (`Location.IsPlain`). Then the path that is opened is the one that is written
(`Location.IsPlain.access_path`), and the directory to make has all places above it on its way
(`Location.IsPlain.passes`).
-/

namespace CloudIde

/-! ## Paths -/

namespace FilePath

/-- The names that some pieces of a path are. -/
def namesOf (parts : List (List Char)) : List String :=
  (parts.filter fun piece => !isIdle piece).map String.ofList

theorem names_ofChars (text : List Char) :
    (ofChars text).names = namesOf (pieces '/' text) := rfl

theorem namesOf_append (parts rest : List (List Char)) :
    namesOf (parts ++ rest) = namesOf parts ++ namesOf rest := by
  simp [namesOf]

theorem namesOf_dropWhile (parts : List (List Char)) :
    namesOf (parts.dropWhile isIdle) = namesOf parts := by
  induction parts with
  | nil => rfl
  | cons piece parts ih =>
    by_cases hidle : isIdle piece = true
    · rw [List.dropWhile_cons_of_pos hidle, ih]
      simp [namesOf, hidle]
    · rw [List.dropWhile_cons_of_neg hidle]

theorem namesOf_reverse (parts : List (List Char)) :
    namesOf parts.reverse = (namesOf parts).reverse := by
  simp [namesOf, List.filter_reverse]

/-- The names of pieces with slashes between them. -/
theorem namesOf_intercalate {parts : List (List Char)} (h : ∀ part ∈ parts, '/' ∉ part) :
    namesOf (pieces '/' (['/'].intercalate parts)) = namesOf parts := by
  cases parts with
  | nil => rfl
  | cons part parts => rw [pieces_intercalate (List.cons_ne_nil part parts) h]

/-- The last name is the first one from behind. -/
theorem namesOf_dropLast (parts : List (List Char)) :
    (namesOf parts).dropLast = (namesOf ((parts.reverse.dropWhile isIdle).drop 1)).reverse := by
  have hall : namesOf parts = (namesOf (parts.reverse.dropWhile isIdle)).reverse := by
    rw [namesOf_dropWhile, namesOf_reverse, List.reverse_reverse]
  rw [hall]
  cases hbehind : parts.reverse.dropWhile isIdle with
  | nil => rfl
  | cons last above =>
    have hlast : isIdle last = false := by
      have hstops := List.head?_dropWhile_not isIdle parts.reverse
      rw [hbehind] at hstops
      simpa using hstops
    simp [namesOf, hlast]

/-- The names of the directory of a path are those of the path but for the last. -/
theorem names_directoryChars (text : List Char) :
    (ofChars (directoryChars text)).names = (ofChars text).names.dropLast := by
  have hslash : ∀ part ∈ ((((pieces '/' text).reverse.dropWhile isIdle).drop 1).dropWhile
      isIdle).reverse, '/' ∉ part := by
    intro part hpart
    have hrest := (List.dropWhile_sublist _).subset (List.mem_reverse.1 hpart)
    have hpiece := (List.dropWhile_sublist _).subset (List.mem_of_mem_drop hrest)
    exact (isPiece_of_mem (List.mem_reverse.1 hpiece)).1
  rw [names_ofChars, names_ofChars, namesOf_dropLast]
  unfold directoryChars
  simp only
  rw [namesOf_intercalate hslash, namesOf_reverse, namesOf_dropWhile]

/-- What follows a path belongs to its last piece, up to the next slash. -/
theorem exists_lastPiece (text : List Char) : ∃ front last, pieces '/' text = front ++ [last] ∧
    ∀ rest, pieces '/' (text ++ rest) = front ++ pieces '/' (last ++ rest) := by
  by_cases htext : '/' ∈ text
  · obtain ⟨first, behind, rfl, hfirst⟩ := List.eq_append_cons_of_mem htext
    obtain ⟨front, last, hpieces, hrests⟩ := exists_lastPiece behind
    refine ⟨first :: front, last, ?_, fun rest => ?_⟩
    · rw [pieces_append hfirst, hpieces, List.cons_append]
    · rw [List.append_assoc, List.cons_append, pieces_append hfirst, hrests, List.cons_append]
  · exact ⟨[], text, pieces_last htext, fun rest => rfl⟩
termination_by text.length

theorem namesOf_pieces_ne_nil {text : List Char} {c : Char} (h : c ∈ text) (hslash : c ≠ '/')
    (hpoint : c ≠ '.') : namesOf (pieces '/' text) ≠ [] := by
  rw [← intercalate_pieces '/' text] at h
  rcases mem_intercalate h with hmem | ⟨piece, hpiece, hmem⟩
  · exact absurd (List.mem_singleton.1 hmem) hslash
  · have hidle : isIdle piece = false := by
      unfold isIdle
      refine Bool.or_eq_false_iff.2 ⟨decide_eq_false ?_, decide_eq_false ?_⟩
      · rintro rfl
        exact absurd hmem List.not_mem_nil
      · rintro rfl
        exact hpoint (List.mem_singleton.1 hmem)
    simpa [namesOf] using ⟨piece, hpiece, hidle⟩

/-- The names above the last one of a path stay above the last one when a question mark and more
follow the path. -/
theorem dropLast_names_before (text rest : List Char) :
    (ofChars text).names.dropLast <+: (ofChars (text ++ '?' :: rest)).names.dropLast := by
  rw [names_ofChars, names_ofChars]
  obtain ⟨front, last, hpieces, hrests⟩ := exists_lastPiece text
  have hnames : namesOf (pieces '/' (last ++ '?' :: rest)) ≠ [] :=
    namesOf_pieces_ne_nil (List.mem_append_right last List.mem_cons_self) (by decide) (by decide)
  have hfront : (namesOf (front ++ [last])).dropLast <+: namesOf front := by
    rw [namesOf_append]
    by_cases hidle : isIdle last = true
    · have hnone : namesOf [last] = [] := by simp [namesOf, hidle]
      rw [hnone, List.append_nil]
      exact List.dropLast_prefix _
    · have hone : namesOf [last] = [String.ofList last] := by simp [namesOf, hidle]
      exact ⟨[], by rw [hone, List.dropLast_concat, List.append_nil]⟩
  rw [hpieces, hrests, namesOf_append front (pieces '/' _), List.dropLast_append_of_ne_nil hnames]
  exact hfront.trans (List.prefix_append _ _)

end FilePath

/-! ## Plain locations -/

namespace Location

/-- The path of a location without the parameters. -/
def path (location : String) : List Char := (cut '?' (written location)).1

theorem written_eq (location : String) : written location = path location ∨
    ∃ parameters, written location = path location ++ '?' :: parameters :=
  cut_split '?' (written location)

theorem path_begins (location : String) : path location <+: written location := by
  rcases written_eq location with hwritten | ⟨parameters, hwritten⟩
  · exact ⟨[], by rw [hwritten, List.append_nil]⟩
  · exact ⟨'?' :: parameters, hwritten.symm⟩

/-- A location whose path is meant as it is written. -/
structure IsPlain (location : String) : Prop where
  file : inMemory location = false
  /-- The scheme does not stand in front of the path once more. -/
  scheme : ¬ Location.scheme <+: written location
  /-- The path is no URI. -/
  uri : FileUri.scheme.isPrefixOf (Bytes.ofText (String.ofList (path location))) = false
  /-- No percent sign begins a group that stands for a byte. -/
  escapes : Percent.decode (Bytes.ofText (String.ofList (path location)))
    = Bytes.ofText (String.ofList (path location))
  nul : 0 ∉ Bytes.ofText (String.ofList (path location))

theorem directory?_of_file {location : String} (h : inMemory location = false) :
    ∃ above, directory? location = some above ∧
      above.fromRoot = decide ((written location).head? = some '/') ∧
      above.names = (FilePath.ofChars (written location)).names.dropLast := by
  refine ⟨_, by rw [directory?, h, if_neg Bool.false_ne_true], rfl, ?_⟩
  dsimp only
  exact FilePath.names_directoryChars (written location)

/-- A place is the directory for a location or on the way to it. -/
def Passes (here : Place) (location : String) (place : Place) : Prop :=
  ∃ path ∈ directory? location, FilePath.Passes (path.start here) path.names place

end Location

section

variable {location : String} {access : FileAccess} {target target' : Target}
  {front text : List Char}

theorem stripAll_eq_self (h : ¬ front <+: text) : stripAll front text = text := by
  rw [stripAll, dif_neg fun hfront => h (List.isPrefixOf_iff_prefix.1 hfront.2)]

theorem stripAll_append (h : front ≠ []) (text : List Char) :
    stripAll front (front ++ text) = stripAll front text := by
  rw [stripAll, dif_pos ⟨h, List.isPrefixOf_iff_prefix.2 (List.prefix_append front text)⟩]
  exact congrArg (stripAll front) List.drop_left

theorem stripFront?_cases (front text : List Char) :
    (∃ rest, text = front ++ rest ∧ stripFront? front text = some rest) ∨
      (¬ front <+: text ∧ stripFront? front text = none) := by
  unfold stripFront?
  by_cases hfront : front.isPrefixOf text = true
  · obtain ⟨rest, rfl⟩ := List.isPrefixOf_iff_prefix.1 hfront
    exact Or.inl ⟨rest, rfl, by rw [if_pos hfront, List.drop_left]⟩
  · exact Or.inr ⟨fun h => hfront (List.isPrefixOf_iff_prefix.2 h), if_neg hfront⟩

/-- The scheme is taken off as it is for the written path, when it does not stand there again. -/
theorem Location.stripAll_withScheme (h : ¬ scheme <+: written location) :
    stripAll scheme (stripAll (scheme ++ ['/', '/']) (withScheme location)) = written location := by
  obtain ⟨text, hscheme, hwritten⟩ : ∃ text, withScheme location = scheme ++ text ∧
      written location = (stripFront? ['/', '/'] text).getD text := by
    unfold withScheme written
    rcases stripFront?_cases scheme location.toList with ⟨text, htext, hstrip⟩ | ⟨hnot, hstrip⟩
    · refine ⟨text, ?_, by rw [hstrip]; rfl⟩
      rw [htext, if_pos (List.isPrefixOf_iff_prefix.2 (List.prefix_append _ _))]
    · refine ⟨location.toList, ?_, by rw [hstrip]; rfl⟩
      rw [if_neg fun hfront => hnot (List.isPrefixOf_iff_prefix.1 hfront)]
  rw [hwritten] at h ⊢
  rw [hscheme]
  rcases stripFront?_cases ['/', '/'] text with ⟨rest, rfl, hstrip⟩ | ⟨hnot, hstrip⟩
  · rw [hstrip, Option.getD_some] at h ⊢
    have hagain : ¬ scheme ++ ['/', '/'] <+: rest := fun hfront =>
      h ((List.prefix_append _ _).trans hfront)
    rw [← List.append_assoc, stripAll_append (by decide), stripAll_eq_self hagain,
      stripAll_eq_self h]
  · rw [hstrip, Option.getD_none] at h ⊢
    have hslashes : ¬ scheme ++ ['/', '/'] <+: scheme ++ text := fun hfront =>
      hnot ((List.prefix_append_right_inj scheme).1 hfront)
    rw [stripAll_eq_self hslashes, stripAll_append (by decide), stripAll_eq_self h]

theorem FileUri.untilNul_eq {bytes : Bytes} (h : 0 ∉ bytes) : untilNul bytes = bytes := by
  unfold untilNul
  refine List.takeWhile_eq_self_iff.2 fun b hb => decide_eq_true ?_
  rintro rfl
  exact h hb

/-- A parameter leaves the path as it is. -/
theorem Target.withParameter_path {parameter : String × String}
    (h : target.withParameter parameter = .ok target') : target'.path = target.path := by
  unfold withParameter at h
  split at h
  case h_1 value =>
    split at h <;> cases h <;> rfl
  case h_2 value =>
    split at h
    · cases h
      rfl
    · cases h
  case h_3 value =>
    split at h
    · cases h
      rfl
    · split at h
      · cases h
        rfl
      · cases h
  case h_4 value =>
    cases h
    rfl
  case h_5 => cases h

theorem Target.foldlM_path {parameters : List (String × String)}
    (h : parameters.foldlM withParameter target = .ok target') : target'.path = target.path := by
  induction parameters generalizing target with
  | nil => rw [← Except.ok.inj h]
  | cons parameter parameters ih =>
    rw [List.foldlM_cons] at h
    obtain ⟨next, hnext, hrest⟩ := bind_eq_ok.1 h
    exact (ih hrest).trans (withParameter_path hnext)

/-- A plain location means the path that is written. -/
theorem Location.IsPlain.target_path (h : IsPlain location)
    (htarget : Target.ofLocation location = .ok target) :
    target.path = String.ofList (path location) := by
  unfold Target.ofLocation at htarget
  rw [stripAll_withScheme h.scheme] at htarget
  obtain ⟨start, hstart, hparameters⟩ := bind_eq_ok.1 htarget
  have hmemory : path location ≠ memory := by
    intro hpath
    have hprefix : memory <+: written location := hpath ▸ path_begins location
    have hin : inMemory location = true := List.isPrefixOf_iff_prefix.2 hprefix
    rw [h.file] at hin
    cases hin
  have hpath : Target.ofPath (path location)
      = .ok ⟨String.ofList (path location), false, false, false, none⟩ := by
    rw [Target.ofPath, if_neg hmemory, h.escapes, Utf8.decode_ofText]
  have hstart : start = ⟨String.ofList (path location), false, false, false, none⟩ :=
    Except.ok.inj (hstart.symm.trans hpath)
  rw [Target.foldlM_path hparameters, hstart]

/-- What is opened for a plain location has the path that is written. -/
theorem Location.IsPlain.access_path (h : IsPlain location)
    (htarget : Target.ofLocation location = .ok target) (haccess : target.access = .ok access) :
    access.path = Bytes.ofText (String.ofList (path location)) := by
  have hpath := h.target_path htarget
  have huri := h.uri
  have hnul := h.nul
  rw [← hpath] at huri hnul ⊢
  unfold Target.access at haccess
  split at haccess
  · obtain rfl := Except.ok.inj haccess
    exact FileUri.untilNul_eq hnul
  · unfold FileUri.read at haccess
    have hread : (!FileUri.scheme.isPrefixOf target.plain.path) = true := by
      rw [Target.plain, huri]
      rfl
    rw [if_pos hread] at haccess
    obtain rfl := Except.ok.inj haccess
    rfl

/-- The written path of a plain location passes every place above its file. -/
theorem Location.IsPlain.passes (h : IsPlain location) {here place : Place}
    (hplace : FilePath.Passes ((FilePath.ofChars (path location)).start here)
      (FilePath.ofChars (path location)).names.dropLast place) :
    Passes here location place := by
  obtain ⟨front, hfront, rfl⟩ := hplace
  obtain ⟨above, habove, hroot, hnames⟩ := directory?_of_file h.file
  refine ⟨above, habove, front, ?_, ?_⟩
  · rw [hnames]
    rcases written_eq location with hwritten | ⟨parameters, hwritten⟩
    · rwa [hwritten]
    · rw [hwritten]
      exact hfront.trans (FilePath.dropLast_names_before _ parameters)
  · have hhead : (path location).head? = some '/' ↔ (written location).head? = some '/' := by
      rcases written_eq location with hwritten | ⟨parameters, hwritten⟩
      · rw [hwritten]
      · rw [hwritten]
        cases path location <;> simp
    simp [FilePath.start, FilePath.ofChars, hroot, hhead]

end

end CloudIde
