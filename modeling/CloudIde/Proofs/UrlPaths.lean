import CloudIde.Proofs.Encodings
import CloudIde.Proofs.UrlBases
import Mathlib.Algebra.GroupWithZero.Nat

/-!
# Names in the path of a URL

Names can be written into the path of a URL with slashes between them. The path says these names
exactly when each of them is plain (`below_iff`). What a reader of URLs does to a text that is not
plain (points that are followed, groups that are decoded, characters that are dropped, ends that are
cut off) leaves less of it: sizes are compared, and the size of the names is reached only where
nothing is done.
-/

namespace CloudIde.Url

/-! ## Sizes -/

/-- The number of bytes that characters and one more of ASCII are spelled with. -/
def span (cs : List Char) : Nat := (Bytes.ofText (String.ofList cs)).length + 1

/-- The number of bytes that the segments of a path stand for, with one more for each. -/
def weight (path : List String) : Nat :=
  (path.map fun segment => (Percent.decode (Bytes.ofText segment)).length + 1).sum

theorem span_cons (c : Char) (cs : List Char) : span (c :: cs) = c.utf8Size + span cs := by
  simp only [span, Bytes.ofText_ofList, List.flatMap_cons, List.length_append,
    String.length_utf8EncodeChar]
  omega

theorem span_append (cs rest : List Char) : span (cs ++ rest) + 1 = span cs + span rest := by
  induction cs with
  | nil => exact Nat.add_comm (span rest) 1
  | cons c cs ih =>
    rw [List.cons_append, span_cons, span_cons]
    omega

/-- Leaving characters out makes a text smaller. -/
theorem span_sublist {cs rest : List Char} (h : cs.Sublist rest) :
    span cs < span rest ∨ cs = rest := by
  induction h with
  | slnil => exact Or.inr rfl
  | cons c h ih =>
    have hsize := c.utf8Size_pos
    rw [span_cons]
    rcases ih with ih | rfl
    · exact Or.inl (by omega)
    · exact Or.inl (by omega)
  | cons_cons c h ih =>
    rw [span_cons, span_cons]
    rcases ih with ih | rfl
    · exact Or.inl (by omega)
    · exact Or.inr rfl

/-- Parts with slashes between them take the space of the parts. -/
theorem span_intercalate {parts : List (List Char)} (h : parts ≠ []) :
    (parts.map span).sum = span (['/'].intercalate parts) := by
  match parts with
  | [] => exact absurd rfl h
  | [part] => simp
  | part :: next :: rest =>
    have hrest := span_intercalate (List.cons_ne_nil next rest)
    have hjoin := span_append part ('/' :: ['/'].intercalate (next :: rest))
    have hslash := span_cons '/' (['/'].intercalate (next :: rest))
    rw [List.map_cons, List.sum_cons, hrest, List.intercalate_cons_cons, List.append_assoc,
      List.singleton_append]
    have hsize : '/'.utf8Size = 1 := rfl
    omega

theorem weight_append (path rest : List String) :
    weight (path ++ rest) = weight path + weight rest := by
  simp [weight]

theorem weight_dropLast (path : List String) : weight path.dropLast ≤ weight path := by
  rcases List.eq_nil_or_concat path with rfl | ⟨front, last, rfl⟩
  · exact Nat.le_refl _
  · rw [List.concat_eq_append, List.dropLast_concat, weight_append]
    exact Nat.le_add_right _ _

theorem span_slashed (text : List Char) : span (slashed text) = span text := by
  induction text with
  | nil => rfl
  | cons c text ih =>
    show span ((if c = '\\' then '/' else c) :: slashed text) = _
    rw [span_cons, span_cons, ih]
    by_cases hc : c = '\\'
    · rw [if_pos hc, hc]
      rfl
    · rw [if_neg hc]

/-! ## Segments -/

/-- A text that stands for itself as a segment, once it is one. -/
structure Stands (segment : List Char) : Prop where
  escapes : Percent.decode (Bytes.ofText (String.ofList segment))
    = Bytes.ofText (String.ofList segment)
  point : segment ≠ ['.']
  points : segment ≠ ['.', '.']

theorem keptInPath_ascii {b : UInt8} (h : keptInPath b = true) : b < 0x80 := by
  have hall : ∀ n : Fin 256, keptInPath (UInt8.ofFin n) = true → UInt8.ofFin n < 0x80 := by
    decide +kernel
  exact hall b.toFin h

theorem keptInPath_digit {b : UInt8} (h : hexValue? b ≠ none) : keptInPath b = true := by
  have hall : ∀ n : Fin 256, hexValue? (UInt8.ofFin n) ≠ none →
      keptInPath (UInt8.ofFin n) = true := by
    decide +kernel
  exact hall b.toFin h

/-- A segment as it is written stands for what the text stands for. -/
theorem decode_encoded (segment : List Char) :
    Percent.decode (Bytes.ofText (encoded keptInPath segment))
      = Percent.decode (Bytes.ofText (String.ofList segment)) := by
  rw [encoded, Utf8.ofText_lossy (Percent.encode_ascii fun _ => keptInPath_ascii),
    Percent.decode_encode_sign (by decide) fun _ => keptInPath_digit]

/-- A text in which nothing is read has no points that are percent-encoded. -/
theorem withPoints_eq {segment : List Char}
    (h : Percent.decode (Bytes.ofText (String.ofList segment))
      = Bytes.ofText (String.ofList segment)) : withPoints segment = segment := by
  have hrest {c : Char} {rest : List Char}
      (h : Percent.decode (Bytes.ofText (String.ofList (c :: rest)))
        = Bytes.ofText (String.ofList (c :: rest))) :
      Percent.decode (Bytes.ofText (String.ofList rest)) = Bytes.ofText (String.ofList rest) := by
    rw [Bytes.ofText_ofList, List.flatMap_cons] at h
    rw [Bytes.ofText_ofList]
    exact Percent.decode_rest h
  induction segment using withPoints.induct with
  | case1 e rest hpoint ih =>
    -- the group would be read as a point
    rw [Bytes.ofText_ofList] at h
    have hpoint : e = 'e' ∨ e = 'E' := by simpa using hpoint
    rcases hpoint with rfl | rfl
    · have hfirst := (List.cons.inj ((Percent.decode_sign _).symm.trans h)).1
      exact absurd hfirst (by decide)
    · have hfirst := (List.cons.inj ((Percent.decode_sign _).symm.trans h)).1
      exact absurd hfirst (by decide)
  | case2 e rest hother ih =>
    rw [withPoints, if_neg hother, ih (hrest h)]
  | case3 c rest hother ih =>
    rw [withPoints, ih (hrest h)]
    exact hother
  | case4 => rfl

theorem addSegment_stands {path : List String} {segment : List Char} {slash : Bool}
    (h : Stands segment) :
    addSegment path segment slash = path ++ [encoded keptInPath segment] := by
  unfold addSegment
  rw [withPoints_eq h.escapes, if_neg h.points, if_neg h.point]

theorem weight_encoded (segment : List Char) : weight [encoded keptInPath segment]
    = (Percent.decode (Bytes.ofText (String.ofList segment))).length + 1 := by
  simp [weight, decode_encoded]

/-- A segment that does not stand for itself leaves less. -/
theorem weight_addSegment (path : List String) (segment : List Char) (slash : Bool) :
    weight (addSegment path segment slash) ≤ weight path + span segment ∧
      (weight (addSegment path segment slash) = weight path + span segment → Stands segment) := by
  have hclosed : weight (if slash then [] else [""]) ≤ 1 := by
    cases slash
    · exact Nat.le_refl 1
    · exact Nat.zero_le 1
  have hlong {points : List Char} (h : withPoints segment = '.' :: points) : 2 ≤ span segment := by
    match segment, h with
    | c :: rest, _ =>
      have hc := c.utf8Size_pos
      rw [span_cons]
      unfold span
      omega
  unfold addSegment
  by_cases hpoints : withPoints segment = ['.', '.']
  · have hpath := weight_dropLast path
    have hsegment := hlong hpoints
    rw [if_pos hpoints, weight_append]
    exact ⟨by omega, fun hsame => absurd hsame (by omega)⟩
  · by_cases hpoint : withPoints segment = ['.']
    · have hsegment := hlong hpoint
      rw [if_neg hpoints, if_pos hpoint, weight_append]
      exact ⟨by omega, fun hsame => absurd hsame (by omega)⟩
    · have hdecoded := Percent.length_decode (Bytes.ofText (String.ofList segment))
      rw [if_neg hpoints, if_neg hpoint, weight_append, weight_encoded]
      refine ⟨Nat.add_le_add_left (Nat.succ_le_succ hdecoded.1) _, fun hsame => ?_⟩
      have hescapes := hdecoded.2 (by unfold span at hsame; omega)
      rw [withPoints_eq hescapes] at hpoint hpoints
      exact ⟨hescapes, hpoint, hpoints⟩

theorem addSegments_stands (path : List String) {segments : List (List Char)}
    (h : ∀ segment ∈ segments, Stands segment) :
    addSegments path segments = path ++ segments.map (encoded keptInPath) := by
  match segments with
  | [] => simp [addSegments]
  | [segment] => exact addSegment_stands (h segment List.mem_cons_self)
  | segment :: next :: rest =>
    have hrest := addSegments_stands (path ++ [encoded keptInPath segment])
      fun segment hsegment => h segment (List.mem_cons_of_mem _ hsegment)
    rw [addSegments, addSegment_stands (h segment List.mem_cons_self), hrest, List.append_assoc]
    rfl

/-- **A path whose segments do not all stand for themselves is made less.** -/
theorem weight_addSegments (path : List String) (segments : List (List Char)) :
    weight (addSegments path segments) ≤ weight path + (segments.map span).sum ∧
      (weight (addSegments path segments) = weight path + (segments.map span).sum →
        ∀ segment ∈ segments, Stands segment) := by
  match segments with
  | [] => exact ⟨Nat.le_refl _, fun _ _ hmem => absurd hmem List.not_mem_nil⟩
  | [segment] =>
    have hlast := weight_addSegment path segment false
    refine ⟨hlast.1, fun hsame other hmem => ?_⟩
    exact List.mem_singleton.1 hmem ▸ hlast.2 hsame
  | segment :: next :: rest =>
    have hfirst := weight_addSegment path segment true
    have hrest := weight_addSegments (addSegment path segment true) (next :: rest)
    rw [addSegments, List.map_cons, List.sum_cons]
    refine ⟨by omega, fun hsame other hmem => ?_⟩
    rcases List.mem_cons.1 hmem with rfl | hmem
    · exact hfirst.2 (by omega)
    · exact hrest.2 (by omega) other hmem

/-! ## Plain texts -/

/-- A text that can be written into a path as it is and is meant as it stands there. -/
structure IsPlain (name : String) : Prop where
  chars : ∀ c ∈ name.toList, c ∉ ['/', '\\', '?', '#', '\t', '\n', '\r']
  /-- No percent sign begins a group that stands for a byte. -/
  escapes : Percent.decode (Bytes.ofText name) = Bytes.ofText name
  point : name ≠ "."
  points : name ≠ ".."

instance (name : String) : Decidable (IsPlain name) :=
  decidable_of_iff
    (name.toList.all (fun c => c ∉ ['/', '\\', '?', '#', '\t', '\n', '\r']) = true ∧
      Percent.decode (Bytes.ofText name) = Bytes.ofText name ∧ name ≠ "." ∧ name ≠ "..")
    ⟨fun ⟨chars, escapes, point, points⟩ =>
        ⟨fun c hc => of_decide_eq_true (List.all_eq_true.1 chars c hc), escapes, point, points⟩,
      fun ⟨chars, escapes, point, points⟩ =>
        ⟨List.all_eq_true.2 fun c hc => decide_eq_true (chars c hc), escapes, point, points⟩⟩

theorem IsPlain.stands {name : String} (h : IsPlain name) : Stands name.toList where
  escapes := by rw [String.ofList_toList]; exact h.escapes
  point he := h.point (String.toList_inj.1 he)
  points he := h.points (String.toList_inj.1 he)

theorem getLast?_trimEndChars {p : Char → Bool} (cs : List Char) :
    ∀ c ∈ (trimEndChars p cs).getLast?, p c = false := by
  intro c hc
  rw [trimEndChars, List.getLast?_reverse] at hc
  have hstops := List.head?_dropWhile_not p cs.reverse
  rw [Option.mem_def.1 hc] at hstops
  simpa using hstops

theorem trimEndChars_sublist (p : Char → Bool) (cs : List Char) :
    (trimEndChars p cs).Sublist cs := by
  have h := (List.dropWhile_sublist p (l := cs.reverse)).reverse
  rwa [List.reverse_reverse] at h

theorem pathPart_sublist (tail : List Char) : (pathPart tail).Sublist tail :=
  ((cut_fst '?' _).2.trans (cut_fst '#' _).2).trans
    (List.filter_sublist.trans (trimEndChars_sublist isOuter tail))

/-- A text behind a base is part of the path as it stands when nothing of it is dropped. -/
theorem pathPart_eq_iff {tail : List Char} : pathPart tail = tail ↔
    (∀ c ∈ tail, c ≠ '?' ∧ c ≠ '#' ∧ isInner c = false) ∧
      ∀ c ∈ tail.getLast?, isOuter c = false := by
  obtain ⟨hquestion, hleft⟩ := cut_fst '?' (cut '#' (behind tail)).1
  obtain ⟨hnumber, hwhole⟩ := cut_fst '#' (behind tail)
  constructor
  · intro h
    have hall : (pathPart tail).Sublist (behind tail) := hleft.trans hwhole
    refine ⟨fun c hc => ?_, ?_⟩
    · rw [← h] at hc
      refine ⟨?_, ?_, by simpa using (List.mem_filter.1 (hall.subset hc)).2⟩
      · rintro rfl
        exact hquestion hc
      · rintro rfl
        exact hnumber (hleft.subset hc)
    · have hlength := (hall.trans List.filter_sublist).length_le
      rw [h] at hlength
      have hsame : trimEndChars isOuter tail = tail :=
        (trimEndChars_sublist isOuter tail).eq_of_length_le hlength
      exact hsame ▸ getLast?_trimEndChars (p := isOuter) tail
  · rintro ⟨hchars, hends⟩
    have hbehind : behind tail = tail := by
      rw [behind, trimEndChars_eq hends]
      exact List.filter_eq_self.2 fun c hc => by simp [(hchars c hc).2.2]
    rw [pathPart, hbehind, cut_last fun hmem => (hchars _ hmem).2.1 rfl,
      cut_last fun hmem => (hchars _ hmem).1 rfl]

section

variable {home : List String} {tail : List Char} {names : List String}

theorem weight_names (hne : names ≠ []) {segments : List String}
    (h : segments.map (fun segment => Percent.decode (Bytes.ofText segment))
      = names.map Bytes.ofText) :
    weight segments = span (['/'].intercalate (names.map String.toList)) := by
  have hspans : (names.map String.toList).map span
      = (names.map Bytes.ofText).map fun bytes => bytes.length + 1 := by
    simp [span]
  rw [← span_intercalate (by simpa using hne), hspans, ← h, List.map_map]
  rfl

/-- A path that says some names was written with these names, and each stands for itself. -/
theorem stands_of_below (hne : names ≠ [])
    (htail : ['/'].intercalate (names.map String.toList) = tail) {segments : List String}
    (hpath : addSegments home (pieces '/' (slashed (pathPart tail))) = home ++ segments)
    (hsegments : segments.map (fun segment => Percent.decode (Bytes.ofText segment))
      = names.map Bytes.ofText) :
    pathPart tail = tail ∧ slashed tail = tail ∧ pieces '/' tail = names.map String.toList ∧
      ∀ name ∈ names, Stands name.toList := by
  have hweight := weight_addSegments home (pieces '/' (slashed (pathPart tail)))
  rw [span_intercalate (pieces_ne_nil _), intercalate_pieces, span_slashed, hpath, weight_append,
    weight_names hne hsegments, htail] at hweight
  have hpart : pathPart tail = tail := by
    rcases span_sublist (pathPart_sublist tail) with hless | hsame
    · exact absurd hweight.1 (by omega)
    · exact hsame
  have hstands := hweight.2 (by rw [hpart])
  rw [hpart] at hpath hstands
  rw [addSegments_stands home hstands] at hpath
  -- so the pieces are the names, and none of their slashes was a backslash
  have hpieces : pieces '/' (slashed tail) = names.map String.toList := by
    have hbytes : (pieces '/' (slashed tail)).map (fun piece => Bytes.ofText (String.ofList piece))
        = names.map Bytes.ofText := by
      rw [← hsegments, ← List.append_cancel_left hpath, List.map_map]
      refine List.map_congr_left fun piece hpiece => ?_
      exact (hstands piece hpiece).escapes.symm.trans (decode_encoded piece).symm
    have hnames : (pieces '/' (slashed tail)).map String.ofList = names := by
      refine List.map_inj_right (fun _ _ h => Bytes.ofText_inj.1 h) |>.1 ?_
      rw [List.map_map]
      exact hbytes
    rw [← hnames, List.map_map]
    simp
  have hslashed : slashed tail = tail := by
    rw [← intercalate_pieces '/' (slashed tail), hpieces, htail]
  rw [hslashed] at hpieces hstands
  refine ⟨hpart, hslashed, hpieces, fun name hname => hstands _ ?_⟩
  rw [hpieces]
  exact List.mem_map_of_mem hname

theorem backslash_not_mem (h : slashed tail = tail) : '\\' ∉ tail := by
  intro hmem
  rw [← h] at hmem
  obtain ⟨c, -, hc⟩ := List.mem_map.1 hmem
  by_cases hback : c = '\\'
  · rw [if_pos hback] at hc
    exact absurd hc (by decide)
  · rw [if_neg hback] at hc
    exact hback hc

/-- A piece that stands for itself, of a tail in which nothing is changed, is a plain name. -/
theorem isPlain_of_stands {name : String} (hpart : pathPart tail = tail)
    (hslashed : slashed tail = tail) (hpiece : name.toList ∈ pieces '/' tail)
    (hstands : Stands name.toList) : IsPlain name := by
  obtain ⟨hslash, before, after, hparts, -⟩ := isPiece_of_mem hpiece
  refine ⟨fun c hc hmem => ?_, ?_, ?_, ?_⟩
  · have htail : c ∈ tail := by
      rw [hparts]
      exact List.mem_append_left _ (List.mem_append_right _ hc)
    obtain ⟨hquestion, hnumber, hinner⟩ := (pathPart_eq_iff.1 hpart).1 c htail
    simp only [List.mem_cons, List.not_mem_nil, or_false] at hmem
    rcases hmem with rfl | rfl | rfl | rfl | rfl | rfl | rfl
    · exact hslash hc
    · exact backslash_not_mem hslashed htail
    · exact hquestion rfl
    · exact hnumber rfl
    · exact absurd hinner (by decide)
    · exact absurd hinner (by decide)
    · exact absurd hinner (by decide)
  · have hescapes := hstands.escapes
    rwa [String.ofList_toList] at hescapes
  · rintro rfl
    exact hstands.point rfl
  · rintro rfl
    exact hstands.points rfl

/-- Plain names with slashes between them are all of the path. -/
theorem pathPart_plain (htail : ['/'].intercalate (names.map String.toList) = tail)
    (hplain : ∀ name ∈ names, IsPlain name) (hends : ∀ c ∈ tail.getLast?, isOuter c = false) :
    pathPart tail = tail ∧ queryPart tail = none ∧ slashed tail = tail := by
  have hchars : ∀ c ∈ tail, c ∉ ['\\', '?', '#', '\t', '\n', '\r'] := by
    intro c hc
    rw [← htail] at hc
    rcases mem_intercalate hc with hc | ⟨part, hpart, hc⟩
    · obtain rfl := List.mem_singleton.1 hc
      decide
    · obtain ⟨name, hname, rfl⟩ := List.mem_map.1 hpart
      exact fun hmem => (hplain name hname).chars c hc (List.mem_cons_of_mem _ hmem)
  have hpart : pathPart tail = tail := by
    refine pathPart_eq_iff.2 ⟨fun c hc => ?_, hends⟩
    have hno := hchars c hc
    simp only [List.mem_cons, List.not_mem_nil, or_false, not_or] at hno
    exact ⟨hno.2.1, hno.2.2.1, by simp [isInner, hno.2.2.2]⟩
  refine ⟨hpart, ?_, ?_⟩
  · have hsmall : (cut '#' (behind tail)).1.Sublist tail :=
      (cut_fst '#' _).2.trans (List.filter_sublist.trans (trimEndChars_sublist isOuter tail))
    rw [queryPart, cut_last fun hmem => hchars _ (hsmall.subset hmem) (by decide)]
  · refine (List.map_congr_left fun c hc => if_neg ?_).trans (List.map_id tail)
    rintro rfl
    exact hchars _ hc List.mem_cons_self

/-- **A path says some names exactly when they are plain**, if nothing is lost at the end. -/
theorem below_iff (home : List String) (hne : names ≠ [])
    (htail : ['/'].intercalate (names.map String.toList) = tail) :
    (∃ segments, addSegments home (pieces '/' (slashed (pathPart tail))) = home ++ segments ∧
      segments.map (fun segment => Percent.decode (Bytes.ofText segment))
        = names.map Bytes.ofText) ↔
      (∀ name ∈ names, IsPlain name) ∧ ∀ c ∈ tail.getLast?, isOuter c = false := by
  constructor
  · rintro ⟨segments, hpath, hsegments⟩
    obtain ⟨hpart, hslashed, hpieces, hstands⟩ := stands_of_below hne htail hpath hsegments
    refine ⟨fun name hname => ?_, (pathPart_eq_iff.1 hpart).2⟩
    have hpiece : name.toList ∈ pieces '/' tail := hpieces ▸ List.mem_map_of_mem hname
    exact isPlain_of_stands hpart hslashed hpiece (hstands name hname)
  · rintro ⟨hplain, hends⟩
    obtain ⟨hpart, -, hslashed⟩ := pathPart_plain htail hplain hends
    have hpieces : pieces '/' tail = names.map String.toList := by
      rw [← htail]
      refine pieces_intercalate (by simpa using hne) fun part hpart hslash => ?_
      obtain ⟨name, hname, rfl⟩ := List.mem_map.1 hpart
      exact (hplain name hname).chars _ hslash List.mem_cons_self
    refine ⟨(names.map String.toList).map (encoded keptInPath), ?_, ?_⟩
    · rw [hpart, hslashed, hpieces]
      refine addSegments_stands home fun segment hsegment => ?_
      obtain ⟨name, hname, rfl⟩ := List.mem_map.1 hsegment
      exact (hplain name hname).stands
    · rw [List.map_map, List.map_map]
      refine List.map_congr_left fun name hname => ?_
      simp only [Function.comp_apply]
      rw [decode_encoded, String.ofList_toList, (hplain name hname).escapes]

end

end CloudIde.Url
