import CloudIde.Http.Url
import CloudIde.Proofs.Trimming

/-!
# URLs that begin alike

A URL is a scheme, slashes, what names the host, and a rest (`Parts`). What is written behind a base
and a slash leaves all but the rest of the base alone (`IsBase.parts`): it is below the base, and
adds segments to the path of the base (`IsBase.below`). Hosts may be read in any way.
-/

namespace CloudIde.Url

variable {hosts : String → Option String}

/-! ## Parts -/

/-- Characters are a scheme, a colon and slashes, what names the host and the port, and the rest. -/
structure Parts (text scheme slashes site rest : List Char) : Prop where
  text : text = scheme ++ ':' :: (slashes ++ (site ++ rest))
  scheme : ':' ∉ scheme
  slashes : ∀ c ∈ slashes, isSlash c = true
  named : site ≠ []
  site : ∀ c ∈ site, endsHost c = false
  rest : ∀ c ∈ rest.head?, endsHost c = true

theorem isSlash_of_endsHost {c : Char} (h : endsHost c = false) : isSlash c = false := by
  simp only [endsHost, Bool.or_eq_false_iff] at h
  exact h.1.1

section

variable {text scheme slashes site rest : List Char}

theorem Parts.dropWhile (h : Parts text scheme slashes site rest) :
    (slashes ++ (site ++ rest)).dropWhile isSlash = site ++ rest := by
  rw [List.dropWhile_append_of_pos h.slashes]
  match site, h.named, h.site with
  | c :: site, _, hsite =>
    exact List.dropWhile_cons_of_neg (by simp [isSlash_of_endsHost (hsite c List.mem_cons_self)])

theorem Parts.takeWhile (h : Parts text scheme slashes site rest) :
    (site ++ rest).takeWhile (fun c => !endsHost c) = site := by
  have hstop : rest.takeWhile (fun c => !endsHost c) = [] := by
    match rest, h.rest with
    | [], _ => rfl
    | c :: rest, hrest => exact List.takeWhile_cons_of_neg (by simp [hrest c rfl])
  rw [List.takeWhile_append_of_pos fun c hc => by simp [h.site c hc], hstop, List.append_nil]

/-- What a text in parts is read as. -/
theorem Parts.ofText? {text : String} (h : Parts (cleaned text.toList) scheme slashes site rest)
    (hosts : String → Option String) : Url.ofText? text hosts = (scheme? scheme).bind fun scheme =>
      (authority? hosts site).map fun authority =>
        ⟨authority, scheme, pathOf (cut '?' (cut '#' rest).1).1,
          (cut '?' (cut '#' rest).1).2.map (encoded keptInQuery)⟩ := by
  unfold Url.ofText?
  simp only [h.text, cut_append h.scheme, Option.getD_some, h.dropWhile, h.takeWhile,
    List.drop_left]

example : (Url.ofText? "HTTP:[::1]:8080/api" some).map (fun url => (url.scheme, url.host))
    = some ("http", "[::1]") := by decide +kernel

/-- What is read as a URL is in parts. -/
theorem exists_parts {text : String} (h : (Url.ofText? text hosts).isSome = true) :
    ∃ scheme slashes site rest, Parts (cleaned text.toList) scheme slashes site rest ∧
      (scheme? scheme).isSome = true ∧ (authority? hosts site).isSome = true := by
  have hread : (scheme? (cut ':' (cleaned text.toList)).1).isSome = true ∧
      (authority? hosts ((((cut ':' (cleaned text.toList)).2.getD []).dropWhile isSlash).takeWhile
        fun c => !endsHost c)).isSome = true := by
    obtain ⟨url, hurl⟩ := Option.isSome_iff_exists.1 h
    unfold Url.ofText? at hurl
    simp only [Option.bind_eq_some_iff, Option.map_eq_some_iff] at hurl
    obtain ⟨scheme, hscheme, authority, hauthority, -⟩ := hurl
    exact ⟨Option.isSome_of_eq_some hscheme, Option.isSome_of_eq_some hauthority⟩
  by_cases hcolon : ':' ∈ cleaned text.toList
  · obtain ⟨scheme, others, htext, hno⟩ := List.eq_append_cons_of_mem hcolon
    rw [htext, cut_append hno, Option.getD_some] at hread
    refine ⟨scheme, others.takeWhile isSlash, _,
      (others.dropWhile isSlash).dropWhile fun c => !endsHost c, ⟨?_, hno, ?_, ?_, ?_, ?_⟩, hread⟩
    · rw [List.takeWhile_append_dropWhile, List.takeWhile_append_dropWhile, htext]
    · exact fun c hc => List.all_eq_true.1 List.all_takeWhile c hc
    · intro hnone
      rw [hnone] at hread
      exact absurd hread.2 (by simp [authority?, cut, splitPort])
    · exact fun c hc => by simpa using List.all_eq_true.1 List.all_takeWhile c hc
    · intro c hc
      have hstops := List.head?_dropWhile_not (fun c => !endsHost c) (others.dropWhile isSlash)
      rw [Option.mem_def.1 hc] at hstops
      simpa using hstops
  · rw [cut_last hcolon] at hread
    exact absurd hread.2 (by simp [authority?, cut, splitPort])

end

/-! ## Bases -/

theorem dropWhile_append_head {p : Char → Bool} {front rest : List Char}
    (h : ∀ c ∈ rest.head?, p c = false) :
    (front ++ rest).dropWhile p = front.dropWhile p ++ rest := by
  have hrest : rest.dropWhile p = rest := by
    match rest, h with
    | [], _ => rfl
    | c :: rest, h => exact List.dropWhile_cons_of_neg (by simp [h c rfl])
  rw [List.dropWhile_append, hrest]
  split
  · next hempty => rw [List.isEmpty_iff.1 hempty, List.nil_append]
  · rfl

theorem trimEndChars_append {p : Char → Bool} {c : Char} (h : p c = false)
    (front rest : List Char) :
    trimEndChars p (front ++ c :: rest) = front ++ c :: trimEndChars p rest := by
  have hstop : ∀ d ∈ (c :: front.reverse).head?, p d = false := by
    rintro d ⟨⟩
    exact h
  unfold trimEndChars
  rw [List.reverse_append, List.reverse_cons, List.append_assoc, List.singleton_append,
    dropWhile_append_head hstop]
  simp

theorem trimEndChars_eq {p : Char → Bool} {cs : List Char} (h : ∀ c ∈ cs.getLast?, p c = false) :
    trimEndChars p cs = cs := by
  rcases List.eq_nil_or_concat cs with rfl | ⟨front, last, rfl⟩
  · rfl
  · rw [List.concat_eq_append] at h ⊢
    exact trimEndChars_append (h last (by simp)) front []

/-- What is left of a text that stands behind others. -/
def behind (tail : List Char) : List Char :=
  (trimEndChars isOuter tail).filter fun c => !isInner c

/-- What is left of a text that stands before others. -/
def before (root : List Char) : List Char :=
  (root.dropWhile isOuter).filter fun c => !isInner c

theorem cleaned_append (root tail : List Char) :
    cleaned (root ++ '/' :: tail) = before root ++ '/' :: behind tail := by
  have hslash : ∀ c ∈ ('/' :: tail).head?, isOuter c = false := by
    rintro c ⟨⟩
    rfl
  unfold cleaned before behind
  rw [dropWhile_append_head hslash, trimEndChars_append rfl, List.filter_append,
    List.filter_cons_of_pos rfl]

theorem cleaned_slashes {root slashes : List Char} (hslashes : ∀ c ∈ slashes, c = '/')
    (h : ∀ c ∈ (root ++ slashes).getLast?, isOuter c = false) :
    cleaned (root ++ slashes) = before root ++ slashes := by
  have hfront : (root ++ slashes).dropWhile isOuter = root.dropWhile isOuter ++ slashes :=
    dropWhile_append_head fun c hc => hslashes c (List.mem_of_mem_head? hc) ▸ rfl
  have hback : trimEndChars isOuter (root.dropWhile isOuter ++ slashes)
      = root.dropWhile isOuter ++ slashes := by
    refine trimEndChars_eq fun c hc => h c ?_
    rw [← hfront] at hc
    rw [← List.takeWhile_append_dropWhile (p := isOuter) (l := root ++ slashes),
      List.getLast?_append, Option.mem_def.1 hc]
    rfl
  have hkept : slashes.filter (fun c => !isInner c) = slashes :=
    List.filter_eq_self.2 fun c hc => hslashes c hc ▸ rfl
  unfold cleaned before
  rw [hfront, hback, List.filter_append, hkept]

/-- A text that more can be written behind: a URL without white space at its end, with any host that
a reading of hosts reads. -/
structure IsBase (base : String) (hosts : String → Option String := plainHost?) : Prop where
  url : (Url.ofText? base hosts).isSome = true
  ends : ∀ c ∈ base.toList.getLast?, isOuter c = false

/-- The slashes at the end of a base are no part of the host. -/
theorem behind_host {root slashes front site others : List Char}
    (hslashes : ∀ c ∈ slashes, c = '/') (htext : root ++ slashes = front ++ site ++ others)
    (h : ∀ c ∈ site, endsHost c = false) (hne : site ≠ []) :
    ∃ rest, root = front ++ site ++ rest ∧ others = rest ++ slashes := by
  rcases List.append_eq_append_iff.1 htext with ⟨more, hmore, hslash⟩ | hrest
  · rcases List.eq_nil_or_concat more with rfl | ⟨more, c, rfl⟩
    · exact ⟨[], by simpa using hmore.symm, hslash.symm⟩
    · obtain rfl : c = '/' := hslashes c (by simp [hslash])
      obtain ⟨host, last, rfl⟩ := (List.eq_nil_or_concat site).resolve_left hne
      have hlast := congrArg List.getLast? hmore
      have hends := h last (by simp)
      obtain rfl : last = '/' := by simpa [← List.append_assoc] using hlast
      exact absurd hends (by decide)
  · exact hrest

/-- **A base tells the scheme and the host.** What is written behind it and a slash only adds to the
rest. -/
theorem IsBase.parts {base : String} (h : IsBase base hosts) {root ends : List Char}
    (hbase : base.toList = root ++ ends) (hends : ∀ c ∈ ends, c = '/') :
    ∃ scheme slashes site rest, (scheme? scheme).isSome = true ∧
      (authority? hosts site).isSome = true ∧ (∀ c ∈ rest, c ∈ root) ∧
      Parts (cleaned base.toList) scheme slashes site (rest ++ ends) ∧
      ∀ tail, Parts (cleaned (root ++ '/' :: tail)) scheme slashes site
        (rest ++ '/' :: behind tail) := by
  obtain ⟨scheme, slashes, site, others, hparts, hscheme, hhost⟩ := exists_parts h.url
  have hlast := h.ends
  rw [hbase] at hlast
  have htext : before root ++ ends = scheme ++ ':' :: slashes ++ site ++ others := by
    rw [← cleaned_slashes hends hlast, ← hbase, hparts.text]
    simp
  obtain ⟨rest, hroot, rfl⟩ := behind_host hends htext hparts.site hparts.named
  refine ⟨scheme, slashes, site, rest, hscheme, hhost, fun c hc => ?_, hparts, fun tail => ?_⟩
  · have hmem : c ∈ before root := by
      rw [hroot]
      exact List.mem_append_right _ hc
    exact List.dropWhile_sublist _ |>.subset (List.mem_filter.1 hmem).1
  · refine ⟨?_, hparts.scheme, hparts.slashes, hparts.named, hparts.site, fun c hc => ?_⟩
    · rw [cleaned_append, hroot]
      simp
    · match rest, hparts, hc with
      | [], _, hc =>
        obtain rfl : '/' = c := by simpa using hc
        rfl
      | d :: rest, hparts, hc =>
        obtain rfl : d = c := by simpa using hc
        exact hparts.rest d rfl

/-! ## Below a base -/

/-- Backslashes in a path are slashes. -/
def slashed (text : List Char) : List Char := text.map fun c => if c = '\\' then '/' else c

/-- What of a text behind a base is part of the path. -/
def pathPart (tail : List Char) : List Char := (cut '?' (cut '#' (behind tail)).1).1

/-- What of a text behind a base is the query. -/
def queryPart (tail : List Char) : Option (List Char) := (cut '?' (cut '#' (behind tail)).1).2

/-- The segments of a path that ends with a slash, without what is behind the slash. -/
def directory (path : List Char) : List String :=
  if path = [] then []
  else (pieces '/' (slashed path.tail)).foldl (fun path segment => addSegment path segment true) []

theorem addSegments_append {path : List String} {front back : List (List Char)} (h : back ≠ []) :
    addSegments path (front ++ back)
      = addSegments (front.foldl (fun path segment => addSegment path segment true) path) back := by
  induction front generalizing path with
  | nil => rfl
  | cons segment front ih =>
    rw [List.foldl_cons, ← ih]
    match hrest : front ++ back with
    | [] => exact absurd (List.append_eq_nil_iff.1 hrest).2 h
    | next :: rest =>
      rw [List.cons_append, hrest, addSegments]

theorem slashed_append (front rest : List Char) :
    slashed (front ++ rest) = slashed front ++ slashed rest := List.map_append

theorem pathOf_slash {text rest : List Char} (h : slashed text = '/' :: rest) :
    pathOf text = addSegments [] (pieces '/' rest) := by
  have hmap : text.map (fun c => if c = '\\' then '/' else c) = '/' :: rest := h
  unfold pathOf
  simp only [hmap]

/-- The path of a base with a slash and a text behind it. -/
theorem pathOf_append {path : List Char} (h : ∀ c ∈ path.head?, c = '/' ∨ c = '\\')
    (tail : List Char) :
    pathOf (path ++ '/' :: tail) = addSegments (directory path) (pieces '/' (slashed tail)) := by
  match path, h with
  | [], _ => exact pathOf_slash rfl
  | c :: path, h =>
    have hc : (if c = '\\' then '/' else c) = '/' := by
      rcases h c rfl with rfl | rfl
      · rfl
      · rfl
    have htext : slashed (c :: path ++ '/' :: tail)
        = '/' :: (slashed path ++ '/' :: slashed tail) := by
      rw [slashed_append]
      show (if c = '\\' then '/' else c) :: slashed path ++ '/' :: slashed tail = _
      rw [hc, List.cons_append]
    rw [pathOf_slash htext, pieces_separated, addSegments_append (pieces_ne_nil _)]
    rfl

/-- **What stands behind a base is below it**: it adds segments to those of the base, and its query
is the query. -/
theorem IsBase.below {base : String} (h : IsBase base hosts)
    (hpath : ∀ c ∈ base.toList, c ≠ '?' ∧ c ≠ '#') {root slashes : List Char}
    (hbase : base.toList = root ++ slashes)
    (hslashes : ∀ c ∈ slashes, c = '/') : ∃ home, ∀ text tail, text.toList = root ++ '/' :: tail →
      ∃ url, Url.ofText? text hosts = some url ∧
        url.path = addSegments home (pieces '/' (slashed (pathPart tail))) ∧
        url.query = (queryPart tail).map (encoded keptInQuery) := by
  obtain ⟨scheme, lead, site, rest, hscheme, hsite, hrest, -, hparts⟩ := h.parts hbase hslashes
  obtain ⟨scheme, hscheme⟩ := Option.isSome_iff_exists.1 hscheme
  obtain ⟨authority, hauthority⟩ := Option.isSome_iff_exists.1 hsite
  have hplain : ∀ c ∈ rest ++ ['/'], c ≠ '?' ∧ c ≠ '#' := by
    intro c hc
    rcases List.mem_append.1 hc with hc | hc
    · exact hpath c (by rw [hbase]; exact List.mem_append_left _ (hrest c hc))
    · obtain rfl := List.mem_singleton.1 hc
      decide
  have hcut (separator : Char) (hno : separator ∉ rest ++ ['/']) (tail : List Char) :
      cut separator (rest ++ '/' :: tail)
        = (rest ++ '/' :: (cut separator tail).1, (cut separator tail).2) := by
    have hfront := cut_front hno tail
    rwa [List.append_assoc, List.append_assoc] at hfront
  refine ⟨directory rest, fun text tail htext => ?_⟩
  have htail := hparts tail
  rw [← htext] at htail
  have hstart : ∀ c ∈ rest.head?, c = '/' ∨ c = '\\' := by
    intro c hc
    have hmem := List.mem_of_mem_head? hc
    have hends := htail.rest c (by rw [List.head?_append, Option.mem_def.1 hc]; rfl)
    have hno := hplain c (List.mem_append_left _ hmem)
    simpa [endsHost, isSlash, hno.1, hno.2] using hends
  refine ⟨_, by rw [htail.ofText? hosts, hscheme, hauthority]; rfl, ?_, ?_⟩
  · show pathOf (cut '?' (cut '#' (rest ++ '/' :: behind tail)).1).1 = _
    rw [hcut '#' fun hmem => (hplain _ hmem).2 rfl, hcut '?' fun hmem => (hplain _ hmem).1 rfl]
    exact pathOf_append hstart _
  · show (cut '?' (cut '#' (rest ++ '/' :: behind tail)).1).2.map _ = _
    rw [hcut '#' fun hmem => (hplain _ hmem).2 rfl, hcut '?' fun hmem => (hplain _ hmem).1 rfl]
    rfl

end CloudIde.Url
