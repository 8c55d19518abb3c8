import CloudIde.Files.Tree
import CloudIde.Proofs.Fallible

/-!
# The directories that are made

A path passes some places: the one where it starts, and after each of its names the one that it has
led to. When the directory of a path has been made, the directories are those that were there before
and those at the places that the path passes, and no others (`makeDirectories_ok`).
-/

namespace CloudIde

/-- Some names, walked from where one is, pass a place. -/
def FilePath.Passes (here : Place) (names : List String) (place : Place) : Prop :=
  ∃ front, front <+: names ∧ place = front.foldl stepPlace here

namespace Tree

open FilePath

variable {γ : Type} {t t' u : Tree γ} {here parent place rest : Place} {name : String}
  {names : List String} {way way' : Way γ}

/-- A directory stands at a place. -/
def HasDirectory (t : Tree γ) (place : Place) : Prop := (t.node? place).any isDirectory = true

instance (t : Tree γ) (place : Place) : Decidable (t.HasDirectory place) :=
  inferInstanceAs (Decidable (_ = true))

/-- One can be at a place: it is a directory, and named by the names from the root. -/
structure Stands (t : Tree γ) (here : Place) : Prop where
  directory : t.HasDirectory here
  names : ".." ∉ here

/-! ## Places -/

theorem node?_append (t : Tree γ) (place rest : Place) :
    t.node? (place ++ rest) = (t.node? place).bind fun u => u.node? rest := by
  induction place generalizing t with
  | nil => rfl
  | cons name place ih =>
    rw [List.cons_append, node?, node?, Option.bind_assoc]
    exact congrArg _ (funext fun u => ih u)

theorem hasDirectory_cons : t.HasDirectory (name :: rest) ↔
    ∃ u, t.child? name = some u ∧ u.HasDirectory rest := by
  unfold HasDirectory
  rw [node?]
  cases t.child? name with
  | none => simp
  | some u => simp

theorem isDirectory_of_child? (h : t.child? name = some u) : t.isDirectory = true := by
  cases t with
  | file content => exact absurd h (by simp [child?])
  | directory entries => rfl

/-- What leads to a directory is a directory. -/
theorem HasDirectory.above (h : t.HasDirectory (place ++ rest)) : t.HasDirectory place := by
  induction place generalizing t with
  | nil =>
    cases rest with
    | nil => exact h
    | cons name rest =>
      obtain ⟨u, hu, -⟩ := hasDirectory_cons.1 h
      exact isDirectory_of_child? hu
  | cons name place ih =>
    obtain ⟨u, hu, hplace⟩ := hasDirectory_cons.1 h
    exact hasDirectory_cons.2 ⟨u, hu, ih hplace⟩

theorem HasDirectory.dropLast (h : t.HasDirectory place) : t.HasDirectory place.dropLast := by
  rcases List.eq_nil_or_concat place with rfl | ⟨front, name, rfl⟩
  · exact h
  · rw [List.concat_eq_append] at h ⊢
    rw [List.dropLast_concat]
    exact h.above

theorem Stands.root (h : t.Stands here) : t.Stands [] :=
  ⟨h.directory.above, List.not_mem_nil⟩

/-- What stands in a tree stands in a directory. -/
theorem hasDirectory_of_node? (h : t.node? place = some u) (hne : place ≠ []) :
    t.HasDirectory place.dropLast := by
  rcases List.eq_nil_or_concat place with rfl | ⟨front, name, rfl⟩
  · exact absurd rfl hne
  · rw [List.concat_eq_append] at h ⊢
    rw [node?_append] at h
    obtain ⟨v, hv, hname⟩ := Option.bind_eq_some_iff.1 h
    rw [Tree.node?] at hname
    obtain ⟨child, hchild, -⟩ := Option.bind_eq_some_iff.1 hname
    rw [List.dropLast_concat, HasDirectory, hv]
    exact isDirectory_of_child? hchild

/-! ## Changes -/

theorem isDirectory_withChild (child : Option (Tree γ)) :
    (t.withChild name child).isDirectory = t.isDirectory := by
  cases t <;> rfl

theorem hasDirectory_empty : (empty : Tree γ).HasDirectory place ↔ place = [] := by
  cases place with
  | nil => exact iff_of_true rfl rfl
  | cons name rest => exact iff_of_false (by simp [hasDirectory_cons, empty, child?]) (by simp)

theorem child?_withChild (h : t.isDirectory = true) (child : Option (Tree γ)) (other : String) :
    (t.withChild name child).child? other = if other = name then child else t.child? other := by
  cases t with
  | file content => exact absurd h (by simp [isDirectory])
  | directory entries =>
    have hothers (hne : other ≠ name) : (entries.filter fun entry => entry.1 ≠ name).find?
        (fun entry => entry.1 = other) = entries.find? fun entry => entry.1 = other := by
      rw [List.find?_filter]
      refine congrArg (entries.find? ·) (funext fun entry => ?_)
      by_cases hentry : entry.1 = other
      · simp [hentry, hne]
      · simp [hentry]
    by_cases hsame : other = name
    · subst hsame
      rw [if_pos rfl]
      cases child with
      | none => simp [child?, withChild]
      | some u => simp [child?, withChild]
    · rw [if_neg hsame]
      cases child with
      | none => exact congrArg (Option.map (·.2)) (hothers hsame)
      | some u =>
        have hfirst : decide (name = other) = false := decide_eq_false (Ne.symm hsame)
        simp only [withChild, child?, Option.toList, List.map_cons, List.map_nil, List.cons_append,
          List.nil_append, List.find?_cons, hfirst, hothers hsame]

theorem hasDirectory_withChild (h : t.isDirectory = true) (first : String) :
    (t.withChild name (some u)).HasDirectory (first :: rest) ↔
      if first = name then u.HasDirectory rest else t.HasDirectory (first :: rest) := by
  rw [hasDirectory_cons, hasDirectory_cons, child?_withChild h]
  by_cases hfirst : first = name
  · simp [hfirst]
  · simp [hfirst]

/-- Making a directory in another one makes this one and no more. -/
theorem hasDirectory_put (h : t.HasDirectory parent) (hfree : t.node? (parent ++ [name]) = none)
    (place : Place) : (t.put (parent ++ [name]) empty).HasDirectory place ↔
      t.HasDirectory place ∨ place = parent ++ [name] := by
  induction parent generalizing t place with
  | nil =>
    have hchild : t.child? name = none := by simpa [Tree.node?] using hfree
    have hroot : t.isDirectory = true := h
    show (t.withChild name (some empty)).HasDirectory place ↔ _
    cases place with
    | nil => exact iff_of_true ((isDirectory_withChild _).trans hroot) (Or.inl hroot)
    | cons first rest =>
      rw [hasDirectory_withChild hroot]
      by_cases hfirst : first = name
      · subst hfirst
        simp [hasDirectory_cons, hasDirectory_empty, hchild]
      · simp [hfirst]
  | cons first parent ih =>
    obtain ⟨u, hu, hparent⟩ := hasDirectory_cons.1 h
    have hroot := isDirectory_of_child? hu
    replace hfree : u.node? (parent ++ [name]) = none := by
      simpa [Tree.node?, hu] using hfree
    have hput : t.put (first :: parent ++ [name]) empty
        = t.withChild first (some (u.put (parent ++ [name]) empty)) := by
      simp [Tree.put, hu]
    rw [hput]
    cases place with
    | nil => exact iff_of_true ((isDirectory_withChild _).trans hroot) (Or.inl hroot)
    | cons other rest =>
      rw [hasDirectory_withChild hroot]
      by_cases hother : other = first
      · subst hother
        simpa [hasDirectory_cons, hu] using ih hparent hfree rest
      · simp [hother]

/-! ## Ways -/

/-- The place that a way leads to. -/
def placeOf (way : Way γ) : Place := (way.map (·.1)).reverse

/-- A way leads through directories of a tree. -/
def Leads (t : Tree γ) : Way γ → Prop
  | [] => t.isDirectory = true
  | (name, child) :: way =>
    t.Leads way ∧ (t.endOf way).child? name = some child ∧ child.isDirectory = true

theorem Leads.node? (h : t.Leads way) :
    t.node? (placeOf way) = some (t.endOf way) ∧ (t.endOf way).isDirectory = true := by
  induction way with
  | nil => exact ⟨rfl, h⟩
  | cons step way ih =>
    obtain ⟨hway, hchild, hdirectory⟩ := h
    have hplace : placeOf (step :: way) = placeOf way ++ [step.1] := by simp [placeOf]
    refine ⟨?_, hdirectory⟩
    rw [hplace, node?_append, (ih hway).1]
    rw [Option.bind_some, Tree.node?, hchild]
    rfl

theorem Leads.hasDirectory (h : t.Leads way) : t.HasDirectory (placeOf way) := by
  unfold HasDirectory
  rw [h.node?.1]
  exact h.node?.2

theorem step_ok (h : t.step name = .ok u) : t.child? name = some u := by
  unfold step at h
  split at h
  · cases h
  · split at h
    · cases h
    · cases hchild : t.child? name with
      | none => simp [hchild] at h
      | some child =>
        rw [hchild] at h
        exact congrArg some (Except.ok.inj h)

theorem step_missing (h : t.step name = .error .missing) : t.child? name = none := by
  unfold step at h
  split at h
  · cases h
  · split at h
    · cases h
    · cases hchild : t.child? name with
      | none => rfl
      | some child => simp [hchild] at h

theorem look_ok (h : t.look place = .ok u) : t.node? place = some u := by
  unfold Tree.look at h
  induction place generalizing t with
  | nil => exact congrArg some (Except.ok.inj h)
  | cons name place ih =>
    rw [List.foldlM_cons] at h
    obtain ⟨child, hstep, hrest⟩ := bind_eq_ok.1 h
    rw [Tree.node?, step_ok hstep]
    exact ih hrest

theorem Leads.enter (h : t.Leads way) (hon : t.enter way name = .ok way') :
    t.Leads way' ∧ placeOf way' = stepPlace (placeOf way) name := by
  unfold Tree.enter at hon
  by_cases hback : name = ".."
  · rw [if_pos hback] at hon
    obtain rfl := Except.ok.inj hon
    rw [stepPlace, if_pos hback]
    cases way with
    | nil => exact ⟨h, rfl⟩
    | cons step way => exact ⟨h.1, by simp [placeOf]⟩
  · rw [if_neg hback] at hon
    obtain ⟨child, hstep, hon⟩ := bind_eq_ok.1 hon
    by_cases hdirectory : child.isDirectory = true
    · rw [if_pos hdirectory] at hon
      obtain rfl := Except.ok.inj hon
      rw [stepPlace, if_neg hback]
      exact ⟨⟨h, step_ok hstep, hdirectory⟩, by simp [placeOf]⟩
    · rw [if_neg hdirectory] at hon
      cases hon

/-- A walk leads to the place of its names, and everything that it passes is a directory. -/
theorem Leads.foldlM (h : t.Leads way) (hon : names.foldlM t.enter way = .ok way') :
    t.Leads way' ∧ placeOf way' = names.foldl stepPlace (placeOf way) ∧
      ∀ place, Passes (placeOf way) names place → t.HasDirectory place := by
  induction names generalizing way with
  | nil =>
    obtain rfl := Except.ok.inj hon
    refine ⟨h, rfl, ?_⟩
    rintro place ⟨front, hfront, rfl⟩
    rw [List.prefix_nil.1 hfront]
    exact h.hasDirectory
  | cons name names ih =>
    rw [List.foldlM_cons] at hon
    obtain ⟨next, hnext, hon⟩ := bind_eq_ok.1 hon
    obtain ⟨hleads, hplace⟩ := h.enter hnext
    obtain ⟨hleads', hplace', hpasses⟩ := ih hleads hon
    rw [hplace] at hplace' hpasses
    refine ⟨hleads', hplace', ?_⟩
    rintro place ⟨front, hfront, rfl⟩
    rcases List.prefix_cons_iff.1 hfront with rfl | ⟨rest, rfl, hrest⟩
    · exact h.hasDirectory
    · exact hpasses _ ⟨rest, hrest, rfl⟩

theorem foldl_stepPlace (h : ".." ∉ here) : here.foldl stepPlace parent = parent ++ here := by
  induction here generalizing parent with
  | nil => simp
  | cons name here ih =>
    have hname : name ≠ ".." := fun he => h (he ▸ List.mem_cons_self)
    rw [List.foldl_cons, stepPlace, if_neg hname,
      ih fun hlater => h (List.mem_cons_of_mem name hlater), List.append_assoc,
      List.singleton_append]

theorem Stands.walk (h : t.Stands here) (hwalk : t.walk here names = .ok way) :
    t.Leads way ∧ placeOf way = names.foldl stepPlace here ∧
      ∀ place, Passes here names place → t.HasDirectory place := by
  unfold Tree.walk at hwalk
  obtain ⟨start, hstart, hwalk⟩ := bind_eq_ok.1 hwalk
  have hroot : t.Leads [] := h.root.directory
  obtain ⟨hleads, hplace, -⟩ := hroot.foldlM hstart
  have hhere : placeOf start = here := hplace.trans (foldl_stepPlace h.names)
  have hends := hleads.foldlM hwalk
  rwa [hhere] at hends

/-! ## Directories -/

/-- What a path leads to lies in a directory when the path passes directories before its last name.
-/
theorem hasDirectory_parent (h : ∀ place, Passes here names.dropLast place → t.HasDirectory place) :
    t.HasDirectory (names.foldl stepPlace here).dropLast := by
  rcases List.eq_nil_or_concat names with rfl | ⟨front, name, rfl⟩
  · exact (h here ⟨[], List.prefix_rfl, rfl⟩).dropLast
  · rw [List.concat_eq_append] at h ⊢
    rw [List.dropLast_concat] at h
    have hfront := h _ ⟨front, List.prefix_rfl, rfl⟩
    rw [List.foldl_append, List.foldl_cons, List.foldl_nil, stepPlace]
    split
    · exact hfront.dropLast.dropLast
    · rwa [List.dropLast_concat]

theorem passes_concat : Passes here (names ++ [name]) place ↔
    Passes here names place ∨ place = (names ++ [name]).foldl stepPlace here := by
  unfold Passes
  simp only [List.prefix_concat_iff, or_and_right, exists_or, exists_eq_left]
  exact or_comm

theorem Stands.makeDirectory (h : t.Stands here)
    (hmake : t.makeDirectory here (names ++ [name]) = .ok t') :
    (∀ place, Passes here names place → t.HasDirectory place) ∧
      ∀ place, t'.HasDirectory place ↔
        t.HasDirectory place ∨ place = (names ++ [name]).foldl stepPlace here := by
  unfold Tree.makeDirectory at hmake
  rw [List.getLast?_concat, List.dropLast_concat] at hmake
  obtain ⟨way, hway, hmake⟩ := bind_eq_ok.1 hmake
  obtain ⟨hleads, hplace, hpasses⟩ := h.walk hway
  refine ⟨hpasses, ?_⟩
  by_cases hback : name = ".."
  · rw [if_pos hback] at hmake
    cases hmake
  · rw [if_neg hback] at hmake
    cases hstep : (t.endOf way).step name with
    | ok child => simp [hstep] at hmake
    | error fault =>
      cases fault with
      | missing =>
        rw [hstep] at hmake
        obtain rfl := Except.ok.inj hmake
        have hfree : t.node? (placeOf way ++ [name]) = none := by
          rw [node?_append, hleads.node?.1]
          simp [Tree.node?, step_missing hstep]
        have hlast : (names ++ [name]).foldl stepPlace here = placeOf way ++ [name] := by
          rw [List.foldl_append, ← hplace]
          exact if_neg hback
        rw [hlast]
        exact hasDirectory_put hleads.hasDirectory hfree
      | _ => simp [hstep] at hmake

theorem Stands.afterFault (h : t.Stands here) {fault : FileFault}
    (hafter : t.afterFault here names fault = .ok ()) :
    ∀ place, Passes here names place → t.HasDirectory place := by
  unfold Tree.afterFault at hafter
  split at hafter
  · cases hwalk : t.walk here names with
    | ok way => exact (h.walk hwalk).2.2
    | error fault => simp [hwalk] at hafter
  · cases hafter

/-- A directory is made, or cannot be made and is there. -/
def Ensures (t : Tree γ) (here : Place) (names : List String) (t' : Tree γ) : Prop :=
  t.makeDirectory here names = .ok t' ∨
    t' = t ∧ ∃ fault, t.afterFault here names fault = .ok ()

theorem Stands.ensures (h : t.Stands here) (hends : t.Ensures here (names ++ [name]) t')
    (place : Place) :
    t'.HasDirectory place ↔ t.HasDirectory place ∨ Passes here (names ++ [name]) place := by
  rcases hends with hmake | ⟨rfl, fault, hafter⟩
  · obtain ⟨hpasses, hiff⟩ := h.makeDirectory hmake
    rw [hiff, passes_concat, ← or_assoc, or_iff_left_of_imp (hpasses place)]
  · exact (or_iff_left_of_imp (h.afterFault hafter place)).symm

/-- The last directory is made at once, or after those above it. -/
theorem makeDirectoriesFrom_cons {above : List String}
    (hmake : t.makeDirectoriesFrom here (name :: above) = (t', .ok ())) :
    t.Ensures here (above.reverse ++ [name]) t' ∨
      ∃ u, t.makeDirectoriesFrom here above = (u, .ok ()) ∧
        u.Ensures here (above.reverse ++ [name]) t' := by
  unfold Tree.makeDirectoriesFrom at hmake
  simp only [List.reverse_cons] at hmake
  split at hmake
  · next u hfirst =>
    obtain ⟨rfl, -⟩ := Prod.ext_iff.1 hmake
    exact Or.inl (Or.inl hfirst)
  · split at hmake
    · cases (Prod.ext_iff.1 hmake).2
    · next u habove =>
      refine Or.inr ⟨u, habove, ?_⟩
      split at hmake
      · next last hlast =>
        obtain ⟨rfl, -⟩ := Prod.ext_iff.1 hmake
        exact Or.inl hlast
      · next fault hlast =>
        obtain ⟨rfl, hafter⟩ := Prod.ext_iff.1 hmake
        exact Or.inr ⟨rfl, fault, hafter⟩
  · next fault _ hfirst =>
    obtain ⟨rfl, hafter⟩ := Prod.ext_iff.1 hmake
    exact Or.inl (Or.inr ⟨rfl, fault, hafter⟩)

theorem Stands.makeDirectoriesFrom (h : t.Stands here) {reversed : List String}
    (hmake : t.makeDirectoriesFrom here reversed = (t', .ok ())) (place : Place) :
    t'.HasDirectory place ↔ t.HasDirectory place ∨ Passes here reversed.reverse place := by
  induction reversed generalizing t' place with
  | nil =>
    obtain ⟨rfl, -⟩ := Prod.ext_iff.1 hmake
    have hhere : Passes here [] place → t.HasDirectory place := by
      rintro ⟨front, hfront, rfl⟩
      rw [List.prefix_nil.1 hfront]
      exact h.directory
    exact (or_iff_left_of_imp hhere).symm
  | cons name above ih =>
    rw [List.reverse_cons]
    rcases makeDirectoriesFrom_cons hmake with hends | ⟨u, habove, hends⟩
    · exact h.ensures hends place
    · -- one can be where one was after the directories above have been made
      have hstands : u.Stands here := ⟨(ih habove here).2 (Or.inl h.directory), h.names⟩
      have hpasses : Passes here above.reverse place →
          Passes here (above.reverse ++ [name]) place := fun hplace =>
        passes_concat.2 (Or.inl hplace)
      rw [hstands.ensures hends place, ih habove place, or_assoc, or_iff_right_of_imp hpasses]

/-- **The directories that are made are those that the path passes.** -/
theorem makeDirectories_ok (h : t.Stands here) {path : FilePath}
    (hmake : t.makeDirectories here path = (t', .ok ())) (place : Place) :
    t'.HasDirectory place ↔
      t.HasDirectory place ∨ Passes (path.start here) path.names place := by
  unfold Tree.makeDirectories at hmake
  split at hmake
  · cases hmake
  · split at hmake
    · cases hmake
    · have hstart : t.Stands (path.start here) := by
        unfold FilePath.start
        split
        · exact h.root
        · exact h
      have hmade := hstart.makeDirectoriesFrom hmake place
      rwa [List.reverse_reverse] at hmade

end Tree

end CloudIde
