import CloudIde.Store.Table

/-!
# What the operations on a table do to its rows

The rows of a made table stand in strictly ascending order, so a row is known by its key and the
table by its rows. Two things follow that everything about the store rests on: of two rows with one
key there is only one (`Table.eq_of_key`), and what is read from a table depends on nothing but
which rows are in it (`Table.filter_eq`).

Each operation is then described by the rows that are in the table afterwards.
-/

namespace CloudIde

variable {ρ : Type} [Row ρ]

/-- Putting a row into its place adds it and nothing else. -/
theorem perm_place (row : ρ) (rows : List ρ) : (place row rows).Perm (row :: rows) := by
  induction rows with
  | nil => exact List.Perm.refl _
  | cons a rest ih =>
    simp only [place]
    split
    · exact List.Perm.refl _
    · exact (ih.cons a).trans (List.Perm.swap row a rest)

theorem order_of_key {a b : ρ} (h : Row.key a = Row.key b) : Row.order a = Row.order b := by
  simp only [Row.order, h]

namespace Table

variable {t u : Table ρ} {row r a b : ρ} {key : Key}

/-! ## Keys -/

/-- A made table has no two rows of one key. -/
theorem order_ne (hm : t.layout = .made) (ha : a ∈ t.rows) (hb : b ∈ t.rows) (hab : a ≠ b) :
    Row.order a ≠ Row.order b := by
  have hne : t.rows.Pairwise fun x y => x ≠ y → Row.order x ≠ Row.order y :=
    (t.ascending hm).imp fun hlt _ he => List.lt_irrefl _ (he ▸ hlt)
  -- the order of the list says this of a row and the later ones only
  have hall := List.Pairwise.forall_of_forall_of_flip (fun x _ hx => absurd rfl hx) hne
    (hne.imp fun h hx he => h (Ne.symm hx) he.symm)
  exact hall ha hb hab

/-- **The primary key**: in a made table rows of one key are one row. -/
theorem eq_of_key (hm : t.layout = .made) (ha : a ∈ t.rows) (hb : b ∈ t.rows)
    (h : Row.key a = Row.key b) : a = b := by
  by_cases hab : a = b
  · exact hab
  · exact absurd (order_of_key h) (order_ne hm ha hb hab)

theorem nodup_rows (hm : t.layout = .made) : t.rows.Nodup := by
  refine (t.ascending hm).imp ?_
  rintro x y hlt rfl
  exact List.lt_irrefl _ hlt

/-- In a made table there is at most one row of a key. -/
theorem count_le_one (hm : t.layout = .made) (key : Key) : t.count key ≤ 1 := by
  have hne : t.rows.Pairwise fun x y => Row.order x ≠ Row.order y := by
    refine (t.ascending hm).imp fun {x y} hlt he => ?_
    rw [he] at hlt
    exact List.lt_irrefl _ hlt
  unfold count
  generalize t.rows = rows at hne ⊢
  induction rows with
  | nil => exact Nat.zero_le 1
  | cons first rest ih =>
    obtain ⟨hfirst, hrest⟩ := List.pairwise_cons.1 hne
    by_cases hk : Row.key first = key
    · -- the rows that follow have other keys
      have hnone : rest.countP (fun r => Row.key r = key) = 0 := by
        refine List.countP_eq_zero.2 fun r hr hrk => hfirst r hr (order_of_key ?_)
        have hrk : Row.key r = key := by simpa using hrk
        exact hk.trans hrk.symm
      refine Nat.le_of_eq ?_
      rw [List.countP_cons_of_pos (by simpa using hk), hnone]
    · rw [List.countP_cons_of_neg (by simpa using hk)]
      exact ih hrest

theorem hasKey_iff : t.hasKey key = true ↔ ∃ r ∈ t.rows, Row.key r = key := by
  simp [hasKey]

theorem find?_mem (h : t.find? key = some r) : r ∈ t.rows ∧ Row.key r = key := by
  refine ⟨List.mem_of_find?_eq_some h, ?_⟩
  simpa using List.find?_some h

theorem find?_eq_none : t.find? key = none ↔ t.hasKey key = false := by
  simp [find?, hasKey]

/-- In a made table the row of a key is found. -/
theorem find?_eq (hm : t.layout = .made) (hr : r ∈ t.rows) (hk : Row.key r = key) :
    t.find? key = some r := by
  cases hf : t.find? key with
  | none =>
    have hno := find?_eq_none.1 hf
    rw [hasKey_iff.2 ⟨r, hr, hk⟩] at hno
    exact absurd hno (by simp)
  | some q =>
    obtain ⟨hq, hqk⟩ := find?_mem hf
    rw [eq_of_key hm hq hr (hqk.trans hk.symm)]

/-! ## Reading -/

/-- Two made tables with the same rows of a kind list them alike. -/
theorem filter_eq (ht : t.layout = .made) (hu : u.layout = .made) {p : ρ → Bool}
    (h : ∀ r, p r = true → (r ∈ t.rows ↔ r ∈ u.rows)) : t.rows.filter p = u.rows.filter p := by
  have hperm : (t.rows.filter p).Perm (u.rows.filter p) := by
    refine (List.perm_ext_iff_of_nodup ((nodup_rows ht).filter _) ((nodup_rows hu).filter _)).2 ?_
    intro r
    simp only [List.mem_filter]
    exact ⟨fun ⟨hr, hp⟩ => ⟨(h r hp).1 hr, hp⟩, fun ⟨hr, hp⟩ => ⟨(h r hp).2 hr, hp⟩⟩
  -- both lists ascend, and there is one way to put rows in order
  refine hperm.eq_of_pairwise (fun x y _ _ hxy hyx => ?_)
    ((t.ascending ht).sublist List.filter_sublist) ((u.ascending hu).sublist List.filter_sublist)
  exact absurd (List.lt_trans hxy hyx) (List.lt_irrefl _)

theorem select_eq (ht : t.layout = .made) (hu : u.layout = .made) {p : ρ → Bool}
    (h : ∀ r, p r = true → (r ∈ t.rows ↔ r ∈ u.rows)) (order : ρ → List Cell) :
    t.select p order = u.select p order := by
  unfold select
  rw [filter_eq ht hu h]

theorem find_eq (ht : t.layout = .made) (hu : u.layout = .made) {p : ρ → Bool}
    (h : ∀ r, p r = true → (r ∈ t.rows ↔ r ∈ u.rows)) : t.rows.find? p = u.rows.find? p := by
  rw [← List.head?_filter, ← List.head?_filter, filter_eq ht hu h]

/-- Tables that list a kind of rows alike have the same rows of the kind. -/
theorem mem_of_filter_eq {p : ρ → Bool} (h : t.rows.filter p = u.rows.filter p)
    (hr : p r = true) : r ∈ t.rows ↔ r ∈ u.rows := by
  have hmem : r ∈ t.rows.filter p ↔ r ∈ u.rows.filter p := by rw [h]
  rwa [List.mem_filter, List.mem_filter, and_iff_left hr, and_iff_left hr] at hmem

theorem mem_select {p : ρ → Bool} {order : ρ → List Cell} :
    r ∈ t.select p order ↔ r ∈ t.rows ∧ p r = true := by
  simp [select]

theorem nodup_select (hm : t.layout = .made) (p : ρ → Bool) (order : ρ → List Cell) :
    (t.select p order).Nodup :=
  (List.mergeSort_perm _ _).nodup_iff.2 ((nodup_rows hm).filter _)

/-! ## Writing -/

/-- What is left of a table when it takes a row. -/
structure Inserted (t : Table ρ) (row : ρ) (u : Table ρ) : Prop where
  layout : u.layout = t.layout
  rows : u.rows.Perm (row :: t.rows)
  /-- A made table had no row of the key. -/
  fresh : t.layout = .made → ∀ r ∈ t.rows, Row.order r ≠ Row.order row

theorem insert?_some (h : t.insert? row = some u) : t.Inserted row u := by
  unfold insert? at h
  split at h
  · split at h
    · exact absurd h (by simp)
    · next hno =>
      cases h
      refine ⟨rfl, perm_place row t.rows, fun _ r hr he => hno ?_⟩
      exact List.any_eq_true.2 ⟨r, hr, by simp [he]⟩
  · next hm =>
    -- a table that was found takes any row, at its end
    cases h
    exact ⟨rfl, List.perm_append_singleton row t.rows, fun h => absurd h hm⟩

theorem insert?_none (h : t.insert? row = none) : ∃ r ∈ t.rows, Row.order r = Row.order row := by
  unfold insert? at h
  split at h
  · split at h
    · next hyes => simpa using hyes
    · exact absurd h (by simp)
  · exact absurd h (by simp)

theorem Inserted.mem_iff (h : t.Inserted row u) : r ∈ u.rows ↔ r = row ∨ r ∈ t.rows := by
  rw [h.rows.mem_iff, List.mem_cons]

theorem Inserted.not_hasKey (h : t.Inserted row u) (hm : t.layout = .made) :
    t.hasKey (Row.key row) = false := by
  refine Bool.eq_false_iff.2 fun hk => ?_
  obtain ⟨r, hr, he⟩ := hasKey_iff.1 hk
  exact h.fresh hm r hr (order_of_key he)

theorem Inserted.hasKey_iff (h : t.Inserted row u) :
    u.hasKey key = true ↔ Row.key row = key ∨ t.hasKey key = true := by
  simp only [Table.hasKey_iff, h.mem_iff]
  constructor
  · rintro ⟨r, rfl | hr, hk⟩
    · exact Or.inl hk
    · exact Or.inr ⟨r, hr, hk⟩
  · rintro (hk | ⟨r, hr, hk⟩)
    · exact ⟨row, Or.inl rfl, hk⟩
    · exact ⟨r, Or.inr hr, hk⟩

@[simp] theorem put_layout : (t.put row).layout = t.layout := by
  unfold put
  split <;> rfl

/-- In a made table a row takes the place of the one with its key. -/
theorem mem_put (hm : t.layout = .made) :
    r ∈ (t.put row).rows ↔ r = row ∨ r ∈ t.rows ∧ Row.order r ≠ Row.order row := by
  simp [put, hm, mem_place]

/-- In any table a put row comes among rows that were there before. -/
theorem mem_of_mem_put (h : r ∈ (t.put row).rows) : r = row ∨ r ∈ t.rows := by
  unfold put at h
  split at h
  · rcases mem_place.1 h with h | h
    · exact Or.inl h
    · exact Or.inr (List.mem_filter.1 h).1
  · rcases List.mem_append.1 h with h | h
    · exact Or.inr h
    · exact Or.inl (List.mem_singleton.1 h)

@[simp] theorem erase_layout : (t.erase key).layout = t.layout := rfl

@[simp] theorem mem_erase : r ∈ (t.erase key).rows ↔ r ∈ t.rows ∧ Row.key r ≠ key := by
  simp [erase]

@[simp] theorem modify_layout (f : ρ → ρ) (keeps : ∀ r, Row.key (f r) = Row.key r) :
    (t.modify f keeps).layout = t.layout := rfl

theorem mem_modify (f : ρ → ρ) (keeps : ∀ r, Row.key (f r) = Row.key r) :
    r ∈ (t.modify f keeps).rows ↔ ∃ q ∈ t.rows, f q = r := by
  simp [modify]

/-- What keeps the keys changes the row that is found. -/
theorem find?_modify (f : ρ → ρ) (keeps : ∀ r, Row.key (f r) = Row.key r) (key : Key) :
    (t.modify f keeps).find? key = (t.find? key).map f := by
  have hkey : ((fun r => decide (Row.key r = key)) ∘ f) = fun r => decide (Row.key r = key) := by
    funext r
    simp [keeps]
  unfold find? modify
  rw [List.find?_map, hkey]

@[simp] theorem replace_layout : (t.replace row).layout = t.layout := rfl

theorem replace_rows :
    (t.replace row).rows = t.rows.map fun r => if Row.key r = Row.key row then row else r := rfl

/-- Writing over the rows of a key leaves the others and, where there was one, the new row. -/
theorem mem_replace : r ∈ (t.replace row).rows ↔
    (r = row ∧ t.hasKey (Row.key row) = true) ∨ (r ∈ t.rows ∧ Row.key r ≠ Row.key row) := by
  rw [replace_rows, List.mem_map, hasKey_iff]
  constructor
  · rintro ⟨q, hq, rfl⟩
    by_cases hk : Row.key q = Row.key row
    · rw [if_pos hk]
      exact Or.inl ⟨rfl, q, hq, hk⟩
    · rw [if_neg hk]
      exact Or.inr ⟨hq, hk⟩
  · rintro (⟨rfl, q, hq, hk⟩ | ⟨hr, hk⟩)
    · exact ⟨q, hq, if_pos hk⟩
    · exact ⟨r, hr, if_neg hk⟩

theorem replace_hasKey : (t.replace row).hasKey key = t.hasKey key := by
  refine Bool.eq_iff_iff.2 ⟨fun h => ?_, fun h => ?_⟩
  · obtain ⟨r, hr, hk⟩ := hasKey_iff.1 h
    rcases mem_replace.1 hr with ⟨rfl, hrow⟩ | ⟨hr, -⟩
    · rwa [← hk]
    · exact hasKey_iff.2 ⟨r, hr, hk⟩
  · obtain ⟨r, hr, hk⟩ := hasKey_iff.1 h
    -- a row of the key is still there, or the new one is in its place
    by_cases he : Row.key r = Row.key row
    · refine hasKey_iff.2 ⟨row, mem_replace.2 (Or.inl ⟨rfl, ?_⟩), he ▸ hk⟩
      exact hasKey_iff.2 ⟨r, hr, he⟩
    · exact hasKey_iff.2 ⟨r, mem_replace.2 (Or.inr ⟨hr, he⟩), hk⟩

/-- A made table names every column. -/
theorem naming_made (hm : t.layout = .made) (columns : List String) :
    t.naming columns = .ok () := by
  simp [naming, hm, Layout.lacks?]

theorem filling_made (hm : t.layout = .made) (columns : List String) :
    t.filling columns = .ok () := by
  simp [filling, hm, Layout.lacks?]

end Table

end CloudIde
