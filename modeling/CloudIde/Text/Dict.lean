/-!
# Dictionaries

A dictionary maps finitely many texts to texts. Its entries stand in ascending order of their keys,
by code points, which is also the order of the keys' UTF-8 bytes; so two dictionaries with the same
entries are equal.
-/

namespace CloudIde

/-- A finite map from texts to texts. -/
structure Dict where
  /-- The entries, by key. -/
  entries : List (String × String)
  /-- Every key stands before the greater ones, and none stands twice. -/
  ascending : entries.Pairwise fun a b => a.1 < b.1
  deriving DecidableEq

namespace Dict

/-- The dictionary without entries. -/
def empty : Dict := ⟨[], .nil⟩

instance : Inhabited Dict := ⟨empty⟩

/-- The value of a key. -/
def get? (d : Dict) (key : String) : Option String :=
  (d.entries.find? fun e => e.1 = key).map (·.2)

/-- Whether a key has a value. -/
def contains (d : Dict) (key : String) : Bool := d.entries.any fun e => e.1 = key

/-- The keys, in ascending order. -/
def keys (d : Dict) : List String := d.entries.map (·.1)

/-- Whether there are no entries. -/
def isEmpty (d : Dict) : Bool := d.entries.isEmpty

/-- An entry put into its place; a value that the key had before is replaced. -/
def insertEntry (key value : String) : List (String × String) → List (String × String)
  | [] => [(key, value)]
  | e :: rest =>
    if key < e.1 then (key, value) :: e :: rest
    else if e.1 < key then e :: insertEntry key value rest
    else (key, value) :: rest

theorem mem_insertEntry {key value : String} {entries : List (String × String)}
    {e : String × String} (h : e ∈ insertEntry key value entries) :
    e = (key, value) ∨ e ∈ entries := by
  induction entries with
  | nil => simpa [insertEntry] using h
  | cons a rest ih =>
    simp only [insertEntry] at h
    split at h
    · simpa using h
    · split at h
      · rcases List.mem_cons.1 h with h | h
        · simp [h]
        · rcases ih h with h | h <;> simp [h]
      · rcases List.mem_cons.1 h with h | h <;> simp [h]

theorem insertEntry_ascending {key value : String} {entries : List (String × String)}
    (h : entries.Pairwise fun a b => a.1 < b.1) :
    (insertEntry key value entries).Pairwise fun a b => a.1 < b.1 := by
  induction entries with
  | nil => simp [insertEntry]
  | cons a rest ih =>
    have ⟨first, tail⟩ := List.pairwise_cons.1 h
    simp only [insertEntry]
    split
    · next below =>
      refine List.pairwise_cons.2 ⟨fun e he => ?_, h⟩
      rcases List.mem_cons.1 he with rfl | he
      · exact below
      · exact String.lt_trans below (first e he)
    · split
      · next above =>
        refine List.pairwise_cons.2 ⟨fun e he => ?_, ih tail⟩
        rcases mem_insertEntry he with rfl | he
        · exact above
        · exact first e he
      · next notBelow notAbove =>
        have same : key = a.1 :=
          String.le_antisymm (String.not_lt.1 notAbove) (String.not_lt.1 notBelow)
        exact List.pairwise_cons.2 ⟨fun e he => by simpa [same] using first e he, tail⟩

/-- Gives a key a value, in the place of the one it had. -/
def insert (d : Dict) (key value : String) : Dict :=
  ⟨insertEntry key value d.entries, insertEntry_ascending d.ascending⟩

/-- The dictionary of a list of entries; of two with one key the later one counts. -/
def ofList (entries : List (String × String)) : Dict :=
  entries.foldl (fun d e => d.insert e.1 e.2) empty

/-- The entries that satisfy `p`. -/
def filter (d : Dict) (p : String × String → Bool) : Dict :=
  ⟨d.entries.filter p, d.ascending.sublist List.filter_sublist⟩

end Dict

end CloudIde
