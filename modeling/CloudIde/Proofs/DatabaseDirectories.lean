import CloudIde.Database.Open
import CloudIde.Proofs.Locations

/-!
# The directory of a database

The directory for a location is made before the location is opened. `Database.directory_made` says
for which locations that helps: the file that is opened has a directory to lie in exactly when there
was one before, or the written path passes it. It always does when the location is plain. Where
there is no directory, nothing is opened.
-/

namespace CloudIde

/-! ## The file of a location -/

/-- Whether a file is opened, and not a database in memory or nothing at all. -/
def FileAccess.leadsToFile (access : FileAccess) : Bool :=
  let path := Utf8.lossy access.path
  let files := access.files.map Utf8.lossy
  !(files.any fun name => name ∉ Database.knownFiles) &&
    !(access.inMemory || path.isEmpty || path.toList = Location.memory || files = some "memdb")

/-- The path of the file that is opened. -/
def FileAccess.filePath (access : FileAccess) : FilePath :=
  FilePath.ofChars (Utf8.lossy access.path).toList

/-- How the file of a location is opened, when there is one. -/
def Location.file? (location : String) : Option FileAccess :=
  match Target.ofLocation location with
  | .error _ => none
  | .ok target =>
    if !target.isUri && '\x00' ∈ target.path.toList then none
    else match target.access with
      | .error _ => none
      | .ok access => if access.leadsToFile then some access else none

section

variable {location : String} {access : FileAccess}

theorem Location.file?_eq_some (h : file? location = some access) :
    ∃ target, Target.ofLocation location = .ok target ∧
      (!target.isUri && '\x00' ∈ target.path.toList) = false ∧ target.access = .ok access ∧
      access.leadsToFile = true := by
  unfold file? at h
  cases htarget : Target.ofLocation location with
  | error fault => simp [htarget] at h
  | ok target =>
    simp only [htarget] at h
    split at h
    · cases h
    · rename_i hnul
      cases haccess : target.access with
      | error fault => simp [haccess] at h
      | ok found =>
        simp only [haccess] at h
        by_cases hfile : found.leadsToFile = true
        · rw [if_pos hfile] at h
          obtain rfl := Option.some.inj h
          exact ⟨target, rfl, by simpa using hnul, haccess, hfile⟩
        · rw [if_neg hfile] at h
          cases h

/-- The file of a plain location is the one whose path is written. -/
theorem Location.IsPlain.filePath (h : IsPlain location) (hfile : file? location = some access) :
    access.filePath = FilePath.ofChars (path location) := by
  obtain ⟨target, htarget, -, haccess, -⟩ := file?_eq_some hfile
  rw [FileAccess.filePath, h.access_path htarget haccess, Utf8.lossy_ofText, String.toList_ofList]

end

/-! ## Opening -/

namespace Database

variable {disk disk' : Disk} {here place : Place} {location : String} {access : FileAccess}

theorem stepTo_eq_some {name : String} (h : stepTo disk here name = some place) :
    place = FilePath.stepPlace here name := by
  unfold stepTo at h
  simp only at h
  split at h
  · cases h
  · split at h
    · exact (Option.some.inj h).symm
    · exact (Option.some.inj h).symm
    · cases h

theorem foldlM_stepTo {names : List String}
    (h : names.foldlM (stepTo disk) here = some place) :
    place = names.foldl FilePath.stepPlace here := by
  induction names generalizing here with
  | nil => exact (Option.some.inj h).symm
  | cons name names ih =>
    rw [List.foldlM_cons] at h
    obtain ⟨next, hnext, hrest⟩ := Option.bind_eq_some_iff.1 h
    rw [ih hrest, stepTo_eq_some hnext, List.foldl_cons]

theorem fullPlace?_eq_some {path : FilePath} (h : fullPlace? disk here path = some place) :
    place = path.place here ∧ place ≠ [] := by
  unfold fullPlace? at h
  obtain ⟨found, hfound, h⟩ := Option.bind_eq_some_iff.1 h
  split at h
  · cases h
  · rename_i hsize
    obtain rfl := Option.some.inj h
    refine ⟨foldlM_stepTo hfound, ?_⟩
    rintro rfl
    exact hsize rfl

/-- Nothing is opened where there is no directory. -/
theorem openFile_nowhere (hne : place ≠ []) (h : ¬ disk.HasDirectory place.dropLast) :
    openFile disk access place
      = (disk, .error (connecting DatabaseFault.cannotOpen.message)) := by
  unfold openFile
  cases hlook : disk.look place with
  | ok node => exact absurd (Tree.hasDirectory_of_node? (Tree.look_ok hlook) hne) h
  | error fault =>
    have hnone : (disk.node? place.dropLast).any Tree.isDirectory = false :=
      Bool.eq_false_iff.2 h
    simp [hnone]

/-- A location that means a file is opened by opening this file. -/
theorem openAt_file (hmade : prepare disk here location = (disk', .ok ()))
    (hfile : Location.file? location = some access)
    (hplace : fullPlace? disk' here access.filePath = some place) :
    openAt disk here location = openFile disk' access place := by
  obtain ⟨target, htarget, hnul, haccess, hleads⟩ := Location.file?_eq_some hfile
  unfold FileAccess.leadsToFile at hleads
  simp only [Bool.and_eq_true, Bool.not_eq_true'] at hleads
  unfold openAt
  simp only [hmade, htarget]
  unfold openTarget
  rw [if_neg (by rw [hnul]; exact Bool.false_ne_true)]
  simp only [haccess]
  unfold openAccess
  rw [if_neg (by rw [hleads.1]; exact Bool.false_ne_true),
    if_neg (by rw [hleads.2]; exact Bool.false_ne_true)]
  unfold FileAccess.filePath at hplace
  simp only [hplace]

/-- The directories after the directory for a location has been made. -/
theorem prepare_ok (hhere : disk.Stands here)
    (hmade : prepare disk here location = (disk', .ok ())) (place : Place) :
    disk'.HasDirectory place ↔ disk.HasDirectory place ∨ Location.Passes here location place := by
  unfold prepare at hmade
  unfold Location.Passes
  cases hdirectory : Location.directory? location with
  | none =>
    rw [hdirectory] at hmade
    obtain ⟨rfl, -⟩ := Prod.ext_iff.1 hmade
    simp
  | some path =>
    rw [hdirectory] at hmade
    simpa using Tree.makeDirectories_ok hhere hmade place

/-- **Which files have a directory to lie in.** The file that a location means lies in a directory
exactly when there was one before or the written path passes it. A plain location means the file
that is written, and this one always lies in a directory. A file without a directory is not opened.
-/
theorem directory_made (hhere : disk.Stands here)
    (hmade : prepare disk here location = (disk', .ok ()))
    (hfile : Location.file? location = some access)
    (hplace : fullPlace? disk' here access.filePath = some place) :
    (disk'.HasDirectory place.dropLast ↔
      disk.HasDirectory place.dropLast ∨ Location.Passes here location place.dropLast) ∧
    (Location.IsPlain location →
      place = (FilePath.ofChars (Location.path location)).place here ∧
        disk'.HasDirectory place.dropLast) ∧
    (¬ disk'.HasDirectory place.dropLast → openAt disk here location
      = (disk', .error (connecting DatabaseFault.cannotOpen.message))) := by
  obtain ⟨hleads, hne⟩ := fullPlace?_eq_some hplace
  refine ⟨prepare_ok hhere hmade _, fun hplain => ?_, fun hnowhere => ?_⟩
  · rw [hplain.filePath hfile] at hleads
    refine ⟨hleads, ?_⟩
    rw [hleads]
    exact Tree.hasDirectory_parent fun above habove =>
      (prepare_ok hhere hmade above).2 (Or.inr (hplain.passes habove))
  · rw [openAt_file hmade hfile hplace]
    exact openFile_nowhere hne hnowhere

/-- A path with a directory, behind a scheme and before a parameter. -/
theorem directory_made_data :
    (Tree.empty : Disk).Stands [] ∧
      prepare .empty [] "sqlite://data/che.db?mode=rwc" = (.directory [("data", .empty)], .ok ()) ∧
      Location.file? "sqlite://data/che.db?mode=rwc"
        = some ⟨Bytes.ofText "data/che.db", .create, false, false, none⟩ ∧
      Location.IsPlain "sqlite://data/che.db?mode=rwc" ∧
      (Tree.directory [("data", .empty)] : Disk).HasDirectory ["data"] := by
  have hhere : (Tree.empty : Disk).Stands [] := ⟨rfl, List.not_mem_nil⟩
  have hmade : prepare .empty [] "sqlite://data/che.db?mode=rwc"
      = (.directory [("data", .empty)], .ok ()) := rfl
  have hfile : Location.file? "sqlite://data/che.db?mode=rwc"
      = some ⟨Bytes.ofText "data/che.db", .create, false, false, none⟩ := by decide +kernel
  have hplace : fullPlace? (.directory [("data", .empty)]) [] (FilePath.ofChars
      (Utf8.lossy (Bytes.ofText "data/che.db")).toList) = some ["data", "che.db"] := by decide
  have hplain : Location.IsPlain "sqlite://data/che.db?mode=rwc" :=
    ⟨by decide, by decide, by decide, by decide, by decide⟩
  have hends := directory_made hhere hmade hfile hplace
  exact ⟨hhere, hmade, hfile, hplain, (hends.2.1 hplain).2⟩

/-- The directory that is made is not always that of the file: what is written with a percent sign
is read for the file alone. -/
theorem directory_missed :
    prepare .empty [] "a%20b/x.db" = (.directory [("a%20b", .empty)], .ok ()) ∧
      Location.file? "a%20b/x.db"
        = some ⟨Bytes.ofText "a b/x.db", .create, false, false, none⟩ ∧
      ¬ (Tree.directory [("a%20b", .empty)] : Disk).HasDirectory ["a b"] ∧
      openAt .empty [] "a%20b/x.db" = (.directory [("a%20b", .empty)],
        .error (connecting DatabaseFault.cannotOpen.message)) := by
  have hmade : prepare .empty [] "a%20b/x.db" = (.directory [("a%20b", .empty)], .ok ()) := rfl
  have hfile : Location.file? "a%20b/x.db"
      = some ⟨Bytes.ofText "a b/x.db", .create, false, false, none⟩ := by decide +kernel
  have hplace : fullPlace? (.directory [("a%20b", .empty)]) [] (FilePath.ofChars
      (Utf8.lossy (Bytes.ofText "a b/x.db")).toList) = some ["a b", "x.db"] := by decide
  have hnowhere : ¬ (Tree.directory [("a%20b", .empty)] : Disk).HasDirectory ["a b"] := by decide
  refine ⟨hmade, hfile, hnowhere, ?_⟩
  rw [openAt_file hmade hfile hplace]
  exact openFile_nowhere (List.cons_ne_nil _ _) hnowhere

end Database

end CloudIde
