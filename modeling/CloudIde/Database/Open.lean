import CloudIde.Database.Location
import CloudIde.Database.Migration

/-!
# Opening a database

A database lies in a file or in memory. To open one, the directory for its location is made, the
location is read, the file is opened (and made when it is missing), and the migrations are run. The
first step that fails is reported; what was made before it stays.

A file of at most one byte holds an empty database; a longer one holds a database or something else.
A database keeps its rows in its file when it is closed; one in memory loses them. Two files may
stand beside that of a database, named after it: its journal and its log. What they hold belongs to
writes that were broken off, and is cleared away before the database is used.
-/

namespace CloudIde

/-- What a file holds. -/
inductive FileContent where
  /-- Bytes, which are no database that anything can be read from. -/
  | bytes (content : Bytes)
  /-- A database that no migration has changed, with its tables. -/
  | foreign (tables : List FoundTable)
  /-- A database with what is stored in it. -/
  | kept (store : Store)

namespace FileContent

/-- Whether a database in the file has nothing in it. -/
def isEmptyDatabase : FileContent → Bool
  | bytes content => content.length ≤ 1
  | _ => false

/-- Whether the file has bytes, and the first one is not zero. -/
def startsWithSomething : FileContent → Bool
  | bytes content => content.head?.any (· ≠ 0)
  | _ => true

/-- Whether the file has no bytes. -/
def isBare : FileContent → Bool
  | bytes content => content.isEmpty
  | _ => false

end FileContent

/-- The files that databases lie in. -/
abbrev Disk := Tree FileContent

/-- An open database. -/
structure Database where
  /-- The place of its file, unless it lies in memory. -/
  place : Option Place
  store : Store

namespace Database

/-! ## Places -/

/-- The most bytes that the place of a database file may have, with a slash before each name. -/
def placeLimit : Nat := 504

/-- The most bytes that a place on the way may have. -/
def wayLimit : Nat := 511

/-- The bytes of a place, with a slash before each name. -/
def placeSize (place : Place) : Nat := 
  place.foldl (fun size name => size + (name.utf8ByteSize + 1)) 0

/-- The place after one more name. What stands there need not be looked up when nothing does. -/
def stepTo (disk : Disk) (place : Place) (name : String) : Option Place :=
  let place := FilePath.stepPlace place name
  if placeSize place > wayLimit then none
  else match disk.look place with
    | .ok _ | .error .missing => some place
    | .error _ => none

/-- The place of the file that a path leads to, when there can be one. -/
def fullPlace? (disk : Disk) (here : Place) (path : FilePath) : Option Place := do
  let place ← path.names.foldlM (stepTo disk) (path.start here)
  if place.isEmpty || placeSize place > placeLimit then none else some place

/-- The place beside another one, named after it. -/
def besides (place : Place) (ending : String) : Place :=
  place.dropLast ++ place.getLast?.toList.map fun name => name ++ ending

/-- The place of the journal of the database in a file. -/
def journalOf (place : Place) : Place := besides place "-journal"

/-- The place of the log of the database in a file. -/
def logOf (place : Place) : Place := besides place "-wal"

/-! ## Files beside a database -/

/-- What stands at a place, but for files without bytes. -/
def solid? (disk : Disk) (place : Place) : Option (Tree FileContent) :=
  match disk.look place with
  | .ok (.file content) => if content.isBare then none else some (.file content)
  | .ok node => some node
  | .error _ => none

/-- Clears the journal beside a database away, which may have nothing in it. -/
def clearJournal (disk : Disk) (place : Place) (isEmpty readOnly : Bool) :
    Disk × Option DatabaseFault :=
  match solid? disk (journalOf place) with
  | none => (disk, none)
  | some (.directory _) => (disk, if isEmpty then none else some (.disk 266))
  | some (.file content) =>
    if isEmpty then (if readOnly then disk else disk.remove (journalOf place), none)
    else if !content.startsWithSomething then (disk, none)
    else if readOnly then (disk, some .rollbackNeeded)
    else (disk.remove (journalOf place), none)

/-- Clears the log beside a database away when the database has nothing in it. -/
def clearLog (disk : Disk) (place : Place) (isEmpty : Bool) : Disk × Option DatabaseFault :=
  match solid? disk (logOf place), isEmpty with
  | none, _ => (disk, none)
  | some (.directory _), true => (disk, some (.disk 2570))
  | some (.directory _), false => (disk, some .cannotOpen)
  | some (.file _), true => (disk.remove (logOf place), none)
  | some (.file _), false => (disk, none)

/-- Clears away what stands beside a database. -/
def clearBeside (disk : Disk) (place : Place) (isEmpty readOnly : Bool) :
    Disk × Option DatabaseFault :=
  match clearJournal disk place isEmpty readOnly with
  | (disk, some fault) => (disk, some fault)
  | (disk, none) => clearLog disk place isEmpty

/-- Whether a journal can be written beside a database. -/
def canKeepJournal (disk : Disk) (place : Place) : Bool :=
  match disk.look (journalOf place) with
  | .ok node => !node.isDirectory
  | .error fault => fault = .missing

/-! ## Opening -/

/-- A failure to connect. -/
def connecting (text : String) : Failure := .opening ("Failed to connect to database: " ++ text)

/-- Opens a database that lies in memory. -/
def openInMemory (access : FileAccess) : Except Failure Database := do
  migrateAll ⟨[], none, if access.mode = .read then some .readOnly else none⟩
  .ok ⟨none, .empty⟩

/-- Runs the migrations on the database in a file. -/
def migrateFile (disk : Disk) (access : FileAccess) (place : Place) (content : FileContent) :
    Disk × Except Failure Database :=
  let (disk, fault) :=
    if access.immutable then (disk, none)
    else clearBeside disk place content.isEmptyDatabase (access.mode = .read)
  let unwritable : Option DatabaseFault :=
    if access.mode = .read || access.immutable then some .readOnly
    else if canKeepJournal disk place then none
    else some .cannotOpen
  let run (tables : List FoundTable) (unreadable : Option DatabaseFault) (store : Store) :
      Disk × Except Failure Database :=
    let untouched : Untouched := ⟨tables, unreadable, unwritable⟩
    (if writesSomething untouched then disk.remove (journalOf place) else disk, do
      migrateAll untouched
      .ok ⟨some place, store⟩)
  match content with
  | .kept store => (disk, .ok ⟨some place, store⟩)
  | .foreign tables => run tables fault (.ofFound tables)
  | .bytes _ =>
    run [] (fault <|> if content.isEmptyDatabase then none else some .notADatabase) .empty

/-- Opens the database in the file at a place. -/
def openFile (disk : Disk) (access : FileAccess) (place : Place) :
    Disk × Except Failure Database :=
  let refuse (fault : DatabaseFault) : Disk × Except Failure Database :=
    (disk, .error (connecting fault.message))
  match disk.look place with
  | .ok (.file content) => migrateFile disk access place content
  | .ok (.directory _) => refuse (if access.mode = .read then .disk 266 else .cannotOpen)
  | .error _ =>
    if access.mode = .create && ((disk.node? place.dropLast).any Tree.isDirectory) then
      migrateFile (disk.put place (.file (.bytes []))) access place (.bytes [])
    else refuse .cannotOpen

/-- The systems of files that a location may name. -/
def knownFiles : List String := ["unix", "unix-none", "unix-dotfile", "unix-excl", "memdb"]

/-- Opens what is asked for; paths that do not start at the root start at `here`. -/
def openAccess (disk : Disk) (here : Place) (access : FileAccess) :
    Disk × Except Failure Database :=
  let path := Utf8.lossy access.path
  let files := access.files.map Utf8.lossy
  if files.any fun name => name ∉ knownFiles then
    (disk, .error (connecting (UriFault.noSuchFiles (files.getD "")).message))
  else if access.inMemory || path.isEmpty || path.toList = Location.memory
      || files = some "memdb" then
    (disk, openInMemory access)
  else match fullPlace? disk here (FilePath.ofChars path.toList) with
    | some place => openFile disk access place
    | none => (disk, .error (connecting DatabaseFault.cannotOpen.message))

/-- Opens what a location means; paths that do not start at the root start at `here`. -/
def openTarget (disk : Disk) (here : Place) (target : Target) : Disk × Except Failure Database :=
  if !target.isUri && '\x00' ∈ target.path.toList then
    (disk, .error (connecting
      "error communicating with database: filename passed to SQLite must not contain nul bytes"))
  else match target.access with
    | .ok access => openAccess disk here access
    | .error fault => (disk, .error (connecting fault.message))

/-- Makes the directory for a location, if it needs one. -/
def prepare (disk : Disk) (here : Place) (location : String) : Disk × Except FileFault Unit :=
  match Location.directory? location with
  | none => (disk, .ok ())
  | some path => disk.makeDirectories here path

/-- Opens the database at a location; paths that do not start at the root start at `here`. Gives the
files as they are afterwards. -/
def openAt (disk : Disk) (here : Place) (location : String) : Disk × Except Failure Database :=
  match prepare disk here location with
  | (disk, .error fault) =>
    (disk, .error (.opening ("Failed to create db directory: " ++ fault.message)))
  | (disk, .ok ()) =>
    match Target.ofLocation location with
    | .error fault => (disk, .error (.opening ("Invalid database path: " ++ fault.message)))
    | .ok target => openTarget disk here target

/-- Closes a database, and keeps its rows when it lies in a file. -/
def close (disk : Disk) (database : Database) : Disk :=
  match database.place with
  | some place => disk.put place (.file (.kept database.store))
  | none => disk

end Database

end CloudIde
