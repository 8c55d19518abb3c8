/-!
# Trees of files

A tree is a file or a directory with named trees in it. A place in it is the list of names from its
root. A path is walked name by name: every name but the last has to lead to a directory, two points
lead back, and a name has at most 255 bytes.

* `Tree.node?` gives what stands at a place, `Tree.look` also says why nothing does.
* `Tree.put` and `Tree.remove` change what stands at one place.
* `Tree.makeDirectories` makes a directory and those above it that are missing.
-/

namespace CloudIde

/-- What is refused in a tree of files. -/
inductive FileFault where
  /-- Nothing is there. -/
  | missing
  /-- Something is there already. -/
  | taken
  /-- A file stands where a directory is needed. -/
  | notDirectory
  /-- A name or the whole path is too long. -/
  | tooLong
  /-- The path holds a NUL character. -/
  | nul
  deriving DecidableEq, Repr

/-- What is refused, in words. -/
def FileFault.message : FileFault → String
  | missing => "No such file or directory (os error 2)"
  | taken => "File exists (os error 17)"
  | notDirectory => "Not a directory (os error 20)"
  | tooLong => "File name too long (os error 36)"
  | nul => "file name contained an unexpected NUL byte"

/-- A place in a tree: the names from the root. -/
abbrev Place := List String

/-- A path: names that are walked from the root or from where one is. -/
structure FilePath where
  fromRoot : Bool
  names : List String
  /-- The number of bytes in which it is written. -/
  size : Nat
  deriving DecidableEq, Repr

/-- A file with a content of some type, or a directory. -/
inductive Tree (γ : Type) where
  | file (content : γ)
  | directory (entries : List (String × Tree γ))

namespace Tree

variable {γ : Type}

/-- The tree without files. -/
def empty : Tree γ := directory []

instance : Inhabited (Tree γ) := ⟨empty⟩

/-- Whether the tree is a directory. -/
def isDirectory : Tree γ → Bool
  | file _ => false
  | directory _ => true

/-- What stands in the directory under a name. -/
def child? (name : String) : Tree γ → Option (Tree γ)
  | file _ => none
  | directory entries => (entries.find? fun entry => entry.1 = name).map (·.2)

/-- The directory with something or nothing under a name. -/
def withChild (name : String) (child : Option (Tree γ)) : Tree γ → Tree γ
  | file content => file content
  | directory entries =>
    directory (child.toList.map (fun t => (name, t)) ++ entries.filter fun entry => entry.1 ≠ name)

/-- What stands at a place. -/
def node? : Tree γ → Place → Option (Tree γ)
  | t, [] => some t
  | t, name :: rest => (t.child? name).bind fun t => t.node? rest

/-- The tree with something put at a place; directories that lead to it are made. -/
def put : Tree γ → Place → Tree γ → Tree γ
  | _, [], node => node
  | t, name :: rest, node =>
    t.withChild name (some (((t.child? name).getD empty).put rest node))

/-- The tree without what stands at a place. -/
def remove : Tree γ → Place → Tree γ
  | t, [] => t
  | t, [name] => t.withChild name none
  | t, name :: next :: rest =>
    match t.child? name with
    | none => t
    | some child => t.withChild name (some (child.remove (next :: rest)))

/-- The most bytes that a name may have. -/
def nameLimit : Nat := 255

/-- The most bytes that a path may have. -/
def pathLimit : Nat := 4095

/-- What stands in the tree under a name, unless it cannot be looked up. -/
def step (t : Tree γ) (name : String) : Except FileFault (Tree γ) :=
  if !t.isDirectory then .error .notDirectory
  else if name.utf8ByteSize > nameLimit then .error .tooLong
  else match t.child? name with
    | none => .error .missing
    | some child => .ok child

/-- What stands at a place, or why nothing does. -/
def look (t : Tree γ) (place : Place) : Except FileFault (Tree γ) := place.foldlM step t

/-- The way from the root to where one is: the names with what they lead to, the last one first. -/
abbrev Way (γ : Type) := List (String × Tree γ)

/-- Where a way ends. -/
def endOf (t : Tree γ) (way : Way γ) : Tree γ := (way.head?.map (·.2)).getD t

/-- The way on by a name, which has to lead to a directory. -/
def enter (t : Tree γ) (way : Way γ) (name : String) : Except FileFault (Way γ) :=
  if name = ".." then .ok way.tail
  else do
    let child ← (t.endOf way).step name
    if child.isDirectory then .ok ((name, child) :: way) else .error .notDirectory

/-- The way by some names from a place. -/
def walk (t : Tree γ) (here : Place) (names : List String) : Except FileFault (Way γ) := do
  names.foldlM t.enter (← here.foldlM t.enter [])

/-- Makes a directory; all but the last name have to lead to one. -/
def makeDirectory (t : Tree γ) (here : Place) (names : List String) :
    Except FileFault (Tree γ) := do
  match names.getLast? with
  | none => .error .taken
  | some name =>
    let way ← t.walk here names.dropLast
    if name = ".." then .error .taken
    else match (t.endOf way).step name with
      | .ok _ => .error .taken
      | .error .missing => .ok (t.put ((way.map (·.1)).reverse ++ [name]) empty)
      | .error fault => .error fault

/-- What comes of an attempt to make a directory that failed: nothing bad when it is there already.
-/
def afterFault (t : Tree γ) (here : Place) (names : List String) (fault : FileFault) :
    Except FileFault Unit :=
  if fault = .taken then
    match t.walk here names with
    | .ok _ => .ok ()
    | .error _ => .error fault
  else .error fault

/-- Makes a directory and those above it that are missing. The names stand in reverse order. What
was made stays when a later step fails. -/
def makeDirectoriesFrom (t : Tree γ) (here : Place) : List String → Tree γ × Except FileFault Unit
  | [] => (t, .ok ())
  | name :: above =>
    let names := (name :: above).reverse
    match t.makeDirectory here names with
    | .ok t => (t, .ok ())
    | .error .missing =>
      match makeDirectoriesFrom t here above with
      | (t, .error fault) => (t, .error fault)
      | (t, .ok ()) =>
        match t.makeDirectory here names with
        | .ok t => (t, .ok ())
        | .error fault => (t, t.afterFault here names fault)
    | .error fault => (t, t.afterFault here names fault)

mutual

/-- The paths of all that stands in a tree, each behind `above`; directories end in a slash. -/
def pathsFrom (above : String) : Tree γ → List String
  | file _ => []
  | directory entries => entryPaths above entries

/-- The paths of some entries of a directory. -/
def entryPaths (above : String) : List (String × Tree γ) → List String
  | [] => []
  | (name, file _) :: rest => (above ++ name) :: entryPaths above rest
  | (name, directory entries) :: rest =>
    let path := above ++ name ++ "/"
    path :: (entryPaths path entries ++ entryPaths above rest)

end

/-- The paths of all that stands in a tree. -/
def paths (t : Tree γ) : List String := t.pathsFrom ""

end Tree

namespace FilePath

/-- The place where a path starts. -/
def start (path : FilePath) (here : Place) : Place := if path.fromRoot then [] else here

/-- The place after one more name, when two points take the name before them back. -/
def stepPlace (place : Place) (name : String) : Place :=
  if name = ".." then place.dropLast else place ++ [name]

/-- The place that the names lead to when two points take the name before them back. -/
def place (path : FilePath) (here : Place) : Place := path.names.foldl stepPlace (path.start here)

end FilePath

/-- Makes the directory of a path and those above it that are missing, where one is at `here`. -/
def Tree.makeDirectories {γ : Type} (t : Tree γ) (here : Place) (path : FilePath) :
    Tree γ × Except FileFault Unit :=
  if path.names.any fun name => '\x00' ∈ name.toList then (t, .error .nul)
  else if path.size > Tree.pathLimit then (t, .error .tooLong)
  else t.makeDirectoriesFrom (path.start here) path.names.reverse

end CloudIde
