import Reckoner.Disk.Path

/-!
The files that the program reads and writes. A disk holds text files and directories by their
places, which are lists of names from the top, and knows the directory that relative paths start
from. A path is followed name by name, and every operation fails for a stated cause.
-/

namespace Reckoner

/-- Why an operation on files fails. -/
inductive FileFault where
  | notFound
  | alreadyExists
  | notDirectory
  | isDirectory
  | nameTooLong
  /-- The path holds the character that ends paths. -/
  | badName
  deriving DecidableEq, Repr

/-- The wording of a fault. -/
def FileFault.message : FileFault → Text
  | .notFound => "No such file or directory (os error 2)".toList
  | .alreadyExists => "File exists (os error 17)".toList
  | .notDirectory => "Not a directory (os error 20)".toList
  | .isDirectory => "Is a directory (os error 21)".toList
  | .nameTooLong => "File name too long (os error 36)".toList
  | .badName => "file name contained an unexpected NUL byte".toList

/-- The names that lead to a file or a directory from the top. -/
abbrev Place := List Text

/-- What is at a place. -/
inductive DiskEntry where
  | file (content : Text)
  | directory
  deriving DecidableEq, Repr

/-- The entries of a disk, in the order in which they were made. -/
structure Disk where
  entries : List (Place × DiskEntry) := []
  /-- Where relative paths start. -/
  working : Place := []
  deriving DecidableEq, Repr

namespace Disk

/-- What a path leads to. -/
inductive Target where
  | present (place : Place) (entry : DiskEntry)
  /-- A place in an existing directory where nothing is, and whether the path asks for a directory
  there. -/
  | absent (place : Place) (asDirectory : Bool)

/-- What is at a place. At the top there is always a directory. -/
def get? (disk : Disk) (place : Place) : Option DiskEntry :=
  if place = [] then some .directory else disk.entries.lookup place

/-- The entries with one of them changed, or a new one at the end. -/
def putEntry (place : Place) (entry : DiskEntry) :
    List (Place × DiskEntry) → List (Place × DiskEntry)
  | [] => [(place, entry)]
  | (other, old) :: rest =>
    if other = place then (place, entry) :: rest else (other, old) :: putEntry place entry rest

/-- The disk with an entry at a place. -/
def put (disk : Disk) (place : Place) (entry : DiskEntry) : Disk :=
  { disk with entries := putEntry place entry disk.entries }

/-- Follows names from a place. -/
def follow (disk : Disk) : Place → List Text → Except FileFault Target
  | here, [] =>
    match disk.get? here with
    | some entry => .ok (.present here entry)
    | none => .error .notFound
  | here, name :: rest =>
    match disk.get? here with
    | none => .error .notFound
    | some (.file _) => .error .notDirectory
    | some .directory =>
      if name = [] || name = ['.'] then follow disk here rest
      else if name = ['.', '.'] then follow disk here.dropLast rest
      else if Path.maxNameBytes < Path.byteCount name then .error .nameTooLong
      else if (disk.get? (here ++ [name])).isSome then follow disk (here ++ [name]) rest
      else if rest.all (· = []) then .ok (.absent (here ++ [name]) (rest ≠ []))
      else .error .notFound

/-- What a path leads to. -/
def find (disk : Disk) (path : Text) : Except FileFault Target :=
  if path = [] then .error .notFound
  else if path.contains '\x00' then .error .badName
  else if Path.maxPathBytes < Path.byteCount path then .error .nameTooLong
  else disk.follow (if Path.isAbsolute path then [] else disk.working) (Path.names path)

/-- Whether a path leads to a file or a directory. -/
def exists? (disk : Disk) (path : Text) : Bool :=
  match disk.find path with
  | .ok (.present _ _) => true
  | _ => false

/-- Whether a path leads to a directory. -/
def isDirectory (disk : Disk) (path : Text) : Bool :=
  match disk.find path with
  | .ok (.present _ .directory) => true
  | _ => false

/-- The content of a file. -/
def read (disk : Disk) (path : Text) : Except FileFault Text := do
  match ← disk.find path with
  | .present _ (.file content) => .ok content
  | .present _ .directory => .error .isDirectory
  | .absent _ _ => .error .notFound

/-- The file at a path with its content changed; nothing is in a file that is not there yet. -/
def change (disk : Disk) (path : Text) (alter : Text → Text) : Except FileFault Disk := do
  match ← disk.find path with
  | .present place (.file content) => .ok (disk.put place (.file (alter content)))
  | .present _ .directory | .absent _ true => .error .isDirectory
  | .absent place false => .ok (disk.put place (.file (alter [])))

/-- The disk with a text in a file, which is made if need be. -/
def write (disk : Disk) (path content : Text) : Except FileFault Disk :=
  disk.change path (fun _ => content)

/-- The disk with a text at the end of a file, which is made if need be. -/
def append (disk : Disk) (path content : Text) : Except FileFault Disk :=
  disk.change path (· ++ content)

/-- The disk with a new directory. -/
def makeDirectory (disk : Disk) (path : Text) : Except FileFault Disk := do
  match ← disk.find path with
  | .present _ _ => .error .alreadyExists
  | .absent place _ => .ok (disk.put place .directory)

/-- Makes a directory and the ones above it, given the steps to it, last one first. What was made
before a failure stays. -/
def makeSteps (disk : Disk) (absolute : Bool) : List Text → Disk × Except FileFault Unit
  | [] => (disk, .ok ())
  | step :: above =>
    let path := Path.ofSteps absolute (step :: above).reverse
    match disk.makeDirectory path with
    | .ok made => (made, .ok ())
    | .error .notFound =>
      match makeSteps disk absolute above with
      | (made, .error fault) => (made, .error fault)
      | (made, .ok ()) =>
        match made.makeDirectory path with
        | .ok all => (all, .ok ())
        | .error fault => (made, if made.isDirectory path then .ok () else .error fault)
    | .error fault => (disk, if disk.isDirectory path then .ok () else .error fault)

/-- Makes a directory and those above it, as far as they are not there. -/
def makeDirectories (disk : Disk) (path : Text) : Disk × Except FileFault Unit :=
  disk.makeSteps (Path.isAbsolute path) (Path.steps path).reverse

/-- The files below the working directory by their paths from there. -/
def files (disk : Disk) : List (Text × Text) :=
  disk.entries.filterMap (fun (place, entry) =>
    match entry with
    | .directory => none
    | .file content =>
      if disk.working.isPrefixOf place then
        some (Text.join ['/'] (place.drop disk.working.length), content)
      else none)

/-! What an entry that was just put says of the rest. -/

theorem lookup_putEntry (place other : Place) (entry : DiskEntry)
    (entries : List (Place × DiskEntry)) :
    (putEntry place entry entries).lookup other =
      if other = place then some entry else entries.lookup other := by
  induction entries with
  | nil =>
    by_cases same : other = place
    · simp [putEntry, same]
    · simp [putEntry, List.lookup_cons, same, beq_false_of_ne same]
  | cons first rest ih =>
    obtain ⟨old, was⟩ := first
    rw [putEntry]
    by_cases hit : old = place
    · subst hit
      by_cases same : other = old
      · simp [same]
      · simp [List.lookup_cons, same, beq_false_of_ne same]
    · rw [if_neg hit]
      by_cases here : other = old
      · subst here
        simp [hit]
      · simp only [List.lookup_cons, beq_false_of_ne here]
        exact ih

/-- After an entry is put at a place below the top, it is found there, and every other place is as
it was. -/
theorem get?_put (disk : Disk) {place : Place} (below : place ≠ []) (entry : DiskEntry)
    (other : Place) :
    (disk.put place entry).get? other = if other = place then some entry else disk.get? other := by
  unfold get? put
  simp only [lookup_putEntry]
  by_cases top : other = []
  · subst top
    simp [below.symm]
  · simp [top]

end Disk

end Reckoner
