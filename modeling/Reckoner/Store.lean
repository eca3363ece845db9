import Reckoner.Disk
import Reckoner.Journal

/-!
What outlasts a call: the disk with its files, and the records that were logged, oldest first.
-/

namespace Reckoner

/-- What was being done to a file. -/
inductive FileAction where
  | creating
  | writing
  | exporting
  deriving DecidableEq, Repr

/-- A file operation that failed, with the path it was asked for. -/
structure FileError where
  action : FileAction
  path : Text
  fault : FileFault
  deriving DecidableEq, Repr

/-- The wording of a failed file operation. -/
def FileError.message (error : FileError) : Text :=
  (match error.action with
    | .creating => "creating ".toList
    | .writing => "writing ".toList
    | .exporting => "exporting history to ".toList)
  ++ error.path ++ ": ".toList ++ error.fault.message

namespace Disk

/-- Makes the directory that a file lies in, and those above it. -/
def makeParent (disk : Disk) (path : Text) : Disk × Except FileError Unit :=
  match Path.parent? path with
  | none => (disk, .ok ())
  | some directory =>
    match disk.makeDirectories directory with
    | (made, .ok ()) => (made, .ok ())
    | (made, .error fault) => (made, .error ⟨.creating, directory, fault⟩)

/-- Writes a file for which the directory is made if need be. -/
def save (disk : Disk) (path content : Text) : Disk × Except FileError Unit :=
  match disk.makeParent path with
  | (made, .error error) => (made, .error error)
  | (made, .ok ()) =>
    match made.write path content with
    | .ok written => (written, .ok ())
    | .error fault => (made, .error ⟨.writing, path, fault⟩)

end Disk

/-- The disk and the log. -/
structure Store where
  disk : Disk := {}
  journal : List Record := []
  deriving DecidableEq, Repr

namespace Store

/-- The store with one more record in its log. -/
def note (store : Store) (level : Level) (source : Source) (message : Text) : Store :=
  { store with journal := store.journal ++ [⟨level, source, message⟩] }

/-- The store with more records in its log. -/
def noteAll (store : Store) (records : List Record) : Store :=
  { store with journal := store.journal ++ records }

/-- The store with another disk. -/
def withDisk (store : Store) (disk : Disk) : Store := { store with disk := disk }

end Store

end Reckoner
