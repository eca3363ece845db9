import Reckoner.Calendar.Stamp
import Reckoner.Store

/-!
The log as text. Each record that is grave enough for the verbosity asked for is written on a line
with its time, level and source; the lines of a longer message are indented.
-/

namespace Reckoner

/-- Where the log goes. -/
inductive LogTarget where
  | nowhere
  /-- The messages of the program. -/
  | messages
  /-- The end of a file. -/
  | file (path : Text)
  deriving DecidableEq, Repr

/-- A log. -/
structure Log where
  target : LogTarget
  verbosity : Nat
  deriving DecidableEq, Repr

namespace Log

/-- The columns that a level takes. -/
def levelColumns : Nat := 5

/-- The blanks before the further lines of a message. -/
def indentation : Nat := 4

/-- A message with its further lines indented. -/
def indented (message : Text) : Text :=
  message.flatMap (fun c => if c = '\n' then c :: Text.copies indentation ' ' else [c])

/-- The line of a record. -/
def lineOf (now : Moment) (record : Record) : Text :=
  let level := record.level.name
  ['['] ++ Stamp.text ⟨now.seconds, 0⟩ ++ [' '] ++ level
    ++ Text.copies (levelColumns - level.length) ' ' ++ [' '] ++ record.source.name ++ "] ".toList
    ++ indented record.message ++ ['\n']

/-- The lines of the records that are kept. -/
def text (log : Log) (now : Moment) (records : List Record) : Text :=
  (records.filter (fun record => record.level.isKept log.verbosity)).flatMap (lineOf now)

/-- The log in a file, which is made if it is not there. Where that fails there is no log, so that
nothing else is written over a screen. -/
def openFile (disk : Disk) (path : Text) (verbosity : Nat) : Log × Disk :=
  let (made, _) := disk.makeParent path
  match made.append path [] with
  | .ok begun => (⟨.file path, verbosity⟩, begun)
  | .error _ => (⟨.nowhere, verbosity⟩, made)

/-- Writes the records of a store to the log, and what goes to the messages beside it. -/
def flush (log : Log) (now : Moment) (store : Store) : Store × Text :=
  let emptied : Store := { store with journal := [] }
  let written := log.text now store.journal
  match log.target with
  | .nowhere => (emptied, [])
  | .messages => (emptied, written)
  | .file path =>
    ({ emptied with disk := (store.disk.append path written).toOption.getD store.disk }, [])

end Log

end Reckoner
