import Reckoner.Calendar.Stamp
import Reckoner.Json.Reader
import Reckoner.Json.Writer
import Reckoner.Store

/-!
The history of calculations, newest first and no longer than a limit. Its file, if it has one, is
written anew after every change. Identifiers are milliseconds, raised so that each is greater than
that of the item before it.
-/

namespace Reckoner

/-- A calculation in the history. -/
structure HistoryItem where
  id : Int
  expression : Text
  result : Float
  moment : Moment
  deriving DecidableEq

/-- The history. -/
structure History where
  /-- Newest first. -/
  items : List HistoryItem := []
  /-- The most items that are kept. -/
  limit : Nat
  /-- The path of the file, if the history is kept in one. -/
  path : Option Text := none
  deriving DecidableEq

namespace HistoryItem

/-- The names of the fields in the file. -/
def fieldNames : List Text :=
  ["id".toList, "expression".toList, "result".toList, "timestamp".toList]

/-- An item as a value. -/
def toJson (item : HistoryItem) : Json.Value :=
  Json.Value.ofFields
    [("id".toList, .number (.ofInt item.id)),
     ("expression".toList, .ofText item.expression),
     ("result".toList, .ofFloat item.result),
     ("timestamp".toList, .ofText (Stamp.text item.moment))]

/-- The item that a value describes. -/
def ofJson? (value : Json.Value) : Option HistoryItem := do
  match ← value.record? fieldNames with
  | [some (.number id), some (.string expression), some (.number result),
      some (.string timestamp)] =>
    return {
      id := ← id.int64?
      expression := ← expression.text?
      result := ← result.float?
      moment := ← timestamp.text? >>= Stamp.read? }
  | _ => none

/-- An item as it is exported, for people to read. -/
def toExport (item : HistoryItem) : Json.Value :=
  Json.Value.ofFields
    [("expression".toList, .ofText item.expression),
     ("result".toList, .ofFloat item.result),
     ("date".toList, .ofText item.moment.dateTimeText)]

end HistoryItem

namespace History

/-- An empty history without a file. -/
def inMemory (limit : Nat) : History := { limit := limit }

/-- The items as a value. -/
def itemsToJson (items : List HistoryItem) : Json.Value := .array (items.map HistoryItem.toJson)

/-- The items that a value describes. -/
def itemsOfJson? : Json.Value → Option (List HistoryItem)
  | .array values => values.mapM HistoryItem.ofJson?
  | _ => none

/-- The text of the history file. -/
def fileText (items : List HistoryItem) : Text := (itemsToJson items).compact

/-- The items that a file holds. -/
def ofFile? (content : Text) : Option (List HistoryItem) := Json.read? content >>= itemsOfJson?

/-- The text of an exported history. -/
def exportText (items : List HistoryItem) : Text :=
  Json.Value.pretty (.array (items.map HistoryItem.toExport))

/-- What is logged of a file that cannot be used. -/
def unreadableMessage (path cause : Text) : Text :=
  "Failed to load history: ".toList ++ cause ++ path

/-- The items of a file. One that is not there holds none, and so does one that cannot be used, of
which a record is made. -/
def readItems (store : Store) (path : Text) : List HistoryItem × Store :=
  if !store.disk.exists? path then ([], store)
  else
    match store.disk.read path with
    | .error _ =>
      ([], store.note .error .history (unreadableMessage path "reading ".toList))
    | .ok content =>
      match ofFile? content with
      | some items => (items, store)
      | none => ([], store.note .error .history (unreadableMessage path "parsing ".toList))

/-- The history that is kept in a file. -/
def load (store : Store) (path : Text) (limit : Nat) : History × Store :=
  let (items, store) := readItems store path
  let items := items.take limit
  (⟨items, limit, some path⟩,
    store.note .debug .history
      ("loaded ".toList ++ Text.ofNat items.length ++ " history items from ".toList ++ path))

/-- Writes the history to its file, if it has one. -/
def save (history : History) (disk : Disk) : Disk × Except FileError Unit :=
  match history.path with
  | none => (disk, .ok ())
  | some path => disk.save path (fileText history.items)

/-- Writes the history to its file; a failure is only logged. -/
def persist (history : History) (store : Store) : Store :=
  match history.save store.disk with
  | (disk, .ok ()) => store.withDisk disk
  | (disk, .error error) =>
    (store.withDisk disk).note .error .history
      ("Failed to save history: ".toList ++ error.message)

/-- The greatest identifier. -/
def maxId : Int := Json.Numeral.maxInt64

/-- The least identifier of an item that follows the given ones. -/
def nextId : List HistoryItem → Int
  | [] => Json.Numeral.minInt64 + 1
  | newest :: _ => min (newest.id + 1) maxId

/-- The history with one more calculation, cut to its limit. -/
def record (history : History) (expression : Text) (result : Float) (moment : Moment) : History :=
  let item : HistoryItem := ⟨max moment.millis (nextId history.items), expression, result, moment⟩
  { history with items := (item :: history.items).take history.limit }

/-- Adds a calculation and writes the file. -/
def add (history : History) (store : Store) (expression : Text) (result : Float) (moment : Moment) :
    History × Store :=
  let history := history.record expression result moment
  (history, history.persist store)

/-- Forgets every calculation and writes the file. -/
def clear (history : History) (store : Store) : History × Store :=
  let history := { history with items := [] }
  (history, history.persist store)

/-- Writes a copy for people to read, and says how many items it holds. -/
def exportTo (history : History) (store : Store) (path : Text) : Store × Except FileError Nat :=
  let count := history.items.length
  match store.disk.write path (exportText history.items) with
  | .error fault => (store, .error ⟨.exporting, path, fault⟩)
  | .ok disk =>
    ((store.withDisk disk).note .info .history
      ("exported ".toList ++ Text.ofNat count ++ " history items to ".toList ++ path), .ok count)

end History

end Reckoner
