import Reckoner.Json.Reader
import Reckoner.Json.Writer
import Reckoner.Store
import Reckoner.Theme

/-!
Settings and their file. In the file every field may be missing and then has its usual value; a
file that cannot be read or understood is passed over with a warning.
-/

namespace Reckoner

/-- What a user may choose. -/
structure Settings where
  theme : Theme := Theme.standard
  /-- The most calculations that the history keeps. -/
  maxHistory : Nat := 50
  /-- Whether the history is kept in a file. -/
  persistHistory : Bool := true
  deriving DecidableEq, Repr

namespace Settings

/-- The settings of a new installation. -/
def standard : Settings := {}

/-- The names of the fields in the file. -/
def fieldNames : List Text :=
  ["theme".toList, "max_history".toList, "persist_history".toList]

/-- A theme in the file: its name, or its name as the only key of an object. -/
def themeOfJson? : Json.Value → Option Theme
  | .string content => do
    let name ← content.text?
    Theme.all.find? (fun theme => theme.name = name)
  | .object [(key, .null)] => do
    let name ← key.text?
    Theme.all.find? (fun theme => theme.name = name)
  | _ => none

/-- A field that may be missing. -/
def fieldOr {α : Type} (usual : α) (decode : Json.Value → Option α) :
    Option Json.Value → Option α
  | none => some usual
  | some value => decode value

/-- A count in the file. -/
def countOfJson? : Json.Value → Option Nat
  | .number numeral => numeral.nat64?
  | _ => none

/-- The settings that a value describes. -/
def ofJson? (value : Json.Value) : Option Settings := do
  match ← value.record? fieldNames with
  | [theme, maxHistory, persistHistory] =>
    return {
      theme := ← fieldOr standard.theme themeOfJson? theme
      maxHistory := ← fieldOr standard.maxHistory countOfJson? maxHistory
      persistHistory := ← fieldOr standard.persistHistory Json.Value.bool? persistHistory }
  | _ => none

/-- The settings as a value. -/
def toJson (settings : Settings) : Json.Value :=
  Json.Value.ofFields
    [("theme".toList, .ofText settings.theme.name),
     ("max_history".toList, .number (.ofNat settings.maxHistory)),
     ("persist_history".toList, .bool settings.persistHistory)]

/-- The text of the settings file. -/
def fileText (settings : Settings) : Text := settings.toJson.pretty

/-- The settings that a file holds. -/
def ofFile? (content : Text) : Option Settings := Json.read? content >>= ofJson?

/-- What is logged of a file that is passed over. -/
def ignoredMessage (path : Text) (cause : Text) : Text :=
  "Ignoring settings: ".toList ++ cause ++ path

/-- Reads the settings at a path. -/
def load (store : Store) (path : Text) : Settings × Store :=
  if !store.disk.exists? path then (standard, store)
  else
    match store.disk.read path with
    | .error _ =>
      (standard, store.note .warn .settings (ignoredMessage path "reading ".toList))
    | .ok content =>
      match ofFile? content with
      | some settings => (settings, store)
      | none => (standard, store.note .warn .settings (ignoredMessage path "parsing ".toList))

/-- Writes the settings to a path. -/
def save (settings : Settings) (disk : Disk) (path : Text) : Disk × Except FileError Unit :=
  disk.save path settings.fileText

end Settings

end Reckoner
