import Reckoner.Console.Editor
import Reckoner.Session

/-!
The full-screen front end: an input line, the list of evaluated expressions, oldest first, of which
one is selected, a message that is shown for a while, and a help page. Answers of the session are
carried over into what is shown.
-/

namespace Reckoner

/-- An evaluated expression in the list. -/
structure Entry where
  input : Text
  result : Float
  steps : List Step := []
  detailed : Bool := false
  /-- How long the evaluation took, in nanoseconds. -/
  elapsed : Nat := 0
  moment : Moment

/-- A message under the input line. -/
structure Flash where
  text : Text
  isError : Bool
  since : Moment
  deriving DecidableEq

/-- The state of the front end. -/
structure Console where
  session : Session
  editor : Editor := Editor.empty
  entries : List Entry
  /-- The number of the selected entry. -/
  selected : Nat
  wantsQuit : Bool := false
  showsHelp : Bool := false
  helpScroll : Nat := 0
  /-- The height of the list when it was last drawn. -/
  listHeight : Nat := 5
  /-- The row of the list at which each entry starts, when it was last drawn. -/
  entryRows : List Nat := []
  listScroll : Nat := 0
  /-- The list is to be scrolled to its end when it is drawn next. -/
  toBottom : Bool
  tooSmall : Bool := false
  flash : Option Flash := none

namespace Console

/-- The front end of a session; the list starts with its history. -/
def ofSession (session : Session) : Console :=
  let entries := session.history.items.reverse.map (fun item =>
    { input := item.expression, result := item.result, moment := item.moment : Entry })
  { session := session
    entries := entries
    selected := entries.length - 1
    toBottom := !entries.isEmpty }

/-- The theme in use. -/
def theme (console : Console) : Theme := console.session.theme

/-- Shows a message. -/
def withFlash (console : Console) (now : Moment) (text : Text) (isError : Bool) : Console :=
  { console with flash := some ⟨text, isError, now⟩ }

/-- The input line emptied. -/
def clearInput (console : Console) : Console := { console with editor := Editor.empty }

/-- Shows a message about something done and empties the input line. -/
def report (console : Console) (now : Moment) (text : Text) : Console :=
  (console.withFlash now text false).clearInput

/-- The nanoseconds for which a message is shown. -/
def flashNanos : Int := 3 * (Moment.secondNanos : Int)

/-- The message taken away once it has been shown long enough. -/
def expireFlash (console : Console) (now : Moment) : Console :=
  match console.flash with
  | some flash =>
    if flashNanos ≤ now.nanosSince flash.since then { console with flash := none } else console
  | none => console

/-- What is said of a theme that was chosen. -/
def themeMessage (theme : Theme) : Text := "Theme: ".toList ++ theme.name

/-- Takes the next theme. -/
def cycleTheme (console : Console) (now : Moment) : Console :=
  let (session, theme) := console.session.cycleTheme
  { console with session := session }.withFlash now (themeMessage theme) false

/-- A new entry at the end of the list, selected and to be scrolled to. -/
def addEntry (console : Console) (entry : Entry) : Console :=
  { console with
    entries := console.entries ++ [entry]
    selected := console.entries.length
    flash := none
    toBottom := true }.clearInput

/-- Carries the answer of the session over into what is shown. An evaluation took some nanoseconds,
which no state decides. -/
def showReply (console : Console) (now : Moment) (elapsed : Nat) : Reply → Console
  | .nothing => console
  | .quit => { console with wantsQuit := true }
  | .cleared => { console with entries := [], selected := 0, listScroll := 0 }.clearInput
  | .showHelp => { console with showsHelp := true }.clearInput
  | .themeChanged theme => console.report now (themeMessage theme)
  | .memory value => console.report now ("M = ".toList ++ Answer.text value)
  | .insert text => { console with editor := console.editor.replace text }
  | .exported path count =>
    console.report now
      ("Exported ".toList ++ Text.ofNat count ++ " entries to ".toList ++ path)
  | .failed message => console.withFlash now message true
  | .evaluated evaluation =>
    match evaluation.result with
    | .ok result =>
      console.addEntry {
        input := evaluation.input
        result := result
        steps := evaluation.steps
        detailed := evaluation.detailed
        elapsed := elapsed
        moment := now }
    | .error message => console.withFlash now message true

/-- Submits the input line. -/
def submit (console : Console) (now : Moment) (elapsed : Nat) : Console :=
  let line := Text.trim console.editor.text
  if line = [] then console
  else
    let (session, reply) := console.session.submit now line
    { console with session := session }.showReply now elapsed reply

/-- The input line scrolled back and the list left where it is, as after choosing an entry. -/
def recallAt (console : Console) (selected : Nat) (otherwise : Text) : Console :=
  { console with
    selected := selected
    editor := Editor.ofText ((console.entries[selected]?.map Entry.input).getD otherwise)
    toBottom := false }

/-- Recalls the entry before the selected one, or the first one again. -/
def recallPrevious (console : Console) : Console := console.recallAt (console.selected - 1) []

/-- Recalls the entry after the selected one, or the last one again. -/
def recallNext (console : Console) : Console :=
  console.recallAt
    (if console.selected < console.entries.length - 1 then console.selected + 1
      else console.selected) []

/-- The count of entries in a page of the list. -/
def page (console : Console) : Nat := console.listHeight - 1

/-- Recalls an entry a page before the selected one. -/
def recallPageUp (console : Console) : Console :=
  console.recallAt (console.selected - console.page) console.editor.text

/-- Recalls an entry a page after the selected one. -/
def recallPageDown (console : Console) : Console :=
  console.recallAt (min (console.selected + console.page) (console.entries.length - 1))
    console.editor.text

end Console

end Reckoner
