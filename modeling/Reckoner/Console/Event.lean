import Reckoner.Console.State

/-!
Keys and the wheel of the mouse, and what they do. While the help page is shown they scroll it or
leave it; otherwise they edit the input line, recall entries, submit, and change what is shown.
-/

namespace Reckoner

/-- The keys of a keyboard without their modifiers. -/
inductive KeyCode where
  | char (c : Char)
  | enter
  | backspace
  | delete
  | left
  | right
  | up
  | down
  | lineStart
  | lineEnd
  | pageUp
  | pageDown
  | escape
  | tab
  /-- A numbered function key. -/
  | function (number : Nat)
  deriving DecidableEq, Repr

/-- A key with the modifiers that are held down. -/
structure KeyPress where
  code : KeyCode
  control : Bool := false
  alt : Bool := false
  shift : Bool := false
  deriving DecidableEq, Repr

/-- What may happen at the terminal. -/
inductive Event where
  /-- A key, and how long the evaluation takes that it may start, in nanoseconds. -/
  | key (press : KeyPress) (elapsed : Nat := 0)
  | wheelDown
  | wheelUp
  /-- Anything that nothing is done about. -/
  | other
  deriving DecidableEq, Repr

namespace Console

/-- Edits the input line. -/
def edit (console : Console) (change : Editor → Editor) : Console :=
  { console with editor := change console.editor }

/-- The rows that a page key scrolls the help page by. -/
def helpPage : Nat := 10

/-- The rows that one turn of the wheel scrolls by. -/
def wheelRows : Nat := 3

/-- A key while the help page is shown. -/
def pressInHelp (console : Console) (code : KeyCode) : Console :=
  match code with
  | .down => { console with helpScroll := console.helpScroll + 1 }
  | .up => { console with helpScroll := console.helpScroll - 1 }
  | .pageDown => { console with helpScroll := console.helpScroll + helpPage }
  | .pageUp => { console with helpScroll := console.helpScroll - helpPage }
  | .escape | .function 1 => { console with showsHelp := false, helpScroll := 0 }
  | _ => console

/-- A character key. -/
def pressChar (console : Console) (c : Char) (control alt : Bool) : Console :=
  if control then
    if c = 'c' then { console with wantsQuit := true }
    else if c = 'u' || c = 'U' then console.clearInput
    else if c = 'p' then console.edit (·.insert ['π'])
    else console
  else if alt then console
  else console.edit (·.insert [c])

/-- A key while the help page is not shown. -/
def pressInMain (console : Console) (now : Moment) (elapsed : Nat) (press : KeyPress) : Console :=
  match press.code with
  | .char c => console.pressChar c press.control press.alt
  | .backspace => console.edit Editor.deleteBefore
  | .delete => console.edit Editor.deleteAfter
  | .left => console.edit (if press.control then Editor.moveWordLeft else Editor.moveLeft)
  | .right => console.edit (if press.control then Editor.moveWordRight else Editor.moveRight)
  | .lineStart => console.edit Editor.moveHome
  | .lineEnd => console.edit Editor.moveEnd
  | .up => console.recallPrevious
  | .down => console.recallNext
  | .pageUp => console.recallPageUp
  | .pageDown => console.recallPageDown
  | .enter => console.submit now elapsed
  | .function 1 => { console with showsHelp := true, helpScroll := 0 }
  | .function 2 => console.cycleTheme now
  | .escape => { console with flash := none }
  | .tab | .function _ => console

/-- A key. -/
def pressKey (console : Console) (now : Moment) (elapsed : Nat) (press : KeyPress) : Console :=
  if console.showsHelp then console.pressInHelp press.code
  else console.pressInMain now elapsed press

/-- Scrolls what is shown. -/
def scroll (console : Console) (change : Nat → Nat) : Console :=
  if console.showsHelp then { console with helpScroll := change console.helpScroll }
  else { console with listScroll := change console.listScroll }

/-- The front end after an event. -/
def handle (console : Console) (now : Moment) : Event → Console
  | .key press elapsed => console.pressKey now elapsed press
  | .wheelDown => console.scroll (· + wheelRows)
  | .wheelUp => console.scroll (· - wheelRows)
  | .other => console

end Console

end Reckoner
