import Reckoner.Console.EntryRows
import Reckoner.Screen.Frame
import Reckoner.Screen.Paragraph
import Reckoner.Screen.Rows

/-!
The main page: the input line in a frame, the message and the keys below it, and the list of entries
in a frame below them. A terminal that is too small shows only that it is. Drawing may scroll the
input line and the list, so it gives the front end back together with the screen.
-/

namespace Reckoner

/-- A screen with the place of the cursor, if it is shown. -/
structure Drawing where
  screen : Screen
  cursor : Option (Nat × Nat) := none

namespace MainPage

/-- The least width of a terminal. -/
def minWidth : Nat := 50

/-- The least height of a terminal. -/
def minHeight : Nat := 10

/-- The rows of the input line with its frame. -/
def inputHeight : Nat := 3

/-- The row of the message. -/
def flashRow : Nat := 3

/-- The row of the keys. -/
def statusRow : Nat := 4

/-- The first row of the list. -/
def listRow : Nat := 5

/-- A line of text in one style. -/
def styledLine (text : Text) (style : Style) : StyledLine := [⟨text, style⟩]

/-! ## A terminal that is too small -/

/-- What a terminal that is too small shows. -/
def resizeLines (palette : Palette) (width height : Nat) : List StyledLine :=
  [styledLine
      ("Terminal too small! Min size: ".toList ++ Text.ofNat minWidth ++ ['x']
        ++ Text.ofNat minHeight ++ ". Current: ".toList ++ Text.ofNat width ++ ['x']
        ++ Text.ofNat height)
      (Style.colored palette.danger).inBold,
    [],
    styledLine "Please resize your terminal window".toList (Style.colored palette.secondAccent)]

/-- The frame around it. -/
def resizeFrame (palette : Palette) : Frame where
  border := Style.colored palette.danger
  title := " Resize Required ".toList

/-- Draws the request for a larger terminal. -/
def drawResize (screen : Screen) (palette : Palette) : Screen :=
  (screen.drawFrame screen.area (resizeFrame palette)).drawWrapped screen.area.inner .center 0
    (resizeLines palette screen.width screen.height)

/-! ## The input line -/

/-- The frame around the input line. -/
def inputFrame (palette : Palette) : Frame where
  style := { foreground := some palette.foreground, background := some palette.panel }
  border := Style.colored palette.accent
  title := " Expression ".toList

/-- The sign in front of the input. -/
def prompt : Text := "> ".toList

/-- The characters of the input that fit beside the prompt. -/
def visibleWidth (inner : Area) : Nat := inner.width - 2

/-- The part of a text before its first line feed; a carriage return before that is left out. -/
def firstLine (text : Text) : Text :=
  let line := text.takeWhile (· ≠ '\n')
  if line.length < text.length && line.getLast? = some '\r' then line.dropLast else line

/-- A sign in one cell that says that the input goes on there. -/
def drawArrow (screen : Screen) (palette : Palette) (x y : Nat) (c : Char) : Screen :=
  screen.put x y [c] (Style.colored palette.muted)

/-- Draws the input line, which has been scrolled to its cursor. -/
def drawInput (screen : Screen) (palette : Palette) (area : Area) (editor : Editor) : Drawing :=
  let inner := area.inner
  let width := visibleWidth inner
  let visible := editor.visible width
  let framed := screen.drawFrame area (inputFrame palette)
  let written := framed.drawCut inner .left
    [styledLine (firstLine (prompt ++ visible)) Style.plain]
  let left := if 0 < editor.scroll then drawArrow written palette inner.x inner.y '<' else written
  let right :=
    if editor.scroll + width < editor.length then
      drawArrow left palette (inner.x + inner.width - 1) inner.y '>'
    else left
  { screen := right
    cursor := some
      (inner.x + prompt.length + Text.columns (visible.take (editor.cursor - editor.scroll)),
        inner.y) }

/-! ## The message and the keys -/

/-- The message as a line. -/
def flashLine (palette : Palette) (flash : Flash) : StyledLine :=
  if flash.isError then
    styledLine (" ⚠ ".toList ++ flash.text) (Style.colored palette.danger).inBold
  else styledLine ([' '] ++ flash.text) (Style.colored palette.secondAccent).inBold

/-- The keys and what they do. -/
def keyHints : List (Text × Text) :=
  [("Enter".toList, "Calculate".toList), ("Up/Down".toList, "History".toList),
   ("F1".toList, "Help".toList), ("F2".toList, "Theme".toList), ("Ctrl+P".toList, "π".toList),
   ("Ctrl+U".toList, "Clear".toList)]

/-- The keys, the theme and a sign for a memory that is in use. -/
def statusLine (palette : Palette) (theme : Theme) (hasMemory : Bool) : StyledLine :=
  keyHints.flatMap (fun (key, purpose) =>
      [⟨key, (Style.colored palette.accent).inBold⟩,
       ⟨[' '] ++ purpose ++ [' '], Style.colored palette.muted⟩])
    ++ [⟨['['] ++ theme.name ++ [']'], Style.colored palette.secondAccent⟩]
    ++ (if hasMemory then [⟨" M".toList, (Style.colored palette.secondAccent).inBold⟩] else [])

/-! ## The list -/

/-- The frame around the list. -/
def listFrame (palette : Palette) : Frame where
  style := { background := some palette.panel }
  border := Style.colored palette.border
  title := " History ".toList

/-- What is shown in place of an empty list. -/
def emptyText : Text := "No calculations yet. Enter an expression to see results here.".toList

/-- Draws an empty list. -/
def drawEmpty (screen : Screen) (palette : Palette) (inner : Area) : Screen :=
  (screen.restyle inner (Style.colored palette.muted)).drawCut inner .center
    [styledLine emptyText Style.plain]

/-- The style of the selected row. -/
def selectionStyle (palette : Palette) : Style :=
  { background := some palette.selection, bold := true }

/-- Notes where each entry starts, and scrolls to the end if that was asked for. -/
def settleList (console : Console) (blocks : List (List StyledLine)) (height : Nat) : Console :=
  { console with
    entryRows := Console.blockStarts 0 blocks
    listScroll := if console.toBottom then blocks.flatten.length - height else console.listScroll
    toBottom := false }

/-- Draws the list. -/
def drawList (console : Console) (now : Moment) (screen : Screen) (area : Area) :
    Console × Screen :=
  let palette := console.theme.palette
  let inner := area.inner
  let framed := screen.drawFrame area (listFrame palette)
  if console.entries.isEmpty then (console, drawEmpty framed palette inner)
  else
    let blocks := console.entryBlocks now inner.width
    let console := settleList console blocks inner.height
    (console, framed.drawList inner blocks.flatten console.listScroll
      console.entryRows[console.selected]? (selectionStyle palette))

/-! ## The page -/

/-- Whether a terminal is too small for the page. -/
def isTooSmall (width height : Nat) : Bool := width < minWidth || height < minHeight

/-- Draws the page on a terminal that is large enough. -/
def drawFull (console : Console) (now : Moment) (screen : Screen) : Console × Drawing :=
  let palette := console.theme.palette
  let width := screen.width
  let inputArea : Area := ⟨0, 0, width, inputHeight⟩
  let listArea : Area := ⟨0, listRow, width, screen.height - listRow⟩
  let console := { console with
    editor := console.editor.scrollTo (visibleWidth inputArea.inner) }
  let input := drawInput screen palette inputArea console.editor
  let flashed :=
    match console.flash with
    | some flash =>
      input.screen.drawCut ⟨0, flashRow, width, 1⟩ .left [flashLine palette flash]
    | none => input.screen
  let hinted := flashed.drawCut ⟨0, statusRow, width, 1⟩ .left
    [statusLine palette console.theme console.session.calculator.hasMemory]
  let (console, listed) := drawList console now hinted listArea
  ({ console with listHeight := listArea.height }, { input with screen := listed })

/-- Draws the page on a terminal of a given size. -/
def draw (console : Console) (now : Moment) (width height : Nat) : Console × Drawing :=
  let palette := console.theme.palette
  let console := { console with tooSmall := isTooSmall width height }
  let blank := Screen.blank width height
  let screen := blank.restyle blank.area { background := some palette.background }
  if console.tooSmall then (console, { screen := drawResize screen palette })
  else drawFull console now screen

end MainPage

end Reckoner
