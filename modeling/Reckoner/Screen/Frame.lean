import Reckoner.Screen.Canvas

/-!
Frames: a border around an area, with a title in the middle of its top. The border is drawn side by
side and corner by corner, so that in an area of one row or one column the last one drawn is seen.
-/

namespace Reckoner

/-- The symbols that a border is drawn with. -/
structure BorderSymbols where
  vertical : Char
  horizontal : Char
  topLeft : Char
  topRight : Char
  bottomLeft : Char
  bottomRight : Char
  deriving DecidableEq, Repr

/-- A border of single lines. -/
def BorderSymbols.single : BorderSymbols := ⟨'│', '─', '┌', '┐', '└', '┘'⟩

/-- A border of double lines. -/
def BorderSymbols.double : BorderSymbols := ⟨'║', '═', '╔', '╗', '╚', '╝'⟩

/-- A frame. -/
structure Frame where
  symbols : BorderSymbols := BorderSymbols.single
  /-- The style of everything in the frame. -/
  style : Style := Style.plain
  border : Style
  title : Text
  deriving DecidableEq, Repr

namespace Screen

/-- Draws a border. -/
def drawBorder (screen : Screen) (area : Area) (symbols : BorderSymbols) (style : Style) : Screen :=
  let right := area.x + area.width - 1
  let bottom := area.y + area.height - 1
  let column (x : Nat) (screen : Screen) : Screen :=
    (List.range area.height).foldl
      (fun screen dy => screen.put x (area.y + dy) [symbols.vertical] style) screen
  let row (y : Nat) (screen : Screen) : Screen :=
    (List.range area.width).foldl
      (fun screen dx => screen.put (area.x + dx) y [symbols.horizontal] style) screen
  let sides := row bottom (column right (row area.y (column area.x screen)))
  (((sides.put right bottom [symbols.bottomRight] style).put right area.y [symbols.topRight] style).put
    area.x bottom [symbols.bottomLeft] style).put area.x area.y [symbols.topLeft] style

/-- Draws a frame around an area. -/
def drawFrame (screen : Screen) (area : Area) (frame : Frame) : Screen :=
  if area.isEmpty then screen
  else
    let bordered := (screen.restyle area frame.style).drawBorder area frame.symbols frame.border
    bordered.writeLine (area.x + (area.width - Text.columns frame.title) / 2) area.y
      (area.width - 2) [{ text := frame.title }]

end Screen

end Reckoner
