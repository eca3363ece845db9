import Reckoner.Screen.Style
import Reckoner.Text.Cluster
import Reckoner.Text.Columns

/-!
The screen as a grid of cells, and the basic ways of changing it. A cell holds one cluster of text;
a cluster of two columns stands in the first of its cells and hides the second one.
-/

namespace Reckoner

/-- A rectangle of cells. -/
structure Area where
  x : Nat
  y : Nat
  width : Nat
  height : Nat
  deriving DecidableEq, Repr

/-- One cell of the screen. -/
structure Cell where
  symbol : Text := [' ']
  style : Style := Style.plain
  deriving DecidableEq, Repr

/-- The screen, its cells row by row. -/
structure Screen where
  width : Nat
  height : Nat
  cells : Array Cell

namespace Area

/-- Whether nothing fits into an area. -/
def isEmpty (area : Area) : Bool := area.width = 0 || area.height = 0

/-- The area without the cells at its edge. -/
def inner (area : Area) : Area :=
  ⟨min (area.x + 1) (area.x + area.width), min (area.y + 1) (area.y + area.height),
    area.width - 2, area.height - 2⟩

/-- One row of an area, counted from its top. -/
def row (area : Area) (index : Nat) : Area := ⟨area.x, area.y + index, area.width, 1⟩

end Area

namespace Screen

/-- A screen of blank cells. -/
def blank (width height : Nat) : Screen := ⟨width, height, Array.replicate (width * height) {}⟩

/-- All of the screen. -/
def area (screen : Screen) : Area := ⟨0, 0, screen.width, screen.height⟩

/-- Changes the cell at a place; outside the screen nothing changes. -/
def modify (screen : Screen) (x y : Nat) (change : Cell → Cell) : Screen :=
  if x < screen.width then
    { screen with cells := screen.cells.modify (y * screen.width + x) change }
  else screen

/-- Puts a symbol into a cell and its style on top of that of the cell. -/
def put (screen : Screen) (x y : Nat) (symbol : Text) (style : Style) : Screen :=
  screen.modify x y (fun cell => ⟨symbol, cell.style.patch style⟩)

/-- Puts a style on top of that of every cell in an area. -/
def restyle (screen : Screen) (area : Area) (style : Style) : Screen :=
  (List.range area.height).foldl (fun screen dy =>
    (List.range area.width).foldl (fun screen dx =>
      screen.modify (area.x + dx) (area.y + dy)
        (fun cell => { cell with style := cell.style.patch style })) screen) screen

theorem height_modify (screen : Screen) (x y : Nat) (change : Cell → Cell) :
    (screen.modify x y change).height = screen.height := by
  rw [modify]
  split
  · rfl
  · rfl

theorem height_restyle (screen : Screen) (area : Area) (style : Style) :
    (screen.restyle area style).height = screen.height := by
  -- Row by row, and in each row cell by cell.
  refine List.foldlRecOn _ _ (motive := fun s : Screen => s.height = screen.height) rfl ?_
  intro s row dy _
  refine List.foldlRecOn _ _ (motive := fun s : Screen => s.height = screen.height) row ?_
  intro s cell dx _
  rw [height_modify, cell]

/-- Writes clusters into a row from a column on, as long as they fit into what is left of the given
columns, and blanks the cells that wide ones hide. Gives the columns still left, or none of them
once a cluster did not fit. -/
def writeClusters (screen : Screen) (x y : Nat) (style : Style) :
    Nat → List Text → Screen × Nat × Nat
  | left, [] => (screen, x, left)
  | left, cluster :: rest =>
    let wide := Text.columns cluster
    if wide = 0 then writeClusters screen x y style left rest
    else if left < wide then (screen, x, left)
    else
      let written := screen.put x y cluster style
      let hidden := (List.range (wide - 1)).foldl
        (fun screen dx => screen.modify (x + 1 + dx) y (fun _ => {})) written
      writeClusters hidden (x + wide) y style (left - wide) rest

/-- Writes spans into a row, cut to the columns that are left. -/
def writeSpans (screen : Screen) (x y : Nat) : Nat → StyledLine → Screen
  | _, [] => screen
  | left, span :: rest =>
    if left = 0 then screen
    else
      let (written, x, left) := screen.writeClusters x y span.style left (Text.clusters span.text)
      writeSpans written x y left rest

/-- Writes a line into a row, cut to a count of columns and to the screen. -/
def writeLine (screen : Screen) (x y : Nat) (most : Nat) (line : StyledLine) : Screen :=
  screen.writeSpans x y (min most (screen.width - x)) line

/-- The cells of a row. -/
def rowCells (screen : Screen) (y : Nat) : List Cell :=
  (screen.cells.extract (y * screen.width) ((y + 1) * screen.width)).toList

/-- The cells of a row as they are seen: one hidden by a wide symbol before it is blank. -/
def seenCells : Nat → List Cell → List Cell
  | _, [] => []
  | 0, cell :: rest => cell :: seenCells (Text.columns cell.symbol - 1) rest
  | hidden + 1, _ :: rest => {} :: seenCells hidden rest

/-- The rows of the screen as they are seen. -/
def rows (screen : Screen) : List (List Cell) :=
  (List.range screen.height).map (fun y => seenCells 0 (screen.rowCells y))

end Screen

end Reckoner
