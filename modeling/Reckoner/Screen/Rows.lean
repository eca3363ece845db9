import Reckoner.Screen.Canvas

/-!
Lists of rows of which one may be selected. As many rows are shown as there is room for, from the
offset on, but moved as far as the selected row asks for; and the selected row is highlighted over
its whole width.
-/

namespace Reckoner

namespace RowWindow

/-- The first and the one after the last of the rows shown: a window from the offset on, moved no
further than needed to hold the selected row. -/
def bounds (count height offset : Nat) (selected : Option Nat) : Nat × Nat :=
  let first := min offset (count - 1)
  let last := min (first + height) count
  let wanted := min (selected.getD 0) (count - 1)
  if last ≤ wanted then ((wanted + 1) - height, wanted + 1)
  else if wanted < first then (wanted, min last (wanted + height))
  else (first, last)

end RowWindow

namespace Screen

/-- Draws rows one below the other, the selected one highlighted. -/
def drawNumbered (screen : Screen) (area : Area) (selected : Option Nat) (highlight : Style)
    (number y : Nat) : List StyledLine → Screen
  | [] => screen
  | row :: rest =>
    let written := screen.writeLine area.x y area.width row
    let shown :=
      if selected = some number then written.restyle ⟨area.x, y, area.width, 1⟩ highlight
      else written
    drawNumbered shown area selected highlight (number + 1) (y + 1) rest

/-- Draws a list of rows in an area. -/
def drawList (screen : Screen) (area : Area) (rows : List StyledLine) (offset : Nat)
    (selected : Option Nat) (highlight : Style) : Screen :=
  if area.isEmpty || rows = [] then screen
  else
    let (first, last) := RowWindow.bounds rows.length area.height offset selected
    screen.drawNumbered area selected highlight first area.y
      ((rows.drop first).take (last - first))

end Screen

end Reckoner
