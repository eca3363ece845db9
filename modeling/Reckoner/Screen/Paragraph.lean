import Reckoner.Screen.Canvas

/-!
Paragraphs: styled lines in an area, cut at its edge or wrapped at blanks, at its left edge or in
its middle. Text is placed cluster by cluster, and clusters without a width are left out.
-/

namespace Reckoner

/-- A cluster in a style. -/
structure Glyphlet where
  symbol : Text
  style : Style
  deriving DecidableEq, Repr

namespace Glyphlet

/-- The columns of a styled cluster. -/
def columns (g : Glyphlet) : Nat := Text.columns g.symbol

/-- Whether a line may be broken at a cluster. -/
def isBlank (g : Glyphlet) : Bool := Text.isAllBlank g.symbol

/-- The columns of a row of styled clusters. -/
def total (row : List Glyphlet) : Nat := row.foldr (fun g rest => g.columns + rest) 0

end Glyphlet

/-- The clusters of a line; line feeds are left out. -/
def StyledLine.glyphlets (line : StyledLine) : List Glyphlet :=
  line.flatMap (fun span =>
    ((Text.clusters span.text).filter (· ≠ ['\n'])).map (fun symbol => ⟨symbol, span.style⟩))

/-- The clusters of a line up to the first that does not fit; those wider than the whole width are
passed over. -/
def cutLine (width : Nat) : Nat → List Glyphlet → List Glyphlet
  | _, [] => []
  | used, g :: rest =>
    if width < g.columns then cutLine width used rest
    else if width < used + g.columns then []
    else g :: cutLine width (used + g.columns) rest

/-- A line being wrapped: the rows that are finished, the row begun, the blanks after it, and the
word after them. -/
structure Reflow where
  finished : List (List Glyphlet) := []
  row : List Glyphlet := []
  blanks : List Glyphlet := []
  word : List Glyphlet := []
  /-- The cluster before was not a blank. -/
  inWord : Bool := false

namespace Reflow

/-- The blanks that are left to the next row once those that fit into the rest of a full row are
dropped, and whether that was all of them. -/
def dropBlanks : Nat → List Glyphlet → List Glyphlet × Bool
  | _, [] => ([], true)
  | room, g :: rest =>
    if room < g.columns then (rest, false) else dropBlanks (room - g.columns) rest

/-- The word and the blanks before it put at the end of the row; at the start of a row there are no
blanks. -/
def settleWord (r : Reflow) : Reflow :=
  { r with
    row := if r.row = [] then r.word else r.row ++ r.blanks ++ r.word
    blanks := []
    word := [] }

/-- A blank that ends a word, or a word or blanks that fill a row by themselves, settle the word. -/
def settlesAt (width : Nat) (r : Reflow) (g : Glyphlet) : Bool :=
  (r.inWord && g.isBlank)
    || (width < Glyphlet.total r.word + g.columns && r.row = [])
    || (width < Glyphlet.total r.blanks + g.columns && r.row = [])

/-- Whether the row is full before a cluster. -/
def isFullAt (width : Nat) (r : Reflow) (g : Glyphlet) : Bool :=
  width ≤ Glyphlet.total r.row
    || (width ≤ Glyphlet.total r.row + Glyphlet.total r.blanks + Glyphlet.total r.word
      && 0 < g.columns)

/-- A cluster put after the blanks or into the word. -/
def take (r : Reflow) (g : Glyphlet) : Reflow :=
  if g.isBlank then { r with blanks := r.blanks ++ [g], inWord := false }
  else { r with word := r.word ++ [g], inWord := true }

/-- The rows, the blanks and the word after one more cluster. -/
def add (width : Nat) (r : Reflow) (g : Glyphlet) : Reflow :=
  if width < g.columns then r
  else
    let r := if r.settlesAt width g then r.settleWord else r
    if r.isFullAt width g then
      let room := width - Glyphlet.total r.row
      let (blanks, usedUp) := dropBlanks room r.blanks
      let broken : Reflow :=
        { r with finished := r.finished ++ [r.row], row := [], blanks := blanks }
      if usedUp && g.isBlank then broken else broken.take g
    else r.take g

/-- The rows of a line that has been read to its end; there is at least one. -/
def finish (r : Reflow) : List (List Glyphlet) :=
  let rows :=
    if r.word = [] && r.blanks = [] then r.finished
    else if r.row = [] && r.word = [] then r.finished ++ [[]]
    else r.finished
  let last := r.settleWord.row
  let rows := if last = [] then rows else rows ++ [last]
  if rows = [] then [[]] else rows

end Reflow

/-- A line wrapped to a width. -/
def wrapLine (width : Nat) (line : List Glyphlet) : List (List Glyphlet) :=
  (line.foldl (Reflow.add width) {}).finish

/-- Where lines stand in an area. -/
inductive Alignment where
  | left
  | center
  deriving DecidableEq, Repr

/-- The blank columns in front of a line. -/
def Alignment.indent (alignment : Alignment) (width used : Nat) : Nat :=
  match alignment with
  | .left => 0
  | .center => width / 2 - used / 2

namespace Screen

/-- Writes clusters into a row of cells. -/
def writeGlyphlets (screen : Screen) (x y : Nat) : List Glyphlet → Screen
  | [] => screen
  | g :: rest =>
    if g.columns = 0 then writeGlyphlets screen x y rest
    else writeGlyphlets (screen.put x y g.symbol g.style) (x + g.columns) y rest

/-- Draws rows of clusters from the top of an area, as many as it has. -/
def drawRows (screen : Screen) (area : Area) (alignment : Alignment) :
    Nat → List (List Glyphlet) → Screen
  | _, [] => screen
  | index, row :: rest =>
    if area.height ≤ index then screen
    else
      let x := area.x + alignment.indent area.width (Glyphlet.total row)
      drawRows (screen.writeGlyphlets x (area.y + index) row) area alignment (index + 1) rest

/-- Draws lines that are cut at the edge of the area. -/
def drawCut (screen : Screen) (area : Area) (alignment : Alignment) (lines : List StyledLine) :
    Screen :=
  if area.isEmpty then screen
  else
    screen.drawRows area alignment 0
      (lines.map (fun line => cutLine area.width 0 line.glyphlets))

/-- Draws lines that are wrapped, without the first rows that are scrolled away. -/
def drawWrapped (screen : Screen) (area : Area) (alignment : Alignment) (scroll : Nat)
    (lines : List StyledLine) : Screen :=
  if area.isEmpty then screen
  else
    screen.drawRows area alignment 0
      ((lines.flatMap (fun line => wrapLine area.width line.glyphlets)).drop scroll)

end Screen

end Reckoner
