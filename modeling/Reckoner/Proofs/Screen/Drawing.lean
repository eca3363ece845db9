import Reckoner.Proofs.Screen.Writing
import Reckoner.Screen.Frame
import Reckoner.Screen.Paragraph
import Reckoner.Screen.Rows

/-!
# Frames, paragraphs and lists

What a row of the screen holds after a frame or a list was drawn. A frame leaves its vertical symbol
at both ends of each row inside it (`Screen.IsWhole.symbolAt_drawFrame`). A list writes each of its
rows into a row of the screen, and what it does before and after that is in other rows
(`Screen.symbolAt_drawNumbered`). So a text of a row can be read between the symbols of the frame
exactly if it fits there (`Screen.Barred.reads_iff`).
-/

namespace Reckoner

/-- No more rows are shown than there is room for. -/
theorem RowWindow.bounds_le (count height offset : Nat) (selected : Option Nat) :
    (bounds count height offset selected).2 ≤ (bounds count height offset selected).1 + height := by
  simp only [bounds]
  split
  · show _ + 1 ≤ _ + 1 - height + height
    omega
  split
  · exact Nat.min_le_right _ _
  · exact Nat.min_le_left _ _

/-- The selected row is among those that are shown. -/
theorem RowWindow.bounds_holds {count height : Nat} (offset : Nat) {selected : Nat}
    (among : selected < count) (room : 0 < height) :
    (bounds count height offset (some selected)).1 ≤ selected ∧
      selected < (bounds count height offset (some selected)).2 := by
  have wanted : min ((some selected).getD 0) (count - 1) = selected := by
    rw [Option.getD_some]
    omega
  simp only [bounds, wanted]
  split
  · show selected + 1 - height ≤ selected ∧ selected < selected + 1
    omega
  split
  · refine ⟨Nat.le_refl _, ?_⟩
    show selected < min (min (min offset (count - 1) + height) count) (selected + height)
    omega
  · show min offset (count - 1) ≤ selected ∧
      selected < min (min offset (count - 1) + height) count
    omega

namespace Screen

/-- Any change but in one row. -/
def offRow (y : Nat) (_ j : Nat) (_ : Cell → Cell) : Prop := j ≠ y

section Changes

variable {allowed : Nat → Nat → (Cell → Cell) → Prop} {screen after : Screen} {y : Nat}

/-- The symbols of a row stay when the others are changed. -/
theorem Changes.symbolAt_of_offRow (changes : Changes (offRow y) screen after) (x : Nat) :
    after.symbolAt x y = screen.symbolAt x y :=
  changes.symbolAt fun _ permitted => absurd rfl permitted

theorem Changes.offRow {area : Area} (changes : Changes (inArea area) screen after)
    (apart : y < area.y ∨ area.y + area.height ≤ y) : Changes (offRow y) screen after :=
  changes.mono fun i j change inside => by
    simp only [inArea, Area.Contains] at inside
    simp only [Screen.offRow]
    omega

end Changes

/-! ## Paragraphs -/

theorem changes_writeGlyphlets (screen : Screen) (x y : Nat) (row : List Glyphlet) :
    Changes anywhere screen (screen.writeGlyphlets x y row) := by
  induction row generalizing screen x with
  | nil => exact .none
  | cons g rest ih =>
      rw [writeGlyphlets]
      split
      · exact ih screen x
      · exact (changes_put screen g.symbol g.style fun _ => trivial).trans (ih _ _)

theorem changes_drawRows (screen : Screen) (area : Area) (alignment : Alignment) (index : Nat)
    (rows : List (List Glyphlet)) :
    Changes anywhere screen (screen.drawRows area alignment index rows) := by
  induction rows generalizing screen index with
  | nil => exact .none
  | cons row rest ih =>
      rw [drawRows]
      split
      · exact .none
      · exact (changes_writeGlyphlets ..).trans (ih _ _)

theorem changes_drawCut (screen : Screen) (area : Area) (alignment : Alignment)
    (lines : List StyledLine) : Changes anywhere screen (screen.drawCut area alignment lines) := by
  rw [drawCut]
  split
  · exact .none
  · exact changes_drawRows ..

/-! ## Frames -/

/-- A symbol put into cells one below the other. -/
def fillColumn (screen : Screen) (x y count : Nat) (symbol : Text) (style : Style) : Screen :=
  (List.range count).foldl (fun screen dy => screen.put x (y + dy) symbol style) screen

/-- A symbol put into cells one beside the other. -/
def fillRow (screen : Screen) (x y count : Nat) (symbol : Text) (style : Style) : Screen :=
  (List.range count).foldl (fun screen dx => screen.put (x + dx) y symbol style) screen

section Fill

variable (screen : Screen) (x y count : Nat) (symbol : Text) (style : Style)

theorem changes_fillColumn :
    Changes (inArea ⟨x, y, 1, count⟩) screen (screen.fillColumn x y count symbol style) := by
  refine changes_foldl (fun screen dy row => changes_put _ _ _ fun _ => ?_) screen
  have row := List.mem_range.mp row
  simp only [inArea, Area.Contains]
  omega

theorem changes_fillRow :
    Changes (inArea ⟨x, y, count, 1⟩) screen (screen.fillRow x y count symbol style) := by
  refine changes_foldl (fun screen dx column => changes_put _ _ _ fun _ => ?_) screen
  have column := List.mem_range.mp column
  simp only [inArea, Area.Contains]
  omega

end Fill

/-- The symbol is in each of the cells. -/
theorem IsWhole.symbolAt_fillColumn {screen : Screen} (whole : screen.IsWhole) {x y count dy : Nat}
    (column : x < screen.width) (rows : y + count ≤ screen.height) (among : dy < count)
    (symbol : Text) (style : Style) :
    (screen.fillColumn x y count symbol style).symbolAt x (y + dy) = some symbol := by
  induction count with
  | zero => exact absurd among (Nat.not_lt_zero dy)
  | succ count ih =>
      have step : screen.fillColumn x y (count + 1) symbol style =
          (screen.fillColumn x y count symbol style).put x (y + count) symbol style := by
        rw [fillColumn, List.range_succ, List.foldl_append]
        rfl
      have earlier := changes_fillColumn screen x y count symbol style
      rw [step]
      by_cases last : dy = count
      · subst last
        refine (earlier.isWhole whole).symbolAt_put ?_ ?_ symbol style
        · rw [earlier.width]
          exact column
        · rw [earlier.height]
          omega
      · have kept : Changes (offRow (y + dy)) (screen.fillColumn x y count symbol style)
            ((screen.fillColumn x y count symbol style).put x (y + count) symbol style) :=
          changes_put _ _ _ fun _ => by
            simp only [offRow]
            omega
        rw [kept.symbolAt_of_offRow, ih (by omega) (by omega)]

/-- The two sides of a border, and its top between them. -/
def drawSides (screen : Screen) (area : Area) (symbols : BorderSymbols) (style : Style) : Screen :=
  ((screen.fillColumn area.x area.y area.height [symbols.vertical] style).fillRow area.x area.y
    area.width [symbols.horizontal] style).fillColumn (area.x + area.width - 1) area.y area.height
    [symbols.vertical] style

section Frame

variable {screen : Screen} {area : Area} {y : Nat}

theorem changes_drawSides (screen : Screen) (area : Area) (symbols : BorderSymbols)
    (style : Style) : Changes anywhere screen (screen.drawSides area symbols style) :=
  ((changes_fillColumn ..).anywhere.trans (changes_fillRow ..).anywhere).trans
    (changes_fillColumn ..).anywhere

/-- A side of a border is seen in each row but the first and the last. -/
theorem IsWhole.symbolAt_drawSides (whole : screen.IsWhole) {x : Nat}
    (side : x = area.x ∨ x = area.x + area.width - 1) (wide : 0 < area.width)
    (columns : area.x + area.width ≤ screen.width) (rows : area.y + area.height ≤ screen.height)
    (above : area.y < y) (below : y + 1 < area.y + area.height) (symbols : BorderSymbols)
    (style : Style) :
    (screen.drawSides area symbols style).symbolAt x y = some [symbols.vertical] := by
  have left := changes_fillColumn screen area.x area.y area.height [symbols.vertical] style
  have top := changes_fillRow
    (screen.fillColumn area.x area.y area.height [symbols.vertical] style) area.x area.y area.width
    [symbols.horizontal] style
  have before := left.anywhere.trans top.anywhere
  have right := changes_fillColumn ((screen.fillColumn area.x area.y area.height
    [symbols.vertical] style).fillRow area.x area.y area.width [symbols.horizontal] style)
    (area.x + area.width - 1) area.y area.height [symbols.vertical] style
  obtain ⟨dy, rfl⟩ : ∃ dy, y = area.y + dy := ⟨y - area.y, by omega⟩
  rw [drawSides]
  -- The right side is drawn last, and hides the left one in an area of one column.
  by_cases last : x = area.x + area.width - 1
  · rw [last]
    refine (before.isWhole whole).symbolAt_fillColumn ?_ ?_ (by omega) _ _
    · rw [before.width]
      omega
    · rw [before.height]
      exact rows
  · obtain rfl : x = area.x := side.resolve_right last
    rw [right.symbolAt_of_outside (by simp only [Area.Contains]; omega),
      (top.offRow (.inr (by simp only; omega))).symbolAt_of_offRow]
    exact whole.symbolAt_fillColumn (by omega) rows (by omega) _ _

/-- In a row inside a border only its sides are drawn. -/
theorem offRow_drawBorder (screen : Screen) (symbols : BorderSymbols) (style : Style)
    (above : area.y < y) (below : y + 1 < area.y + area.height) :
    Changes (offRow y) (screen.drawSides area symbols style)
      (screen.drawBorder area symbols style) := by
  have put (screen : Screen) (i j : Nat) (symbol : Text) (apart : j ≠ y) :
      Changes (offRow y) screen (screen.put i j symbol style) :=
    changes_put _ _ _ fun _ => apart
  have bottom := (changes_fillRow (screen.drawSides area symbols style) area.x
    (area.y + area.height - 1) area.width [symbols.horizontal] style).offRow (y := y)
      (.inl (by simp only; omega))
  exact (((bottom.trans (put _ _ _ _ (by omega))).trans (put _ _ _ _ (by omega))).trans
    (put _ _ _ _ (by omega))).trans (put _ _ _ _ (by omega))

/-- In a row inside a frame only its sides are drawn. -/
theorem offRow_drawFrame (screen : Screen) (frame : Frame) (wide : 0 < area.width)
    (above : area.y < y) (below : y + 1 < area.y + area.height) :
    Changes (offRow y)
      ((screen.restyle area frame.style).drawSides area frame.symbols frame.border)
      (screen.drawFrame area frame) := by
  have full : ¬area.isEmpty = true := by
    simp only [Area.isEmpty, Bool.or_eq_true, decide_eq_true_eq]
    omega
  rw [drawFrame, if_neg full]
  refine (offRow_drawBorder _ _ _ above below).trans ?_
  exact (changes_writeSpans ..).offRow (.inr (by simp only; omega))

theorem changes_drawFrame (screen : Screen) (frame : Frame) (wide : 0 < area.width)
    (above : area.y < y) (below : y + 1 < area.y + area.height) :
    Changes anywhere screen (screen.drawFrame area frame) :=
  ((changes_restyle ..).anywhere.trans (changes_drawSides ..)).trans
    (offRow_drawFrame screen frame wide above below).anywhere

/-- **A frame stands at both ends of each row inside it.** -/
theorem IsWhole.symbolAt_drawFrame (whole : screen.IsWhole) {x : Nat}
    (side : x = area.x ∨ x = area.x + area.width - 1) (wide : 0 < area.width)
    (columns : area.x + area.width ≤ screen.width) (rows : area.y + area.height ≤ screen.height)
    (above : area.y < y) (below : y + 1 < area.y + area.height) (frame : Frame) :
    (screen.drawFrame area frame).symbolAt x y = some [frame.symbols.vertical] := by
  have styled := changes_restyle screen area frame.style
  rw [(offRow_drawFrame screen frame wide above below).symbolAt_of_offRow]
  refine (styled.isWhole whole).symbolAt_drawSides side wide ?_ ?_ above below _ _
  · rw [styled.width]
    exact columns
  · rw [styled.height]
    exact rows

end Frame

/-! ## Lists -/

section List

variable {area : Area} {selected : Option Nat} {highlight : Style}

theorem changes_writeLine (screen : Screen) (x y most : Nat) (line : StyledLine) :
    Changes (inArea ⟨x, y, most, 1⟩) screen (screen.writeLine x y most line) :=
  (changes_writeSpans ..).mono fun i j change inside => by
    simp only [inArea, Area.Contains] at inside ⊢
    omega

/-- Rows are drawn into rows of the screen from the given one on. -/
theorem changes_drawNumbered (screen : Screen) (number y : Nat) (rows : List StyledLine) :
    Changes (fun _ j _ => y ≤ j) screen
      (screen.drawNumbered area selected highlight number y rows) := by
  induction rows generalizing screen number y with
  | nil => exact .none
  | cons row rest ih =>
      have written : Changes (fun _ j _ => y ≤ j) screen
          (screen.writeLine area.x y area.width row) :=
        (changes_writeLine ..).mono fun _ _ _ inside => inside.2.1
      have later (screen : Screen) : Changes (fun _ j _ => y ≤ j) screen
          (screen.drawNumbered area selected highlight (number + 1) (y + 1) rest) :=
        (ih screen (number + 1) (y + 1)).mono fun _ _ _ below => Nat.le_of_succ_le below
      rw [drawNumbered]
      refine Changes.trans ?_ (later _)
      split
      · exact written.trans ((changes_restyle ..).mono fun _ _ _ inside => inside.1.2.1)
      · exact written

/-- **Each row of a list is written as if it were the only one.** -/
theorem symbolAt_drawNumbered (screen : Screen) (number y : Nat) {rows : List StyledLine} {j : Nat}
    {row : StyledLine} (among : rows[j]? = some row) :
    ∃ before, Changes (offRow (y + j)) screen before ∧
      ∀ x, (screen.drawNumbered area selected highlight number y rows).symbolAt x (y + j) =
        (before.writeLine area.x (y + j) area.width row).symbolAt x (y + j) := by
  induction rows generalizing screen number y j with
  | nil => cases among
  | cons first rest ih =>
      rw [drawNumbered]
      -- The row is the first one, and what follows is below it; or the first one is above it.
      cases j with
      | zero =>
          obtain rfl : first = row := Option.some.inj among
          refine ⟨screen, .none, fun x => ?_⟩
          have later (screen : Screen) :
              (screen.drawNumbered area selected highlight (number + 1) (y + 1) rest).symbolAt x y =
                screen.symbolAt x y :=
            (changes_drawNumbered ..).symbolAt fun _ below => by omega
          refine (later _).trans ?_
          split
          · exact symbolAt_restyle ..
          · rfl
      | succ j =>
          have written : Changes (offRow (y + 1 + j)) screen
              (screen.writeLine area.x y area.width first) :=
            (changes_writeLine ..).offRow (.inr (by simp only; omega))
          have shown : Changes (offRow (y + 1 + j)) screen (if selected = some number then
                (screen.writeLine area.x y area.width first).restyle ⟨area.x, y, area.width, 1⟩
                  highlight
              else screen.writeLine area.x y area.width first) := by
            split
            · refine written.trans ((changes_restyle ..).mono fun _ i _ inside => ?_)
              have rows : y ≤ i ∧ i < y + 1 := inside.1.2
              simp only [offRow]
              omega
            · exact written
          obtain ⟨before, changes, same⟩ := ih _ (number + 1) (y + 1) (j := j) among
          have place : y + 1 + j = y + (j + 1) := by omega
          rw [place] at shown changes same
          exact ⟨before, shown.trans changes, same⟩

theorem changes_drawList (screen : Screen) (rows : List StyledLine) (offset : Nat) :
    Changes anywhere screen (screen.drawList area rows offset selected highlight) := by
  rw [drawList]
  split
  · exact .none
  · exact (changes_drawNumbered ..).anywhere

/-- **Each row of a list that is shown is written as if it were the only one.** -/
theorem symbolAt_drawList (screen : Screen) (highlight : Style) (full : ¬area.isEmpty = true)
    {rows : List StyledLine} {index offset : Nat} {row : StyledLine} (among : rows[index]? = some row)
    (start : (RowWindow.bounds rows.length area.height offset selected).1 ≤ index)
    (stop : index < (RowWindow.bounds rows.length area.height offset selected).2) {y : Nat}
    (place : y = area.y + (index - (RowWindow.bounds rows.length area.height offset selected).1)) :
    ∃ before, Changes (offRow y) screen before ∧
      ∀ x, (screen.drawList area rows offset selected highlight).symbolAt x y =
        (before.writeLine area.x y area.width row).symbolAt x y := by
  generalize window : RowWindow.bounds rows.length area.height offset selected = bounds at *
  obtain ⟨first, last⟩ := bounds
  have visible : ¬(area.isEmpty || rows = []) = true := by
    rintro hidden
    rcases Bool.or_eq_true_iff.mp hidden with empty | empty
    · exact full empty
    · rw [of_decide_eq_true empty] at among
      cases among
  have shown : ((rows.drop first).take (last - first))[index - first]? = .some row := by
    have stop : index < last := stop
    have start : first ≤ index := start
    rw [List.getElem?_take_of_lt (by omega), List.getElem?_drop, ← among]
    congr 1
    omega
  rw [drawList, if_neg visible, window, place]
  exact symbolAt_drawNumbered screen first area.y shown

end List

/-! ## Between the sides of a frame -/

/-- A symbol stands at both ends of a row. -/
structure Barred (screen : Screen) (y : Nat) (bar : Char) : Prop where
  left : screen.symbolAt 0 y = some [bar]
  right : screen.symbolAt (screen.width - 1) y = some [bar]

section Barred

variable {screen : Screen} {y : Nat} {bar : Char} (barred : screen.Barred y bar)

include barred

theorem Barred.of_same {after : Screen} (width : after.width = screen.width)
    (same : ∀ x, after.symbolAt x y = screen.symbolAt x y) : after.Barred y bar where
  left := (same 0).trans barred.left
  right := by
    rw [same, width]
    exact barred.right

theorem Barred.of_offRow {after : Screen} (changes : Changes (Screen.offRow y) screen after) :
    after.Barred y bar :=
  barred.of_same changes.width changes.symbolAt_of_offRow

/-- A line that is written between the bars leaves them. -/
theorem Barred.writeLine (wide : 2 ≤ screen.width) (line : StyledLine) :
    (screen.writeLine 1 y (screen.width - 2) line).Barred y bar := by
  have changes := changes_writeLine screen 1 y (screen.width - 2) line
  constructor
  · rw [changes.symbolAt_of_outside (by simp only [Area.Contains]; omega)]
    exact barred.left
  · rw [changes.width, changes.symbolAt_of_outside (by simp only [Area.Contains]; omega)]
    exact barred.right

/-- What can be read and does not end like a bar ends before the one on the right. -/
theorem Barred.le_of_reads {x : Nat} {text : Text} (reads : screen.Reads x y text) {c : Char}
    (last : text.getLast? = some c) (visible : c ≠ ' ') (apart : c ≠ bar) :
    x + text.length ≤ screen.width - 1 := by
  rw [List.getLast?_eq_getElem?] at last
  have there := reads.symbolAt last visible
  obtain ⟨inside, -⟩ := List.getElem?_eq_some_iff.mp last
  by_contra beyond
  by_cases edge : x + (text.length - 1) = screen.width - 1
  · rw [edge, barred.right] at there
    exact apart (List.head_eq_of_cons_eq (Option.some.inj there)).symm
  · rw [symbolAt, cellAt, if_neg (by omega)] at there
    cases there

/-- What fits of a line stands behind the left bar and what is in front of it. -/
theorem Barred.stands_writeLine (single : Text.columns [bar] = 1) (whole : screen.IsWhole)
    (row : y < screen.height) (wide : 2 ≤ screen.width) (front : StyledLine) {middle : StyledLine}
    (printed : ∀ c ∈ middle.text, Text.isPrinted c = true)
    (fits : front.columns + middle.text.length ≤ screen.width - 2) (back : StyledLine) :
    (screen.writeLine 1 y (screen.width - 2) (front ++ (middle ++ back))).Stands (1 + front.columns)
      y middle.text := by
  have room : min (screen.width - 2) (screen.width - 1) = screen.width - 2 := by omega
  have inside : 1 + (screen.width - 2) ≤ screen.width := by omega
  have start := Opens.edge.next barred.left
  rw [single] at start
  rw [Screen.writeLine, room]
  exact stands_writeSpans whole row inside start front printed fits back

/-- **Between two bars exactly that can be read that fits.** A text in spans of its own, which does
not end like a bar, is written behind what is in front of it. -/
theorem Barred.reads_iff (single : Text.columns [bar] = 1) (whole : screen.IsWhole)
    (row : y < screen.height) (wide : 2 ≤ screen.width) (front : StyledLine) {middle : StyledLine}
    (printed : ∀ c ∈ middle.text, Text.isPrinted c = true) {c : Char}
    (last : middle.text.getLast? = some c) (visible : c ≠ ' ') (apart : c ≠ bar) (back : StyledLine)
    {after : Screen} (width : after.width = screen.width) (height : after.height = screen.height)
    (same : ∀ x, after.symbolAt x y =
      (screen.writeLine 1 y (screen.width - 2) (front ++ (middle ++ back))).symbolAt x y) :
    after.Reads (1 + front.columns) y middle.text ↔
      front.columns + middle.text.length ≤ screen.width - 2 := by
  have written := changes_writeLine screen 1 y (screen.width - 2) (front ++ (middle ++ back))
  constructor
  · intro reads
    have bars := (barred.writeLine wide _).of_same (width.trans written.width.symm) same
    have short := bars.le_of_reads reads last visible apart
    omega
  · intro fits
    have stands := barred.stands_writeLine single whole row wide front printed fits back
    exact Stands.reads (stands.of_same same) (height ▸ row) printed

end Barred

end Screen

end Reckoner
