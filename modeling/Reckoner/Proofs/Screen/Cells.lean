import Reckoner.Screen.Canvas

/-!
# Cells

The screen seen cell by cell. Everything is drawn by changing one cell after the other
(`Screen.Changes`), so a drawing is described by which cells it may change and how: the size of the
screen is kept, and so is each symbol that none of the changes touches (`Changes.symbolAt`).

A symbol of two columns hides the cell behind it. A place at which a symbol starts is open
(`Screen.Opens`), and at an open place the symbol of the cell is seen (`Screen.Opens.seen`).
-/

namespace Reckoner

/-- A place is in an area. -/
def Area.Contains (area : Area) (x y : Nat) : Prop :=
  (area.x ≤ x ∧ x < area.x + area.width) ∧ area.y ≤ y ∧ y < area.y + area.height

namespace Screen

/-- The screen has a cell for each of its places. -/
def IsWhole (screen : Screen) : Prop := screen.cells.size = screen.width * screen.height

/-- The cell at a place, if it is on the screen. -/
def cellAt (screen : Screen) (x y : Nat) : Option Cell :=
  if x < screen.width then screen.cells[y * screen.width + x]? else none

/-- The symbol at a place, if it is on the screen. -/
def symbolAt (screen : Screen) (x y : Nat) : Option Text := (screen.cellAt x y).map Cell.symbol

theorem isWhole_blank (width height : Nat) : (blank width height).IsWhole :=
  Array.size_replicate

/-- Two places in rows of one width have the same number only if they are the same. -/
theorem place_inj {width x y i j : Nat} (first : x < width) (second : i < width)
    (same : y * width + x = j * width + i) : x = i ∧ y = j := by
  have rows : y = j := by
    have left : (y * width + x) / width = y := by
      rw [Nat.mul_comm, Nat.mul_add_div (by omega), Nat.div_eq_of_lt first, Nat.add_zero]
    have right : (j * width + i) / width = j := by
      rw [Nat.mul_comm, Nat.mul_add_div (by omega), Nat.div_eq_of_lt second, Nat.add_zero]
    rw [← left, ← right, same]
  subst rows
  exact ⟨by omega, rfl⟩

/-- A whole screen has a cell at each place within its size. -/
theorem IsWhole.exists_cell {screen : Screen} (whole : screen.IsWhole) {x y : Nat}
    (column : x < screen.width) (row : y < screen.height) :
    ∃ cell, screen.cellAt x y = some cell := by
  have inside : y * screen.width + x < screen.cells.size := by
    have rows : (y + 1) * screen.width ≤ screen.height * screen.width :=
      Nat.mul_le_mul_right _ row
    rw [whole, Nat.mul_comm screen.width]
    rw [Nat.succ_mul] at rows
    omega
  exact ⟨screen.cells[y * screen.width + x], by
    rw [cellAt, if_pos column, Array.getElem?_eq_getElem inside]⟩

/-! ## One change -/

section Modify

variable (screen : Screen) (x y : Nat) (change : Cell → Cell)

theorem width_modify : (screen.modify x y change).width = screen.width := by
  rw [modify]
  split
  · rfl
  · rfl

theorem size_modify : (screen.modify x y change).cells.size = screen.cells.size := by
  rw [modify]
  split
  · exact Array.size_modify
  · rfl

/-- One cell is changed. -/
theorem cellAt_modify (i j : Nat) :
    (screen.modify x y change).cellAt i j =
      if i = x ∧ j = y then (screen.cellAt i j).map change else screen.cellAt i j := by
  rw [cellAt, width_modify, cellAt]
  by_cases inside : i < screen.width
  · rw [if_pos inside, if_pos inside, modify]
    split
    · rename_i column
      by_cases same : i = x ∧ j = y
      · obtain ⟨rfl, rfl⟩ := same
        rw [if_pos ⟨rfl, rfl⟩, Array.getElem?_modify, if_pos rfl]
      · have apart : y * screen.width + x ≠ j * screen.width + i := fun equal =>
          same ((place_inj column inside equal).imp Eq.symm Eq.symm)
        rw [if_neg same, Array.getElem?_modify, if_neg apart]
    · rename_i outside
      rw [if_neg (fun same : i = x ∧ j = y => outside (same.1 ▸ inside))]
  · rw [if_neg inside, if_neg inside]
    split
    · rfl
    · rfl

end Modify

/-- A symbol that is put into a cell is there. -/
theorem IsWhole.symbolAt_put {screen : Screen} (whole : screen.IsWhole) {x y : Nat}
    (column : x < screen.width) (row : y < screen.height) (symbol : Text) (style : Style) :
    (screen.put x y symbol style).symbolAt x y = some symbol := by
  obtain ⟨cell, found⟩ := whole.exists_cell column row
  rw [symbolAt, put, cellAt_modify, if_pos ⟨rfl, rfl⟩, found]
  rfl

/-! ## Changes -/

/-- Cells changed one after the other, each in a way that is allowed at its place. -/
inductive Changes (allowed : Nat → Nat → (Cell → Cell) → Prop) (screen : Screen) :
    Screen → Prop where
  | none : Changes allowed screen screen
  | modify {after : Screen} {x y : Nat} {change : Cell → Cell}
      (earlier : Changes allowed screen after) (permitted : allowed x y change) :
      Changes allowed screen (after.modify x y change)

/-- Any change in an area. -/
def inArea (area : Area) (x y : Nat) (_ : Cell → Cell) : Prop := area.Contains x y

/-- Any change at all. -/
def anywhere (_ _ : Nat) (_ : Cell → Cell) : Prop := True

section Changes

variable {allowed others : Nat → Nat → (Cell → Cell) → Prop} {screen middle after : Screen}

theorem Changes.trans (first : Changes allowed screen middle)
    (second : Changes allowed middle after) : Changes allowed screen after := by
  induction second with
  | none => exact first
  | modify earlier permitted ih => exact .modify ih permitted

theorem Changes.mono (changes : Changes allowed screen after)
    (more : ∀ x y change, allowed x y change → others x y change) :
    Changes others screen after := by
  induction changes with
  | none => exact .none
  | modify earlier permitted ih => exact .modify ih (more _ _ _ permitted)

theorem Changes.anywhere (changes : Changes allowed screen after) :
    Changes anywhere screen after := changes.mono fun _ _ _ _ => trivial

theorem Changes.width (changes : Changes allowed screen after) : after.width = screen.width := by
  induction changes with
  | none => rfl
  | modify earlier permitted ih => rw [width_modify, ih]

theorem Changes.height (changes : Changes allowed screen after) :
    after.height = screen.height := by
  induction changes with
  | none => rfl
  | modify earlier permitted ih => rw [height_modify, ih]

theorem Changes.isWhole (changes : Changes allowed screen after) (whole : screen.IsWhole) :
    after.IsWhole := by
  induction changes with
  | none => exact whole
  | modify earlier permitted ih => rw [IsWhole, size_modify, width_modify, height_modify, ih]

/-- **A symbol stays that none of the changes touches.** -/
theorem Changes.symbolAt (changes : Changes allowed screen after) {x y : Nat}
    (keeps : ∀ change, allowed x y change → ∀ cell, (change cell).symbol = cell.symbol) :
    after.symbolAt x y = screen.symbolAt x y := by
  induction changes with
  | none => rfl
  | @modify after i j change earlier permitted ih =>
      rw [← ih, Screen.symbolAt, cellAt_modify]
      split
      · rename_i same
        obtain ⟨rfl, rfl⟩ := same
        rw [Option.map_map, Screen.symbolAt]
        exact congrFun (congrArg Option.map (funext (keeps change permitted))) _
      · rfl

/-- A symbol outside an area stays when that is changed. -/
theorem Changes.symbolAt_of_outside {area : Area} (changes : Changes (inArea area) screen after)
    {x y : Nat} (outside : ¬area.Contains x y) : after.symbolAt x y = screen.symbolAt x y :=
  changes.symbolAt fun _ inside => absurd inside outside

/-- Steps that change something each. -/
theorem changes_foldl {ι : Type} {step : Screen → ι → Screen} {list : List ι}
    (each : ∀ screen, ∀ i ∈ list, Changes allowed screen (step screen i)) (screen : Screen) :
    Changes allowed screen (list.foldl step screen) := by
  induction list generalizing screen with
  | nil => exact .none
  | cons i rest ih =>
      obtain ⟨first, others⟩ := List.forall_mem_cons.mp (each screen)
      exact first.trans (ih (fun screen i member => each screen i (List.mem_cons_of_mem _ member)) _)

theorem changes_put {x y : Nat} (screen : Screen) (symbol : Text) (style : Style)
    (permitted : ∀ change, allowed x y change) :
    Changes allowed screen (screen.put x y symbol style) := .modify .none (permitted _)

/-- Styles are put on the cells of an area, and their symbols stay. -/
theorem changes_restyle (screen : Screen) (area : Area) (style : Style) :
    Changes (fun x y change => area.Contains x y ∧ ∀ cell, (change cell).symbol = cell.symbol)
      screen (screen.restyle area style) := by
  refine changes_foldl (fun screen dy row => changes_foldl (fun screen dx column => ?_) screen) screen
  have row := List.mem_range.mp row
  have column := List.mem_range.mp column
  exact .modify .none ⟨⟨⟨by omega, by omega⟩, by omega, by omega⟩, fun _ => rfl⟩

theorem symbolAt_restyle (screen : Screen) (area : Area) (style : Style) (x y : Nat) :
    (screen.restyle area style).symbolAt x y = screen.symbolAt x y :=
  (changes_restyle screen area style).symbolAt fun _ allowed => allowed.2

end Changes

/-! ## What is seen -/

/-- A place in a row at which a symbol starts, if there is one: the first place, and the place behind
the columns of a symbol that starts. -/
inductive Opens (screen : Screen) (y : Nat) : Nat → Prop where
  | edge : Opens screen y 0
  | next {x : Nat} {symbol : Text} (start : Opens screen y x)
      (found : screen.symbolAt x y = some symbol) :
      Opens screen y (x + max 1 (Text.columns symbol))

/-- A place is open as long as no symbol before it changes. -/
theorem Opens.of_same {screen after : Screen} {y x : Nat} (start : screen.Opens y x)
    (same : ∀ i < x, after.symbolAt i y = screen.symbolAt i y) : after.Opens y x := by
  induction start with
  | edge => exact .edge
  | next start found ih =>
      refine .next (ih fun i before => same i (by omega)) ?_
      rw [same _ (by omega), found]

/-- A text stands in a row of the screen as it is seen, from a column on. -/
def Reads (screen : Screen) (x y : Nat) (text : Text) : Prop :=
  ∀ k c, text[k]? = some c →
    ∃ row cell, screen.rows[y]? = some row ∧ row[x + k]? = some cell ∧ cell.symbol = [c]

theorem getElem?_rowCells (screen : Screen) (x y : Nat) :
    (screen.rowCells y)[x]? = screen.cellAt x y := by
  have stop : (y + 1) * screen.width = y * screen.width + screen.width := Nat.succ_mul _ _
  rw [rowCells, Array.getElem?_toList, Array.getElem?_extract, cellAt]
  by_cases inside : x < screen.width
  · rw [if_pos inside]
    split
    · rfl
    · exact (Array.getElem?_eq_none (by omega)).symm
  · rw [if_neg inside, if_neg (by omega)]

/-- What hidden cells are counted down to. -/
theorem drop_seenCells (hidden : Nat) (row : List Cell) :
    (seenCells hidden row).drop hidden = seenCells 0 (row.drop hidden) := by
  induction hidden generalizing row with
  | zero => rfl
  | succ hidden ih =>
      cases row with
      | nil => rfl
      | cons cell rest => exact ih rest

/-- From an open place on, the row is seen as if it started there. -/
theorem Opens.drop_seenCells {screen : Screen} {y x : Nat} (start : screen.Opens y x) :
    (seenCells 0 (screen.rowCells y)).drop x = seenCells 0 ((screen.rowCells y).drop x) := by
  induction start with
  | edge => rfl
  | @next x symbol start found ih =>
      rw [symbolAt, Option.map_eq_some_iff] at found
      obtain ⟨cell, found, rfl⟩ := found
      rw [← getElem?_rowCells] at found
      have rest : (screen.rowCells y).drop x = cell :: (screen.rowCells y).drop (x + 1) := by
        obtain ⟨inside, same⟩ := List.getElem?_eq_some_iff.mp found
        rw [List.drop_eq_getElem_cons inside, same]
      have width : max 1 (Text.columns cell.symbol) = 1 + (Text.columns cell.symbol - 1) := by omega
      calc (seenCells 0 (screen.rowCells y)).drop (x + max 1 (Text.columns cell.symbol))
          = (seenCells (Text.columns cell.symbol - 1) ((screen.rowCells y).drop (x + 1))).drop
              (Text.columns cell.symbol - 1) := by
            rw [width, ← List.drop_drop, ih, rest, ← List.drop_drop]
            rfl
        _ = seenCells 0 ((screen.rowCells y).drop (x + max 1 (Text.columns cell.symbol))) := by
            rw [Screen.drop_seenCells, List.drop_drop, width, Nat.add_assoc]

/-- A symbol at an open place is seen. -/
theorem Opens.seen {screen : Screen} {x y : Nat} (start : screen.Opens y x) :
    (seenCells 0 (screen.rowCells y))[x]? = screen.cellAt x y := by
  have front {row : List Cell} : (seenCells 0 row)[0]? = row[0]? := by
    cases row with
    | nil => rfl
    | cons cell rest => rfl
  calc (seenCells 0 (screen.rowCells y))[x]?
      = ((seenCells 0 (screen.rowCells y)).drop x)[0]? := by rw [List.getElem?_drop, Nat.add_zero]
    _ = ((screen.rowCells y).drop x)[0]? := by rw [start.drop_seenCells, front]
    _ = screen.cellAt x y := by rw [List.getElem?_drop, Nat.add_zero, getElem?_rowCells]

/-- A cell that is seen is as it was drawn, or hidden. -/
theorem symbol_of_seenCells {hidden : Nat} {row : List Cell} {x : Nat} {cell : Cell}
    (seen : (seenCells hidden row)[x]? = some cell) :
    cell.symbol = [' '] ∨ row[x]? = some cell := by
  induction row generalizing hidden x with
  | nil => cases hidden <;> cases seen
  | cons first rest ih =>
      cases hidden with
      | zero =>
          cases x with
          | zero => exact .inr seen
          | succ x => exact ih seen
      | succ hidden =>
          cases x with
          | zero =>
              cases seen
              exact .inl rfl
          | succ x => exact ih seen

theorem getElem?_rows (screen : Screen) {y : Nat} (row : y < screen.height) :
    screen.rows[y]? = some (seenCells 0 (screen.rowCells y)) := by
  rw [rows, List.getElem?_map, List.getElem?_range row]
  rfl

/-- **Characters that stand at open places can be read.** -/
theorem reads_of_opens {screen : Screen} {x y : Nat} (row : y < screen.height) {text : Text}
    (opens : ∀ k < text.length, screen.Opens y (x + k))
    (found : ∀ k c, text[k]? = some c → screen.symbolAt (x + k) y = some [c]) :
    screen.Reads x y text := by
  intro k c place
  obtain ⟨inside, -⟩ := List.getElem?_eq_some_iff.mp place
  obtain ⟨cell, there, symbol⟩ := Option.map_eq_some_iff.mp (found k c place)
  refine ⟨_, cell, screen.getElem?_rows row, ?_, symbol⟩
  rw [(opens k inside).seen, there]

/-- What can be read has each of its characters, but the blanks, in its cell. -/
theorem Reads.symbolAt {screen : Screen} {x y : Nat} {text : Text} (reads : screen.Reads x y text)
    {k : Nat} {c : Char} (place : text[k]? = some c) (visible : c ≠ ' ') :
    screen.symbolAt (x + k) y = some [c] := by
  obtain ⟨row, cell, shown, seen, symbol⟩ := reads k c place
  have inside : y < screen.height := by
    obtain ⟨inside, -⟩ := List.getElem?_eq_some_iff.mp shown
    rwa [rows, List.length_map, List.length_range] at inside
  rw [getElem?_rows screen inside] at shown
  cases shown
  rcases symbol_of_seenCells seen with blank | drawn
  · rw [symbol] at blank
    exact absurd (List.head_eq_of_cons_eq blank) visible
  · rw [getElem?_rowCells] at drawn
    rw [Screen.symbolAt, drawn, ← symbol]
    rfl

end Screen

end Reckoner
