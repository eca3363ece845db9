import Reckoner.Proofs.Console.Answers
import Reckoner.Proofs.Console.Recall
import Reckoner.Proofs.Console.Redrawing
import Reckoner.Proofs.Screen.Drawing

/-!
# The list on the screen

The rows of the list that are seen (`MainPage.rowShown?`) are written between the sides of its frame,
so what stands in spans of its own in such a row can be read exactly if it fits
(`MainPage.reads_paintList_iff`). The first row of the selected entry is always among them
(`MainPage.exists_rowShown?`). So the result of an entry can be read exactly if there is room for it
behind the first line of the expression (`Console.result_readable_iff`).
-/

namespace Reckoner

namespace MainPage

theorem changes_drawInput (screen : Screen) (palette : Palette) {area : Area}
    (wide : 0 < area.width) (tall : 3 ≤ area.height) (editor : Editor) :
    Screen.Changes Screen.anywhere screen (drawInput screen palette area editor).screen := by
  have framed := Screen.changes_drawFrame (y := area.y + 1) screen (inputFrame palette) wide
    (by omega) (by omega)
  have arrow (needed : Prop) [Decidable needed] (screen : Screen) (x y : Nat) (c : Char) :
      Screen.Changes Screen.anywhere screen
        (if needed then drawArrow screen palette x y c else screen) := by
    split
    · exact Screen.changes_put _ _ _ fun _ => trivial
    · exact .none
  exact (framed.trans (Screen.changes_drawCut ..)).trans
    ((arrow (0 < editor.scroll) ..).trans (arrow ..))

theorem changes_paintTop (console : Console) {screen : Screen} (wide : 0 < screen.width) :
    Screen.Changes Screen.anywhere screen (paintTop console screen).screen := by
  have input : Screen.Changes Screen.anywhere screen (drawInput screen console.theme.palette
      (inputArea screen.width) console.editor).screen :=
    changes_drawInput screen _ wide (Nat.le_refl 3) _
  rw [paintTop]
  dsimp only
  cases console.flash with
  | none => exact input.trans (Screen.changes_drawCut ..)
  | some flash => exact (input.trans (Screen.changes_drawCut ..)).trans (Screen.changes_drawCut ..)

/-- The row of the screen in which a row of the list is seen, if it is. -/
def rowShown? (console : Console) (now : Moment) (width height index : Nat) : Option Nat :=
  let inner := (listArea width height).inner
  let window := RowWindow.bounds (console.entryBlocks now inner.width).flatten.length inner.height
    console.listScroll console.entryRows[console.selected]?
  if window.1 ≤ index ∧ index < window.2 then some (inner.y + (index - window.1)) else none

/-- A row of the list that is seen is inside the frame. -/
theorem rowShown?_lt {console : Console} {now : Moment} {width height index y : Nat}
    (tall : minHeight ≤ height) (shown : rowShown? console now width height index = some y) :
    listRow < y ∧ y + 1 < height := by
  have fits := RowWindow.bounds_le
    (console.entryBlocks now (listArea width height).inner.width).flatten.length
    (listArea width height).inner.height console.listScroll console.entryRows[console.selected]?
  rw [minHeight] at tall
  rw [rowShown?] at shown
  split at shown
  · obtain rfl := Option.some.inj shown
    simp only [listArea, Area.inner, listRow] at *
    omega
  · cases shown

/-- The first row of the selected entry is seen. -/
theorem exists_rowShown? {console : Console} (now : Moment) {width height : Nat}
    (tall : minHeight ≤ height) {index : Nat}
    (selected : console.entryRows[console.selected]? = some index)
    (among : index < (console.entryBlocks now (width - 2)).flatten.length) :
    ∃ y, rowShown? console now width height index = some y := by
  have room : 0 < (listArea width height).inner.height := by
    rw [minHeight] at tall
    simp only [listArea, Area.inner, listRow]
    omega
  rw [rowShown?, selected]
  exact ⟨_, if_pos (RowWindow.bounds_holds console.listScroll among room)⟩

section Frame

variable (palette : Palette) {screen : Screen} (wide : minWidth ≤ screen.width) {y : Nat}
  (above : listRow < y) (below : y + 1 < screen.height)

include wide above below

theorem changes_drawFrame_listArea :
    Screen.Changes Screen.anywhere screen
      (screen.drawFrame (listArea screen.width screen.height) (listFrame palette)) := by
  refine Screen.changes_drawFrame (y := y) screen _ (Nat.lt_of_lt_of_le (by decide) wide) above ?_
  simp only [listArea]
  omega

/-- The frame of the list stands at both ends of the rows inside it. -/
theorem barred_listArea (whole : screen.IsWhole) :
    (screen.drawFrame (listArea screen.width screen.height) (listFrame palette)).Barred y '│' := by
  have changes := changes_drawFrame_listArea palette wide above below
  have side {x : Nat} (ends : x = 0 ∨ x = screen.width - 1) :
      (screen.drawFrame (listArea screen.width screen.height) (listFrame palette)).symbolAt x y =
        some ['│'] := by
    rw [minWidth] at wide
    refine whole.symbolAt_drawFrame ?_ ?_ ?_ ?_ above ?_ _
    · simp only [listArea]
      omega
    · simp only [listArea]
      omega
    · simp only [listArea]
      omega
    · simp only [listArea]
      omega
    · simp only [listArea]
      omega
  exact ⟨side (.inl rfl), by rw [changes.width]; exact side (.inr rfl)⟩

end Frame

section Rows

variable (console : Console) (now : Moment) {screen : Screen} (whole : screen.IsWhole)
  (wide : minWidth ≤ screen.width) (tall : minHeight ≤ screen.height)

include wide tall

theorem changes_paintList (filled : ¬console.entries.isEmpty = true) :
    Screen.Changes Screen.anywhere screen
      (paintList console now screen (listArea screen.width screen.height)) := by
  rw [minHeight] at tall
  have framed := changes_drawFrame_listArea console.theme.palette wide (y := listRow + 1)
    (Nat.lt_succ_self _) (by rw [listRow]; omega)
  rw [paintList, if_neg filled]
  exact framed.trans (Screen.changes_drawList ..)

include whole

/-- A row of the list that is seen is written between the sides of the frame. -/
theorem exists_symbolAt_paintList (filled : ¬console.entries.isEmpty = true) {index y : Nat}
    {row : StyledLine}
    (among : (console.entryBlocks now (screen.width - 2)).flatten[index]? = some row)
    (shown : rowShown? console now screen.width screen.height index = some y) :
    ∃ before : Screen, before.IsWhole ∧ before.width = screen.width ∧
      before.height = screen.height ∧ before.Barred y '│' ∧
      ∀ x, (paintList console now screen (listArea screen.width screen.height)).symbolAt x y =
        (before.writeLine 1 y (screen.width - 2) row).symbolAt x y := by
  obtain ⟨above, below⟩ := rowShown?_lt tall shown
  have framed := changes_drawFrame_listArea console.theme.palette wide above below
  have barred := barred_listArea console.theme.palette wide above below whole
  rw [minWidth] at wide
  rw [minHeight] at tall
  have room : ¬(listArea screen.width screen.height).inner.isEmpty = true := by
    simp only [Area.isEmpty, Bool.or_eq_true, decide_eq_true_eq]
    simp only [listArea, Area.inner, listRow]
    omega
  have start : (listArea screen.width screen.height).inner.x = 1 := by
    simp only [listArea, Area.inner]
    omega
  rw [rowShown?] at shown
  split at shown
  · rename_i inside
    obtain ⟨before, off, same⟩ := Screen.symbolAt_drawList
      (screen.drawFrame (listArea screen.width screen.height) (listFrame console.theme.palette))
      (selectionStyle console.theme.palette) room among inside.1 inside.2
      (Option.some.inj shown).symm
    have changes := framed.trans off.anywhere
    rw [start] at same
    refine ⟨before, changes.isWhole whole, changes.width, changes.height, barred.of_offRow off, ?_⟩
    rw [paintList, if_neg filled]
    exact same
  · cases shown

/-- **What stands in spans of its own in a row of the list that is seen can be read exactly if it
fits**, where its last character is no blank and not like a side of the frame. -/
theorem reads_paintList_iff (filled : ¬console.entries.isEmpty = true) {index y : Nat}
    {front middle back : StyledLine}
    (among : (console.entryBlocks now (screen.width - 2)).flatten[index]? =
      some (front ++ (middle ++ back)))
    (shown : rowShown? console now screen.width screen.height index = some y)
    (printed : ∀ c ∈ middle.text, Text.isPrinted c = true) {c : Char}
    (last : middle.text.getLast? = some c) (seen : Text.isSeen c = true) :
    (paintList console now screen (listArea screen.width screen.height)).Reads (1 + front.columns) y
        middle.text ↔ front.columns + middle.text.length ≤ screen.width - 2 := by
  obtain ⟨above, below⟩ := rowShown?_lt tall shown
  have listed := changes_paintList console now wide tall filled
  obtain ⟨before, whole, columns, rows, barred, same⟩ :=
    exists_symbolAt_paintList console now whole wide tall filled among shown
  rw [minWidth] at wide
  have reads := barred.reads_iff (by decide +kernel) whole (by omega) (by omega) front printed last
    (by rintro rfl; exact absurd seen (by decide)) (by rintro rfl; exact absurd seen (by decide))
    back (listed.width.trans columns.symm) (listed.height.trans rows.symm)
    (by rw [columns]; exact same)
  rw [columns] at reads
  exact reads

end Rows

theorem entryRows_layOut (console : Console) (filled : ¬console.entries.isEmpty = true)
    (now : Moment) (width height : Nat) :
    (layOut console now width height).entryRows =
      Console.blockStarts 0 (console.entryBlocks now (width - 2)) := by
  rw [layOut, layOutEntries, if_neg filled]
  rfl

end MainPage

namespace Console

/-- Drawing keeps the rows of the list. -/
theorem entryBlocks_of_drawn {console after : Console} {height : Nat}
    (kept : console.Drawn height after) (now : Moment) (width : Nat) :
    after.entryBlocks now width = console.entryBlocks now width := by
  rw [entryBlocks, entryBlocks, theme, theme, kept.session, kept.entries, kept.selected]

section Result

variable (console : Console) (now : Moment) {width height : Nat}
  (main : console.showsHelp = false) (wide : MainPage.minWidth ≤ width)
  (tall : MainPage.minHeight ≤ height)

include main wide tall

/-- On a large terminal the page is laid out and painted. -/
theorem draw_of_large :
    console.draw now width height =
      (MainPage.layOut { console with tooSmall := false } now width height,
        MainPage.paint (MainPage.layOut { console with tooSmall := false } now width height) now
          (ground console.theme.palette width height)) := by
  have help : ¬console.showsHelp = true := Bool.eq_false_iff.mp main
  have large : ¬MainPage.isTooSmall width height = true := by
    simp only [MainPage.isTooSmall, Bool.or_eq_true, decide_eq_true_eq]
    omega
  rw [draw_eq, laidOut_of_page help large, painted_layOut help]

/-- The list is painted over what stands above it. -/
theorem exists_screen_draw :
    ∃ top : Screen, top.IsWhole ∧ top.width = width ∧ top.height = height ∧
      (console.draw now width height).2.screen =
        MainPage.paintList (console.draw now width height).1 now top
          (MainPage.listArea width height) := by
  rw [draw_of_large console now main wide tall]
  generalize MainPage.layOut { console with tooSmall := false } now width height = page
  have wide : 0 < (ground console.theme.palette width height).width := by
    rw [width_ground]
    exact Nat.lt_of_lt_of_le (by decide) wide
  have drawn := MainPage.changes_paintTop page wide
  refine ⟨_, drawn.isWhole (isWhole_ground ..), ?_, ?_, ?_⟩
  · rw [drawn.width, width_ground]
  · rw [drawn.height, height_ground]
  · rw [MainPage.paint, width_ground, height_ground]

theorem entryRows_draw (filled : ¬console.entries.isEmpty = true) :
    (console.draw now width height).1.entryRows =
      blockStarts 0 (console.entryBlocks now (width - 2)) := by
  rw [draw_of_large console now main wide tall]
  exact MainPage.entryRows_layOut { console with tooSmall := false } filled ..

/-- What stands in spans of its own in a row of the list that is seen can be read exactly if it
fits. -/
theorem reads_draw_iff (filled : ¬console.entries.isEmpty = true) {index y : Nat}
    {front middle back : StyledLine}
    (among : (console.entryBlocks now (width - 2)).flatten[index]? =
      some (front ++ (middle ++ back)))
    (shown : MainPage.rowShown? (console.draw now width height).1 now width height index = some y)
    (printed : ∀ c ∈ middle.text, Text.isPrinted c = true) {c : Char}
    (last : middle.text.getLast? = some c) (seen : Text.isSeen c = true) :
    (console.draw now width height).2.screen.Reads (1 + front.columns) y middle.text ↔
      front.columns + middle.text.length ≤ width - 2 := by
  obtain ⟨top, whole, columns, rows, painted⟩ := exists_screen_draw console now main wide tall
  subst columns rows
  have kept := drawn console now top.width top.height
  rw [← entryBlocks_of_drawn kept] at among
  rw [← kept.entries] at filled
  rw [painted]
  exact MainPage.reads_paintList_iff _ now whole wide tall filled among shown printed last seen

end Result

/-- **The result of an entry on the screen.** On every terminal that is large enough, the first row of
an entry holds the result in full exactly if there is room for it behind the first line of the
expression. That row is seen for the selected entry at least; and wherever it is seen, the result can
be read there exactly if there is room for it. -/
theorem result_readable_iff (console : Console) (now : Moment) {width height : Nat}
    (main : console.showsHelp = false) (wide : MainPage.minWidth ≤ width)
    (tall : MainPage.minHeight ≤ height) {i : Nat} {entry : Entry}
    (listed : console.entries[i]? = some entry) :
    ((∃ row, (console.entryBlocks now (width - 2))[i]?.bind List.head? = some row ∧
        entry.HoldsAnswer (width - 2) row) ↔ entry.FitsIn (width - 2)) ∧
      ∀ line, entry.firstLine (width - 2) = some line →
        ∃ start, (console.draw now width height).1.entryRows[i]? = some start ∧
          (i = console.selected → ∃ y,
            MainPage.rowShown? (console.draw now width height).1 now width height start = some y) ∧
          ∀ y, MainPage.rowShown? (console.draw now width height).1 now width height start =
              some y →
            ((console.draw now width height).2.screen.Reads (1 + Entry.leadColumns line) y
                entry.answer ↔ entry.FitsIn (width - 2)) := by
  have filled : ¬console.entries.isEmpty = true := by
    intro empty
    rw [List.isEmpty_iff.mp empty] at listed
    cases listed
  obtain ⟨below, single, block⟩ := getElem?_entryBlocks listed now (width - 2)
  have rows := entryRows_draw console now main wide tall filled
  have kept := drawn console now width height
  refine ⟨?_, fun line first => ?_⟩
  · rw [block]
    exact entry.holdsAnswer_iff console.theme.palette now _ single
  · have top := entry.head?_rows console.theme.palette now (i = console.selected) below first
    obtain ⟨start, starts, among⟩ := exists_blockStart block top 0
    rw [Nat.zero_add, ← rows] at starts
    refine ⟨start, starts, ?_, fun y shown => ?_⟩
    · rintro rfl
      obtain ⟨inside, -⟩ := List.getElem?_eq_some_iff.mp among
      refine MainPage.exists_rowShown? now tall ?_ ?_
      · rw [kept.selected]
        exact starts
      · rw [entryBlocks_of_drawn kept]
        exact inside
    · obtain ⟨c, last, seen⟩ := entry.exists_getLast?_answer
      have text := entry.text_answerSpans console.theme.palette
      have reads := reads_draw_iff console now main wide tall filled among shown
        (by rw [text]; exact entry.printed_answer) (by rw [text]; exact last) seen
      rw [text, Entry.columns_leadSpans] at reads
      rw [reads, Entry.fitsIn_iff first]

/-- A sum that takes two rows, below a short one. -/
def wrappedSum : Console :=
  (ofSession (Session.inMemory {} Settings.standard)).runAll
    [.insert "1+1".toList, .submit ⟨0, 0⟩ 1000,
      .insert ("12+3".toList ++ Text.copies 40 '0'), .submit ⟨1, 0⟩ 2000]

theorem result_readable_iff_wrappedSum :
    wrappedSum.Reachable ∧ wrappedSum.showsHelp = false ∧ MainPage.minWidth ≤ 50 ∧
      MainPage.minHeight ≤ 10 ∧
      ∃ entry, wrappedSum.entries[1]? = some entry ∧
        entry.firstLine 48 = some "12 +".toList ∧ entry.answer = " = 3.000000e40".toList ∧
        ∃ start y, (wrappedSum.draw ⟨2, 0⟩ 50 10).1.entryRows[1]? = some start ∧
          MainPage.rowShown? (wrappedSum.draw ⟨2, 0⟩ 50 10).1 ⟨2, 0⟩ 50 10 start = some y ∧
          (wrappedSum.draw ⟨2, 0⟩ 50 10).2.screen.Reads 7 y " = 3.000000e40".toList := by
  have listed : (wrappedSum.entries[1]?).map (fun entry => (entry.input, entry.answer)) =
      some ("12+3".toList ++ Text.copies 40 '0', " = 3.000000e40".toList) := by decide +kernel
  obtain ⟨entry, listed, same⟩ := Option.map_eq_some_iff.mp listed
  obtain ⟨input, answer⟩ := Prod.mk.inj same
  have first : entry.firstLine 48 = some "12 +".toList := by
    rw [Entry.firstLine, input]
    decide +kernel
  have columns : Entry.leadColumns "12 +".toList = 6 := by decide +kernel
  have room : entry.FitsIn 48 := by
    rw [Entry.fitsIn_iff first, columns, answer]
    decide
  have main : wrappedSum.showsHelp = false := by decide +kernel
  have wide : MainPage.minWidth ≤ 50 := by decide
  have tall : MainPage.minHeight ≤ 10 := by decide
  obtain ⟨start, starts, seen, reads⟩ :=
    (wrappedSum.result_readable_iff ⟨2, 0⟩ main wide tall listed).2 _ first
  obtain ⟨y, shown⟩ := seen (by decide +kernel)
  have readable := (reads y shown).mpr room
  rw [columns, answer] at readable
  exact ⟨⟨_, _, rfl⟩, main, wide, tall, entry, listed, first, answer, start, y, starts, shown,
    readable⟩

/-- A number that fills a row. -/
def longNumber : Console :=
  (ofSession (Session.inMemory {} Settings.standard)).runAll
    [.insert (Text.copies 44 '0'), .submit ⟨0, 0⟩ 1000]

/-- There is no room for the result behind a number that fills a row. -/
theorem not_result_readable_of_long :
    ¬∀ console : Console, console.Reachable → console.showsHelp = false →
      ∀ (now : Moment) (width height : Nat), MainPage.minWidth ≤ width →
        MainPage.minHeight ≤ height → ∀ (i : Nat) (entry : Entry),
        console.entries[i]? = some entry →
        ∃ row, (console.entryBlocks now (width - 2))[i]?.bind List.head? = some row ∧
          entry.HoldsAnswer (width - 2) row := by
  intro always
  have listed : (longNumber.entries[0]?).map (fun entry => (entry.input, entry.answer)) =
      some (Text.copies 44 '0', " = 0".toList) := by decide +kernel
  obtain ⟨entry, listed, same⟩ := Option.map_eq_some_iff.mp listed
  obtain ⟨input, answer⟩ := Prod.mk.inj same
  have first : entry.firstLine 48 = some (Text.copies 44 '0') := by
    rw [Entry.firstLine, input]
    decide +kernel
  have columns : Entry.leadColumns (Text.copies 44 '0') = 46 := by decide +kernel
  have holds := always longNumber ⟨_, _, rfl⟩ (by decide +kernel) ⟨0, 0⟩ 50 10 (by decide)
    (by decide) 0 entry listed
  obtain ⟨below, single, block⟩ := getElem?_entryBlocks listed ⟨0, 0⟩ 48
  rw [block] at holds
  have room := (entry.holdsAnswer_iff longNumber.theme.palette ⟨0, 0⟩ _ single).mp holds
  rw [Entry.fitsIn_iff first, columns, answer] at room
  exact absurd room (by decide)

end Console

end Reckoner
