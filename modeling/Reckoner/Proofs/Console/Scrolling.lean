import Reckoner.Console.MainPage
import Reckoner.Proofs.Screen.Cells
import Reckoner.Proofs.Text.Narrow

/-!
# The cursor in the box of the input line

The input line is scrolled in two steps: after the cursor, and then back as far as the text leaves
room at its end. The second step has no room for a cursor behind the last character, so where the
text fills the box and the cursor is at its end, the cursor is one place beyond what is visible
(`Editor.Overruns`), and nowhere else (`Editor.cursor_scrollTo_lt_iff`). On the screen that place is
the border of the box (`Editor.cursor_visible_iff`).
-/

namespace Reckoner

namespace Editor

/-- The text fills what is visible, and the cursor is behind its last character. -/
def Overruns (editor : Editor) (visible : Nat) : Prop :=
  editor.cursor = editor.length ∧ visible ≤ editor.length

instance (editor : Editor) (visible : Nat) : Decidable (editor.Overruns visible) :=
  inferInstanceAs (Decidable (_ ∧ _))

section Scroll

variable {editor : Editor} {visible : Nat}

/-! ## Places -/

/-- What is visible starts at the cursor or before it. -/
theorem scroll_scrollTo_le (positive : 0 < visible) :
    (editor.scrollTo visible).scroll ≤ editor.cursor := by
  simp only [scrollTo]
  split
  · omega
  split
  · omega
  · omega

/-- **The cursor is among the visible places but where the text overruns them.** -/
theorem cursor_scrollTo_lt_iff (positive : 0 < visible) :
    editor.cursor < (editor.scrollTo visible).scroll + visible ↔ ¬editor.Overruns visible := by
  have within : editor.cursor ≤ editor.length := Nat.le_add_right _ _
  simp only [scrollTo, Overruns]
  split
  · omega
  split
  · omega
  · omega

/-- Where it overruns them, the cursor is at the place behind them. -/
theorem Overruns.cursor_sub (overruns : editor.Overruns visible) :
    editor.cursor - (editor.scrollTo visible).scroll = visible := by
  obtain ⟨atEnd, full⟩ := overruns
  simp only [scrollTo]
  split
  · omega
  split
  · omega
  · omega

/-- A line that is scrolled to its cursor, or to its end, stays where it is. -/
theorem scrollTo_eq_self (before : editor.scroll ≤ editor.cursor)
    (room : editor.scroll ≤ editor.length - visible)
    (follows : editor.cursor < editor.scroll + visible ∨
      editor.scroll = editor.length - visible) : editor.scrollTo visible = editor := by
  have stays : (editor.scrollTo visible).scroll = editor.scroll := by
    simp only [scrollTo]
    split
    · omega
    split
    · omega
    · omega
  have same : editor.scrollTo visible =
      { editor with scroll := (editor.scrollTo visible).scroll } := rfl
  rw [same, stays]

/-- **Scrolling again changes nothing.** -/
theorem scrollTo_scrollTo (positive : 0 < visible) :
    (editor.scrollTo visible).scrollTo visible = editor.scrollTo visible := by
  apply scrollTo_eq_self
  · exact scroll_scrollTo_le positive
  · exact Nat.min_le_right _ _
  · by_cases overruns : editor.Overruns visible
    · have behind := overruns.cursor_sub
      have atEnd : (editor.scrollTo visible).length = editor.cursor := overruns.1.symm
      have before : (editor.scrollTo visible).scroll ≤ editor.cursor := scroll_scrollTo_le positive
      exact .inr (by omega)
    · exact .inl ((cursor_scrollTo_lt_iff positive).mpr overruns)

/-! ## On the screen -/

/-- The visible text before the cursor. -/
def visibleBefore (editor : Editor) (visible : Nat) : Text :=
  (editor.visible visible).take (editor.cursor - editor.scroll)

theorem mem_visible {c : Char} (member : c ∈ editor.visible visible) : c ∈ editor.text :=
  List.mem_of_mem_drop (List.mem_of_mem_take member)

theorem columns_visibleBefore_le (narrow : Text.IsNarrow editor.text) :
    Text.columns (editor.visibleBefore visible) ≤ editor.cursor - editor.scroll := by
  have part : Text.IsNarrow (editor.visibleBefore visible) :=
    fun c member => narrow c (mem_visible (List.mem_of_mem_take member))
  exact (Text.columns_le_length part).trans (List.length_take_le _ _)

/-- Where the text overruns what is visible, all of that is before the cursor. -/
theorem Overruns.visibleBefore (overruns : editor.Overruns visible) :
    (editor.scrollTo visible).visibleBefore visible =
      (editor.scrollTo visible).visible visible := by
  have behind : (editor.scrollTo visible).cursor - (editor.scrollTo visible).scroll = visible :=
    overruns.cursor_sub
  rw [Editor.visibleBefore, behind]
  exact List.take_of_length_le (List.length_take_le _ _)

end Scroll

/-- **The cursor in the box.** For every text, every cursor in it, every earlier scroll, and every
count of visible characters but zero: scrolling leaves the cursor behind the start of what is
visible; and before its end exactly unless the text fills it and the cursor is behind the last
character. In a box with that much room, a text of characters of one column has the cursor inside
the border, unless the visible characters fill the box and the cursor is behind them: then it is on
the border. -/
theorem cursor_visible_iff (editor : Editor) {visible : Nat} (positive : 0 < visible) :
    (editor.scrollTo visible).scroll ≤ (editor.scrollTo visible).cursor ∧
      ((editor.scrollTo visible).cursor < (editor.scrollTo visible).scroll + visible ↔
        ¬editor.Overruns visible) ∧
      ∀ screen palette (area : Area), MainPage.visibleWidth area.inner = visible →
        0 < area.inner.height → Text.IsNarrow editor.text →
        ∃ x, (MainPage.drawInput screen palette area (editor.scrollTo visible)).cursor =
            some (x, area.inner.y) ∧
          (area.inner.Contains x area.inner.y ↔
            ¬(editor.Overruns visible ∧
              Text.columns ((editor.scrollTo visible).visible visible) = visible)) ∧
          (¬area.inner.Contains x area.inner.y → x = area.inner.x + area.inner.width) := by
  have followed : editor.cursor < (editor.scrollTo visible).scroll + visible ↔
      ¬editor.Overruns visible := cursor_scrollTo_lt_iff positive
  refine ⟨scroll_scrollTo_le positive, followed, ?_⟩
  intro screen palette area room tall narrow
  have width : area.inner.width = visible + MainPage.prompt.length := by
    have two : MainPage.prompt.length = 2 := rfl
    rw [MainPage.visibleWidth] at room
    omega
  refine ⟨area.inner.x + MainPage.prompt.length +
    Text.columns ((editor.scrollTo visible).visibleBefore visible), ?_, ?_⟩
  · subst room
    rfl
  · have short : Text.columns ((editor.scrollTo visible).visibleBefore visible) ≤
        editor.cursor - (editor.scrollTo visible).scroll := columns_visibleBefore_le narrow
    simp only [Area.Contains, width]
    by_cases overruns : editor.Overruns visible
    · have behind := overruns.cursor_sub
      rw [overruns.visibleBefore] at short ⊢
      simp only [overruns, true_and]
      omega
    · have before := followed.mpr overruns
      simp only [overruns, false_and, not_false_eq_true, iff_true]
      omega

/-- A sum that is longer than the box, scrolled to its end, with the cursor back on its first sign. -/
def longSum : Editor where
  before := "+21".toList
  after := "345×π+6".toList
  scroll := 5

theorem cursor_visible_iff_longSum :
    0 < 5 ∧ (longSum.scrollTo 5).scroll ≤ (longSum.scrollTo 5).cursor ∧
      (longSum.scrollTo 5).cursor < (longSum.scrollTo 5).scroll + 5 ∧
      (MainPage.visibleWidth (⟨0, 0, 9, 3⟩ : Area).inner = 5 ∧ Text.IsNarrow longSum.text) ∧
      ∃ x, (MainPage.drawInput (Screen.blank 9 3) Theme.cyber.palette ⟨0, 0, 9, 3⟩
          (longSum.scrollTo 5)).cursor = some (x, 1) ∧
        (⟨0, 0, 9, 3⟩ : Area).inner.Contains x 1 := by
  have inside : ¬longSum.Overruns 5 := by decide
  have narrow : Text.IsNarrow longSum.text := by decide +kernel
  obtain ⟨before, behind, drawn⟩ := longSum.cursor_visible_iff (show 0 < 5 by decide)
  obtain ⟨x, cursor, boxed, -⟩ :=
    drawn (Screen.blank 9 3) Theme.cyber.palette ⟨0, 0, 9, 3⟩ rfl (by decide) narrow
  exact ⟨by decide, before, behind.mpr inside, ⟨rfl, narrow⟩, x, cursor,
    boxed.mpr fun overrun => inside overrun.1⟩

/-- Three digits fill a box of three places, and the cursor behind them is outside. -/
theorem not_cursor_visible_of_full :
    ¬∀ (editor : Editor) (visible : Nat), 0 < visible →
      (editor.scrollTo visible).scroll ≤ (editor.scrollTo visible).cursor ∧
        (editor.scrollTo visible).cursor < (editor.scrollTo visible).scroll + visible := by
  intro always
  exact absurd (always (ofText "123".toList) 3 (by decide)) (by decide)

end Editor

end Reckoner
