import Reckoner.Text.Basic

/-!
The input line as a text editor. The text is kept as what stands before the cursor, nearest
character first, and what stands after it, so that the cursor is always within the text. The scroll
is the count of characters that are hidden to the left of the visible part.
-/

namespace Reckoner

/-- The input line. -/
structure Editor where
  /-- The characters before the cursor, nearest first. -/
  before : Text := []
  /-- The characters after the cursor, nearest first. -/
  after : Text := []
  scroll : Nat := 0
  deriving DecidableEq, Repr

namespace Editor

/-- The whole text. -/
def text (editor : Editor) : Text := editor.before.reverse ++ editor.after

/-- The count of characters before the cursor. -/
def cursor (editor : Editor) : Nat := editor.before.length

/-- The count of characters. -/
def length (editor : Editor) : Nat := editor.before.length + editor.after.length

/-- An empty line. -/
def empty : Editor := {}

/-- A line with the cursor at its end, scrolled back to its start. -/
def ofText (text : Text) : Editor := { before := text.reverse }

/-- The same line with another text, the cursor at its end. -/
def replace (editor : Editor) (text : Text) : Editor := { ofText text with scroll := editor.scroll }

/-- Text put in at the cursor. -/
def insert (editor : Editor) (text : Text) : Editor :=
  { editor with before := text.reverse ++ editor.before }

/-- The character before the cursor taken out. -/
def deleteBefore (editor : Editor) : Editor := { editor with before := editor.before.tail }

/-- The character after the cursor taken out. -/
def deleteAfter (editor : Editor) : Editor := { editor with after := editor.after.tail }

/-- The cursor one character to the left. -/
def moveLeft (editor : Editor) : Editor :=
  match editor.before with
  | [] => editor
  | c :: rest => { editor with before := rest, after := c :: editor.after }

/-- The cursor one character to the right. -/
def moveRight (editor : Editor) : Editor :=
  match editor.after with
  | [] => editor
  | c :: rest => { editor with before := c :: editor.before, after := rest }

/-- The cursor at the start, and the text scrolled back to it. -/
def moveHome (editor : Editor) : Editor := { after := editor.text }

/-- The cursor at the end. -/
def moveEnd (editor : Editor) : Editor :=
  { editor with before := editor.after.reverse ++ editor.before, after := [] }

/-- The cursor at the start of the word that it is in or after. -/
def moveWordLeft (editor : Editor) : Editor :=
  let blanks := editor.before.takeWhile Text.isBlank
  let rest := editor.before.dropWhile Text.isBlank
  let word := rest.takeWhile (fun c => !Text.isBlank c)
  { editor with
    before := rest.dropWhile (fun c => !Text.isBlank c)
    after := word.reverse ++ blanks.reverse ++ editor.after }

/-- The cursor at the start of the next word. -/
def moveWordRight (editor : Editor) : Editor :=
  let word := editor.after.takeWhile (fun c => !Text.isBlank c)
  let rest := editor.after.dropWhile (fun c => !Text.isBlank c)
  let blanks := rest.takeWhile Text.isBlank
  { editor with
    before := blanks.reverse ++ word.reverse ++ editor.before
    after := rest.dropWhile Text.isBlank }

/-- Scrolls so that the cursor is among the visible characters, and no further to the right than
until the end of the text is visible. -/
def scrollTo (editor : Editor) (visible : Nat) : Editor :=
  let wanted :=
    if editor.cursor < editor.scroll then editor.cursor
    else if editor.scroll + visible ≤ editor.cursor then editor.cursor - visible + 1
    else editor.scroll
  { editor with scroll := min wanted (editor.length - visible) }

/-- The characters that are visible. -/
def visible (editor : Editor) (count : Nat) : Text := (editor.text.drop editor.scroll).take count

/-! What each operation does to the text and the cursor. -/

theorem cursor_le (editor : Editor) : editor.cursor ≤ editor.text.length := by
  simp [cursor, text]

theorem text_ofText (t : Text) : (ofText t).text = t := by simp [ofText, text]

theorem cursor_ofText (t : Text) : (ofText t).cursor = t.length := by simp [ofText, cursor]

theorem text_insert (editor : Editor) (t : Text) :
    (editor.insert t).text =
      editor.text.take editor.cursor ++ t ++ editor.text.drop editor.cursor := by
  have taken : editor.text.take editor.cursor = editor.before.reverse :=
    List.take_left' (by simp [cursor])
  have dropped : editor.text.drop editor.cursor = editor.after :=
    List.drop_left' (by simp [cursor])
  rw [taken, dropped]
  simp [insert, text]

theorem cursor_insert (editor : Editor) (t : Text) :
    (editor.insert t).cursor = editor.cursor + t.length := by
  simp [insert, cursor, Nat.add_comm]

theorem text_moveLeft (editor : Editor) : editor.moveLeft.text = editor.text := by
  unfold moveLeft
  split
  · rfl
  · rename_i c rest found
    simp [text, found]

theorem cursor_moveLeft (editor : Editor) : editor.moveLeft.cursor = editor.cursor - 1 := by
  unfold moveLeft
  split
  · rename_i found
    simp [cursor, found]
  · rename_i c rest found
    simp [cursor, found]

theorem text_moveRight (editor : Editor) : editor.moveRight.text = editor.text := by
  unfold moveRight
  split
  · rfl
  · rename_i c rest found
    simp [text, found]

theorem cursor_moveRight (editor : Editor) :
    editor.moveRight.cursor = min (editor.cursor + 1) editor.text.length := by
  unfold moveRight
  split
  · rename_i found
    simp only [cursor, text, found, List.append_nil, List.length_reverse]
    omega
  · rename_i c rest found
    simp only [cursor, text, found, List.length_append, List.length_reverse, List.length_cons]
    omega

end Editor

end Reckoner
