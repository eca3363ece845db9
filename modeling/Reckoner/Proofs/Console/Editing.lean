import Reckoner.Console.Buffer
import Reckoner.Proofs.Console.Steps

/-!
# The input line as a text editor

What the editing keys do is said by a list of characters and an index (`Line.edit`). The input line,
which keeps what stands on either side of the cursor, and the same line by bytes, which looks up the
place of the cursor before each change, both do that: an edit step by step in each case, with the
cursor inside the text, so that no place is out of range and no character is cut
(`Editor.line_change`, `Editor.perform_buffer`).
-/

namespace Reckoner

/-- A character goes from one side of a place to the other. -/
theorem Text.reverse_cons_append (c : Char) (before after : Text) :
    (c :: before).reverse ++ after = before.reverse ++ c :: after := by
  rw [List.reverse_cons, List.append_assoc, List.singleton_append]

/-! ## A list of characters and an index -/

/-- A list of characters and an index into it. -/
@[ext]
structure Line where
  text : Text
  index : Nat
  deriving DecidableEq, Repr

namespace Line

/-- Whether a word starts at a place: no white space stands there, and nothing else before it. -/
def startsWord (text : Text) (place : Nat) : Bool :=
  text[place]?.any (fun c => !Text.isBlank c) &&
    (place = 0 || text[place - 1]?.any Text.isBlank)

/-- The nearest place before another at which a word starts, or the start of the text. -/
def wordBefore (text : Text) (place : Nat) : Nat :=
  ((List.range place).reverse.find? (startsWord text)).getD 0

/-- The nearest place after another at which a word starts, or the end of the text. -/
def wordAfter (text : Text) (place : Nat) : Nat :=
  ((List.range' (place + 1) (text.length - (place + 1))).find? (startsWord text)).getD text.length

/-- The line after an edit. -/
def edit (line : Line) : Edit → Line
  | .insert c => ⟨line.text.take line.index ++ c :: line.text.drop line.index, line.index + 1⟩
  | .clear => ⟨[], 0⟩
  | .deleteBefore =>
    if line.index = 0 then line else ⟨line.text.eraseIdx (line.index - 1), line.index - 1⟩
  | .deleteAfter => ⟨line.text.eraseIdx line.index, line.index⟩
  | .left => ⟨line.text, line.index - 1⟩
  | .right => ⟨line.text, min (line.index + 1) line.text.length⟩
  | .wordLeft => ⟨line.text, wordBefore line.text line.index⟩
  | .wordRight => ⟨line.text, wordAfter line.text line.index⟩
  | .lineStart => ⟨line.text, 0⟩
  | .lineEnd => ⟨line.text, line.text.length⟩

/-- The line after edits, one after the other. -/
def editAll (line : Line) (edits : List Edit) : Line := edits.foldl edit line

example : wordBefore "2 +  π".toList 5 = 2 := by decide

example : wordAfter "2 +  π".toList 2 = 5 := by decide

/-! ## Words from character to character -/

section Words

variable (c : Char)

/-- A character starts a word if it is no white space, and white space or nothing stands before
it. -/
theorem startsWord_append (before after : Text) :
    startsWord (before.reverse ++ c :: after) before.length =
      (!Text.isBlank c && before.head?.all Text.isBlank) := by
  rw [startsWord, List.getElem?_append_right (by simp)]
  cases before with
  | nil => simp
  | cons d rest => simp

/-- Going left past a character. -/
theorem wordBefore_cons (rest after : Text) :
    wordBefore ((c :: rest).reverse ++ after) (c :: rest).length =
      if !Text.isBlank c && rest.head?.all Text.isBlank then rest.length
      else wordBefore (rest.reverse ++ c :: after) rest.length := by
  rw [wordBefore, Text.reverse_cons_append, List.length_cons, List.range_succ, List.reverse_append,
    List.reverse_singleton, List.singleton_append, List.find?_cons, startsWord_append]
  cases !Text.isBlank c && rest.head?.all Text.isBlank with
  | true => rfl
  | false => rfl

/-- Going right past a character. -/
theorem wordAfter_cons (before rest : Text) :
    wordAfter (before.reverse ++ c :: rest) before.length =
      if Text.isBlank c && rest.head?.any (fun d => !Text.isBlank d) then before.length + 1
      else wordAfter ((c :: before).reverse ++ rest) (c :: before).length := by
  have text := Text.reverse_cons_append c before rest
  cases rest with
  | nil => simp [wordAfter]
  | cons d rest =>
      have more : ((c :: before).reverse ++ d :: rest).length - (before.length + 1) =
          rest.length + 1 := by
        simp
        omega
      have fewer : ((c :: before).reverse ++ d :: rest).length - (before.length + 1 + 1) =
          rest.length := by
        simp
        omega
      have starts : startsWord ((c :: before).reverse ++ d :: rest) (before.length + 1) =
          (Text.isBlank c && (d :: rest).head?.any (fun d => !Text.isBlank d)) :=
        (startsWord_append d (c :: before) rest).trans (Bool.and_comm _ _)
      rw [← text, wordAfter, more, List.range'_succ, List.find?_cons, starts, wordAfter,
        List.length_cons, fewer]
      cases Text.isBlank c && (d :: rest).head?.any (fun d => !Text.isBlank d) with
      | true => rfl
      | false => rfl

end Words

/-- To the left lies the start of the word that ends next. -/
theorem wordBefore_append (before after : Text) :
    wordBefore (before.reverse ++ after) before.length =
      ((before.dropWhile Text.isBlank).dropWhile (fun c => !Text.isBlank c)).length := by
  -- White space is passed, and a word starts where white space or nothing comes next.
  induction before generalizing after with
  | nil => rfl
  | cons c rest ih =>
      rw [wordBefore_cons, ih]
      cases blank : Text.isBlank c with
      | true => simp [blank]
      | false =>
          cases rest with
          | nil => simp [blank]
          | cons d rest =>
              cases next : Text.isBlank d with
              | true => simp [blank, next]
              | false => simp [blank, next]

/-- To the right lies the end of the white space that starts next. -/
theorem wordAfter_append (before after : Text) :
    wordAfter (before.reverse ++ after) before.length =
      before.length + ((after.takeWhile (fun c => !Text.isBlank c)).length +
        ((after.dropWhile (fun c => !Text.isBlank c)).takeWhile Text.isBlank).length) := by
  -- A word is passed, and the next one starts behind the last white space.
  induction after generalizing before with
  | nil => simp [wordAfter]
  | cons c rest ih =>
      rw [wordAfter_cons, ih, List.length_cons]
      cases blank : Text.isBlank c with
      | false =>
          simp only [blank, Bool.false_and, Bool.false_eq_true, if_false, Bool.not_false,
            List.takeWhile_cons_of_pos, List.dropWhile_cons_of_pos, List.length_cons]
          omega
      | true =>
          cases rest with
          | nil => simp [blank]
          | cons d rest =>
              cases next : Text.isBlank d with
              | false => simp [blank, next]
              | true =>
                  simp [blank, next]
                  omega

end Line

/-! ## Changes by bytes -/

namespace Buffer

section Changes

variable (first second : Text) (scroll : Nat)

theorem insert_append (more : Text) :
    insert ⟨first ++ second, first.length, scroll⟩ more =
      some ⟨first ++ more ++ second, first.length + more.length, scroll⟩ := by
  rw [insert]
  dsimp only
  rw [Text.byteIndex_append, Text.insertAt?_append]
  rfl

theorem deleteAfter_append :
    deleteAfter ⟨first ++ second, first.length, scroll⟩ =
      some ⟨first ++ second.tail, first.length, scroll⟩ := by
  rw [deleteAfter]
  dsimp only
  rw [Text.byteIndex_append, Text.cutAt?_append]
  cases second with
  | nil => rfl
  | cons c rest =>
      have shorter := Text.cutOut?_append first [c] rest
      rw [Text.byteLength_singleton, List.singleton_append] at shorter
      simp only [Option.bind_eq_bind, Option.bind_some, shorter]
      rfl

end Changes

section Words

variable (kind : Char → Bool)

theorem passLeft_append (before after : Text) :
    passLeft kind (before.reverse ++ after) before.length =
      some (before.dropWhile kind).length := by
  induction before generalizing after with
  | nil => rfl
  | cons c rest ih =>
      have here : (rest.reverse ++ c :: after)[rest.length]? = some c := by simp
      rw [Text.reverse_cons_append, List.length_cons, passLeft, here]
      cases passed : kind c with
      | true => simp [passed, ih]
      | false => simp [passed]

theorem passRight_append (first second : Text) :
    passRight kind (first ++ second) first.length =
      some (first.length + (second.takeWhile kind).length) := by
  induction second generalizing first with
  | nil => simp [passRight]
  | cons c rest ih =>
      have more : first.length < (first ++ c :: rest).length := by simp
      have here : (first ++ c :: rest)[first.length]? = some c := by simp
      have text : first ++ c :: rest = (first ++ [c]) ++ rest := by simp
      rw [passRight, if_pos more, here]
      cases passed : kind c with
      | true =>
          have behind := ih (first ++ [c])
          rw [← text, List.length_append, List.length_singleton] at behind
          simp only [passed, if_true, List.takeWhile_cons_of_pos, List.length_cons]
          rw [behind, Nat.add_assoc, Nat.add_comm 1]
      | false => simp [passed]

end Words

end Buffer

/-! ## Edits of the input line -/

namespace Editor

/-- The line that an input line stands for. -/
def line (editor : Editor) : Line := ⟨editor.text, editor.cursor⟩

/-- The same input line by bytes. -/
def buffer (editor : Editor) : Buffer := ⟨editor.text, editor.cursor, editor.scroll⟩

end Editor

namespace Buffer

/-- The line that an input line stands for. -/
def line (buffer : Buffer) : Line := ⟨buffer.input, buffer.cursor⟩

/-- The same input line as what stands on either side of the cursor. -/
def editor (buffer : Buffer) : Editor where
  before := (buffer.input.take buffer.cursor).reverse
  after := buffer.input.drop buffer.cursor
  scroll := buffer.scroll

/-- A cursor inside the text parts it. -/
theorem buffer_editor {buffer : Buffer} (within : buffer.cursor ≤ buffer.input.length) :
    buffer.editor.buffer = buffer := by
  apply Buffer.ext
  · simp [Editor.buffer, editor, Editor.text]
  · simp [Editor.buffer, editor, Editor.cursor, within]
  · rfl

end Buffer

/-- The change of the input line that an edit comes to. -/
def Edit.change : Edit → Editor → Editor
  | .insert c => (·.insert [c])
  | .clear => fun _ => Editor.empty
  | .deleteBefore => Editor.deleteBefore
  | .deleteAfter => Editor.deleteAfter
  | .left => Editor.moveLeft
  | .right => Editor.moveRight
  | .wordLeft => Editor.moveWordLeft
  | .wordRight => Editor.moveWordRight
  | .lineStart => Editor.moveHome
  | .lineEnd => Editor.moveEnd

namespace Editor

theorem text_moveWordLeft (editor : Editor) : editor.moveWordLeft.text = editor.text := by
  have parts : editor.before = editor.before.takeWhile Text.isBlank ++
      ((editor.before.dropWhile Text.isBlank).takeWhile (fun c => !Text.isBlank c) ++
        (editor.before.dropWhile Text.isBlank).dropWhile (fun c => !Text.isBlank c)) := by
    rw [List.takeWhile_append_dropWhile, List.takeWhile_append_dropWhile]
  have joined := congrArg List.reverse parts
  rw [List.reverse_append, List.reverse_append] at joined
  rw [text, text, joined]
  simp [moveWordLeft]

theorem text_moveWordRight (editor : Editor) : editor.moveWordRight.text = editor.text := by
  have parts : editor.after = editor.after.takeWhile (fun c => !Text.isBlank c) ++
      ((editor.after.dropWhile (fun c => !Text.isBlank c)).takeWhile Text.isBlank ++
        (editor.after.dropWhile (fun c => !Text.isBlank c)).dropWhile Text.isBlank) := by
    rw [List.takeWhile_append_dropWhile, List.takeWhile_append_dropWhile]
  rw [text, text, parts]
  simp [moveWordRight]

theorem line_insert (editor : Editor) (c : Char) :
    (editor.insert [c]).line = editor.line.edit (.insert c) := by
  rw [line, text_insert, cursor_insert, List.append_assoc]
  rfl

theorem line_deleteBefore (editor : Editor) :
    editor.deleteBefore.line = editor.line.edit .deleteBefore := by
  obtain ⟨before, after, scroll⟩ := editor
  cases before with
  | nil => rfl
  | cons c rest =>
      have shorter : ((c :: rest).reverse ++ after).eraseIdx rest.length = rest.reverse ++ after := by
        rw [Text.reverse_cons_append, List.eraseIdx_append_of_length_le (by simp)]
        simp
      rw [Line.edit]
      simp only [line, text, cursor, deleteBefore, List.tail_cons, List.length_cons,
        Nat.add_one_ne_zero, if_false, Nat.add_sub_cancel, shorter]

theorem line_deleteAfter (editor : Editor) :
    editor.deleteAfter.line = editor.line.edit .deleteAfter := by
  obtain ⟨before, after, scroll⟩ := editor
  have shorter : (before.reverse ++ after).eraseIdx before.length = before.reverse ++ after.tail := by
    rw [List.eraseIdx_append_of_length_le (by simp)]
    simp
  simp only [line, text, cursor, deleteAfter, Line.edit, shorter]

theorem cursor_moveWordLeft (editor : Editor) :
    editor.moveWordLeft.cursor = Line.wordBefore editor.text editor.cursor :=
  (Line.wordBefore_append editor.before editor.after).symm

theorem cursor_moveWordRight (editor : Editor) :
    editor.moveWordRight.cursor = Line.wordAfter editor.text editor.cursor := by
  rw [text, cursor, cursor, Line.wordAfter_append, moveWordRight]
  simp only [List.length_append, List.length_reverse]
  omega

theorem text_moveHome (editor : Editor) : editor.moveHome.text = editor.text := rfl

theorem text_moveEnd (editor : Editor) : editor.moveEnd.text = editor.text := by
  simp [moveEnd, text]

theorem cursor_moveEnd (editor : Editor) : editor.moveEnd.cursor = editor.text.length := by
  simp [moveEnd, cursor, text, Nat.add_comm]

/-- **Each edit does to the input line what it does to a list of characters.** -/
theorem line_change (editor : Editor) (edit : Edit) :
    (edit.change editor).line = editor.line.edit edit := by
  cases edit with
  | insert c => exact editor.line_insert c
  | clear => rfl
  | deleteBefore => exact editor.line_deleteBefore
  | deleteAfter => exact editor.line_deleteAfter
  | left => exact Line.ext editor.text_moveLeft editor.cursor_moveLeft
  | right => exact Line.ext editor.text_moveRight editor.cursor_moveRight
  | wordLeft => exact Line.ext editor.text_moveWordLeft editor.cursor_moveWordLeft
  | wordRight => exact Line.ext editor.text_moveWordRight editor.cursor_moveWordRight
  | lineStart => exact Line.ext editor.text_moveHome rfl
  | lineEnd => exact Line.ext editor.text_moveEnd editor.cursor_moveEnd

/-! ## Edits by bytes -/

theorem buffer_eq (editor : Editor) :
    editor.buffer =
      ⟨editor.before.reverse ++ editor.after, editor.before.reverse.length, editor.scroll⟩ := by
  rw [List.length_reverse]
  rfl

theorem buffer_insert (editor : Editor) (more : Text) :
    editor.buffer.insert more = some (editor.insert more).buffer := by
  rw [buffer_eq, buffer_eq, Buffer.insert_append]
  simp [insert, Nat.add_comm]

theorem buffer_deleteAfter (editor : Editor) :
    editor.buffer.deleteAfter = some editor.deleteAfter.buffer := by
  rw [buffer_eq, buffer_eq, Buffer.deleteAfter_append]
  rfl

theorem buffer_deleteBefore (editor : Editor) :
    editor.buffer.deleteBefore = some editor.deleteBefore.buffer := by
  obtain ⟨before, after, scroll⟩ := editor
  cases before with
  | nil => rfl
  | cons c rest =>
      have deleted := buffer_deleteAfter ⟨rest, c :: after, scroll⟩
      rw [Buffer.deleteBefore]
      simp only [buffer, cursor, Editor.text, List.length_cons, Nat.zero_lt_succ, if_true,
        Nat.add_sub_cancel, Text.reverse_cons_append] at deleted ⊢
      exact deleted

/-- A move that keeps the text and stays inside it. -/
theorem buffer_moveTo {editor after : Editor} (text : after.text = editor.text)
    (scroll : after.scroll = editor.scroll) : editor.buffer.moveTo after.cursor = after.buffer := by
  have within : after.cursor ≤ editor.text.length := text ▸ after.cursor_le
  rw [Buffer.moveTo, buffer, buffer, text, scroll]
  dsimp only
  rw [Nat.min_eq_left within]

theorem buffer_moveWordLeft (editor : Editor) :
    editor.buffer.moveWordLeft = some editor.moveWordLeft.buffer := by
  have text : editor.text = (editor.before.dropWhile Text.isBlank).reverse ++
      ((editor.before.takeWhile Text.isBlank).reverse ++ editor.after) := by
    rw [← List.append_assoc, ← List.reverse_append, List.takeWhile_append_dropWhile, Editor.text]
  have blanks : Buffer.passLeft Text.isBlank editor.text editor.cursor =
      some (editor.before.dropWhile Text.isBlank).length := Buffer.passLeft_append _ _ _
  have word : Buffer.passLeft (fun c => !Text.isBlank c) editor.text
      (editor.before.dropWhile Text.isBlank).length = some editor.moveWordLeft.cursor := by
    rw [text, Buffer.passLeft_append]
    rfl
  rw [Buffer.moveWordLeft, ← buffer_moveTo editor.text_moveWordLeft rfl]
  simp only [buffer, blanks, word, Option.bind_eq_bind, Option.bind_some]
  rfl

theorem buffer_moveWordRight (editor : Editor) :
    editor.buffer.moveWordRight = some editor.moveWordRight.buffer := by
  have word : Buffer.passRight (fun c => !Text.isBlank c) editor.text editor.cursor =
      some (editor.before.reverse ++
        editor.after.takeWhile (fun c => !Text.isBlank c)).length := by
    rw [cursor, ← List.length_reverse, text, Buffer.passRight_append, List.length_append]
  have text : editor.text =
      (editor.before.reverse ++ editor.after.takeWhile (fun c => !Text.isBlank c)) ++
        editor.after.dropWhile (fun c => !Text.isBlank c) := by
    rw [List.append_assoc, List.takeWhile_append_dropWhile, Editor.text]
  have blanks : Buffer.passRight Text.isBlank editor.text
      (editor.before.reverse ++ editor.after.takeWhile (fun c => !Text.isBlank c)).length =
        some editor.moveWordRight.cursor := by
    rw [text, Buffer.passRight_append, cursor, moveWordRight]
    simp only [List.length_append, List.length_reverse]
    congr 1
    omega
  rw [Buffer.moveWordRight, ← buffer_moveTo editor.text_moveWordRight rfl]
  simp only [buffer, word, blanks, Option.bind_eq_bind, Option.bind_some]
  rfl

theorem scroll_moveLeft (editor : Editor) : editor.moveLeft.scroll = editor.scroll := by
  rw [moveLeft]
  split
  · rfl
  · rfl

theorem scroll_moveRight (editor : Editor) : editor.moveRight.scroll = editor.scroll := by
  rw [moveRight]
  split
  · rfl
  · rfl

/-- **Each edit goes through by bytes**, and comes to the same. -/
theorem perform_buffer (editor : Editor) (edit : Edit) :
    editor.buffer.perform edit = some (edit.change editor).buffer := by
  -- Only the moves that are clamped have to be compared field by field.
  cases edit with
  | insert c => exact editor.buffer_insert [c]
  | clear => rfl
  | deleteBefore => exact editor.buffer_deleteBefore
  | deleteAfter => exact editor.buffer_deleteAfter
  | left =>
      exact congrArg some (Buffer.ext editor.text_moveLeft.symm editor.cursor_moveLeft.symm
        editor.scroll_moveLeft.symm)
  | right =>
      exact congrArg some (Buffer.ext editor.text_moveRight.symm editor.cursor_moveRight.symm
        editor.scroll_moveRight.symm)
  | wordLeft => exact editor.buffer_moveWordLeft
  | wordRight => exact editor.buffer_moveWordRight
  | lineStart => rfl
  | lineEnd =>
      exact congrArg some (Buffer.ext editor.text_moveEnd.symm editor.cursor_moveEnd.symm rfl)

/-- The input line after edits, one after the other. -/
def changeAll (editor : Editor) (edits : List Edit) : Editor :=
  edits.foldl (fun editor edit => edit.change editor) editor

theorem line_changeAll (editor : Editor) (edits : List Edit) :
    (editor.changeAll edits).line = editor.line.editAll edits := by
  induction edits generalizing editor with
  | nil => rfl
  | cons edit rest ih =>
      have later := ih (edit.change editor)
      rw [line_change] at later
      exact later

theorem performAll_buffer (editor : Editor) (edits : List Edit) :
    editor.buffer.performAll edits = some (editor.changeAll edits).buffer := by
  induction edits generalizing editor with
  | nil => rfl
  | cons edit rest ih =>
      rw [Buffer.performAll, List.foldlM_cons, perform_buffer]
      exact ih (edit.change editor)

end Editor

/-! ## Editing keys -/

/-- What keys ask of the input line. -/
def KeyPress.edits (presses : List (Moment × KeyPress × Nat)) : List Edit :=
  presses.filterMap (fun press => press.2.1.edit?)

namespace Console

/-- The front end after keys, each pressed at its own moment and given its own time. -/
def pressAll (console : Console) (presses : List (Moment × KeyPress × Nat)) : Console :=
  presses.foldl (fun console press => console.handle press.1 (.key press.2.1 press.2.2)) console

theorem pressChar_of_edit? {c : Char} {control alt shift : Bool} {edit : Edit}
    (asked : KeyPress.edit? ⟨.char c, control, alt, shift⟩ = some edit) (console : Console) :
    console.pressChar c control alt = console.edit edit.change := by
  rw [KeyPress.edit?] at asked
  dsimp only at asked
  rw [pressChar]
  cases control with
  | true =>
      rw [if_pos rfl] at asked ⊢
      split at asked
      · rename_i clearing
        cases asked
        have other : c ≠ 'c' := by
          rintro rfl
          exact absurd clearing (by decide)
        rw [if_neg other, if_pos clearing]
        rfl
      · rename_i kept
        split at asked
        · rename_i inserting
          cases asked
          subst inserting
          rfl
        · cases asked
  | false =>
      cases alt with
      | true => cases asked
      | false =>
          cases asked
          rfl

/-- An editing key does nothing but its edit. -/
theorem pressKey_of_edit? {console : Console} (hidden : console.showsHelp = false)
    {press : KeyPress} {edit : Edit} (asked : press.edit? = some edit) (now : Moment)
    (elapsed : Nat) : console.pressKey now elapsed press = console.edit edit.change := by
  rw [pressKey, hidden]
  obtain ⟨code, control, alt, shift⟩ := press
  show console.pressInMain now elapsed ⟨code, control, alt, shift⟩ = _
  cases code with
  | char c => exact pressChar_of_edit? asked console
  | backspace | delete | lineStart | lineEnd =>
      cases asked
      rfl
  | left | right => cases control <;> cases asked <;> rfl
  | enter | up | down | pageUp | pageDown | escape | tab | function number => cases asked

/-- While the help page is not shown, editing keys only change the input line. -/
theorem editor_pressAll {console : Console} (hidden : console.showsHelp = false)
    {presses : List (Moment × KeyPress × Nat)}
    (editing : ∀ press ∈ presses, press.2.1.edit?.isSome = true) :
    (console.pressAll presses).editor = console.editor.changeAll (KeyPress.edits presses) := by
  induction presses generalizing console with
  | nil => rfl
  | cons press rest ih =>
      obtain ⟨first, others⟩ := List.forall_mem_cons.mp editing
      obtain ⟨edit, asked⟩ := Option.isSome_iff_exists.mp first
      have step : console.handle press.1 (.key press.2.1 press.2.2) = console.edit edit.change :=
        pressKey_of_edit? hidden asked press.1 press.2.2
      have changed : (console.edit edit.change).showsHelp = false := hidden
      have asks : KeyPress.edits (press :: rest) = edit :: KeyPress.edits rest :=
        List.filterMap_cons_some asked
      rw [pressAll, List.foldl_cons, step, asks]
      exact ih changed others

/-- **The input line is a text editor.** Whatever stands in it and wherever the cursor is in that,
while the help page is not shown every row of editing keys does to it what the row of edits does to
a list of characters and an index. The cursor is inside the text after each row, and by bytes no
edit is refused and each comes to the same. -/
theorem editing_of_pressAll {console : Console} (hidden : console.showsHelp = false)
    {buffer : Buffer} (within : buffer.cursor ≤ buffer.input.length)
    (opened : console.editor = buffer.editor) {presses : List (Moment × KeyPress × Nat)}
    (editing : ∀ press ∈ presses, press.2.1.edit?.isSome = true) :
    (console.pressAll presses).editor.line = buffer.line.editAll (KeyPress.edits presses) ∧
      (console.pressAll presses).editor.cursor ≤
        (console.pressAll presses).editor.text.length ∧
      buffer.performAll (KeyPress.edits presses) =
        some (console.pressAll presses).editor.buffer := by
  have same := Buffer.buffer_editor within
  have line : buffer.editor.line = buffer.line := congrArg Buffer.line same
  have performed := buffer.editor.performAll_buffer (KeyPress.edits presses)
  rw [same] at performed
  rw [editor_pressAll hidden editing, opened]
  refine ⟨?_, Editor.cursor_le _, performed⟩
  rw [Editor.line_changeAll, line]

/-- A product with a word to its right, the cursor behind the sign. -/
def productBuffer : Buffer where
  input := "2×3 + é".toList
  cursor := 2

/-- A console with that product in its input line. -/
def productConsole : Console :=
  { ofSession (Session.inMemory {} Settings.standard) with editor := productBuffer.editor }

/-- π at the cursor, back over it, on to the next word, out with the sign there and what follows,
and another sign at the end. -/
def productPresses : List (Moment × KeyPress × Nat) :=
  [{ code := .char 'p', control := true }, { code := .left, control := true },
    { code := .right, control := true }, { code := .delete }, { code := .delete },
    { code := .backspace }, { code := .lineEnd }, { code := .char '÷', shift := true }].map
      (fun press => (⟨0, 0⟩, press, 1000))

theorem editing_of_pressAll_product :
    productConsole.showsHelp = false ∧ productBuffer.cursor ≤ productBuffer.input.length ∧
      (∀ press ∈ productPresses, press.2.1.edit?.isSome = true) ∧
      (productConsole.pressAll productPresses).editor.line = ⟨"2×π3é÷".toList, 6⟩ ∧
      productBuffer.performAll (KeyPress.edits productPresses) =
        some ⟨"2×π3é÷".toList, 6, 0⟩ := by
  have editing : ∀ press ∈ productPresses, press.2.1.edit?.isSome = true :=
    List.all_eq_true.mp rfl
  obtain ⟨line, -, bytes⟩ :=
    @editing_of_pressAll productConsole rfl productBuffer (by decide) rfl productPresses editing
  have answer : productBuffer.line.editAll (KeyPress.edits productPresses) =
      ⟨"2×π3é÷".toList, 6⟩ := by decide
  refine ⟨rfl, by decide, editing, line.trans answer, ?_⟩
  rw [bytes]
  rfl

end Console

end Reckoner
