import Reckoner.Proofs.Console.Reactions

/-!
# The cursor through a run

Kept as a text and a count of characters before the cursor, the input line is changed in both at
once and by each change on its own: an edit finds its place in the bytes of the text, a recall and
an answer put in a text and count it. `Console.bufferAll` does so beside a front end, for any
actions. It is never refused, and it comes to the line that the front end shows
(`Console.bufferAll_eq`), so the count has not left the text.
-/

namespace Reckoner

/-- What an answer leaves of the input line. -/
def Reply.onBuffer (buffer : Buffer) : Reply → Buffer
  | .cleared | .showHelp | .themeChanged _ | .memory _ | .exported _ _ => {}
  | .insert text => { buffer with input := text, cursor := text.length }
  | .evaluated evaluation =>
    match evaluation.result with
    | .ok _ => {}
    | .error _ => buffer
  | .nothing | .quit | .failed _ => buffer

theorem Editor.buffer_ofText (text : Text) : (ofText text).buffer = ⟨text, text.length, 0⟩ :=
  Buffer.ext (text_ofText text) (cursor_ofText text) rfl

theorem Editor.buffer_replace (editor : Editor) (text : Text) :
    (editor.replace text).buffer = ⟨text, text.length, editor.scroll⟩ :=
  Buffer.ext (text_ofText text) (cursor_ofText text) rfl

namespace Console

/-! ## One action -/

/-- The input line after it was submitted. -/
def submitBuffer (console : Console) (now : Moment) (buffer : Buffer) : Buffer :=
  let line := Text.trim buffer.input
  if line = [] then buffer else (console.session.submit now line).2.onBuffer buffer

/-- The input line after a recall: the text of the entry, or what is put in where there is none. -/
def recallBuffer (console : Console) (buffer : Buffer) (way : Recall) : Buffer :=
  let text := (console.entries[console.recallNumber way]?.map Entry.input).getD
    (match way with
      | .previous | .next => []
      | .pageUp | .pageDown => buffer.input)
  ⟨text, text.length, 0⟩

/-- The input line after a key. -/
def pressBuffer (console : Console) (now : Moment) (buffer : Buffer) (press : KeyPress) :
    Option Buffer :=
  if console.showsHelp then some buffer
  else
    match press.edit?, press.recall? with
    | some edit, _ => buffer.perform edit
    | none, some way => some (console.recallBuffer buffer way)
    | none, none => some (if press.code = .enter then console.submitBuffer now buffer else buffer)

/-- The input line after an action, unless that would cut the text inside a character or look beyond
its end. How far the line is scrolled is for the drawing to say. -/
def bufferAfter (console : Console) (buffer : Buffer) : Action → Option Buffer
  | .event now (.key press _) => console.pressBuffer now buffer press
  | .event _ .wheelDown | .event _ .wheelUp | .event _ .other => some buffer
  | .insert text => buffer.insert text
  | .submit now _ => some (console.submitBuffer now buffer)
  | .refresh now width height =>
    some { buffer with scroll := (console.refresh now width height).editor.scroll }
  | .flush _ _ => some buffer

section Action

variable (console : Console) (now : Moment) (elapsed : Nat)

theorem buffer_showReply (reply : Reply) :
    (console.showReply now elapsed reply).editor.buffer =
      reply.onBuffer console.editor.buffer := by
  cases reply with
  | insert text => exact console.editor.buffer_replace text
  | evaluated evaluation =>
      rw [showReply, Reply.onBuffer]
      cases evaluation.result with
      | ok result => rfl
      | error message => rfl
  | _ => rfl

theorem buffer_submit :
    (console.submit now elapsed).editor.buffer =
      console.submitBuffer now console.editor.buffer := by
  by_cases blank : Text.trim console.editor.text = []
  · have same : console.submit now elapsed = console := if_pos blank
    rw [same]
    exact (if_pos blank).symm
  · rw [submit_eq blank, buffer_showReply]
    exact (if_neg blank).symm

theorem buffer_recallBy (way : Recall) :
    (console.recallBy way).editor.buffer = console.recallBuffer console.editor.buffer way := by
  rw [recall_eq]
  cases way <;> exact Editor.buffer_ofText _

/-- A key does to the line what it does beside the front end. -/
theorem pressBuffer_eq (press : KeyPress) :
    console.pressBuffer now console.editor.buffer press =
      some (console.pressKey now elapsed press).editor.buffer := by
  rw [pressBuffer]
  cases shown : console.showsHelp with
  | true =>
      rw [if_pos rfl, Editor.buffer, (unmoved_pressKey now elapsed shown).editor]
      rfl
  | false =>
      rw [if_neg Bool.false_ne_true]
      cases edits : press.edit? with
      | some edit =>
          rw [pressKey_of_edit? shown edits]
          exact console.editor.perform_buffer edit
      | none =>
          cases recalls : press.recall? with
          | some way =>
              rw [pressKey_of_recall? now elapsed shown recalls, buffer_recallBy]
          | none =>
              rw [pressKey, shown]
              show some (if _ then _ else _) =
                some (console.pressInMain now elapsed press).editor.buffer
              by_cases entered : press.code = .enter
              · rw [if_pos entered, pressInMain, entered, buffer_submit]
              · have kept := console.unmoved_pressInMain edits recalls entered now elapsed
                rw [if_neg entered, Editor.buffer, kept.editor]
                rfl

end Action

/-- **No action is refused**, and each does to the line what it does beside the front end. -/
theorem bufferAfter_eq (console : Console) (action : Action) :
    console.bufferAfter console.editor.buffer action =
      some (action.apply console).editor.buffer := by
  cases action with
  | event now event =>
      cases event with
      | key press elapsed => exact console.pressBuffer_eq now elapsed press
      | wheelDown =>
          exact congrArg (fun editor => some editor.buffer)
            (console.unmoved_scroll (· + wheelRows)).editor.symm
      | wheelUp =>
          exact congrArg (fun editor => some editor.buffer)
            (console.unmoved_scroll (· - wheelRows)).editor.symm
      | other => rfl
  | insert text => exact console.editor.buffer_insert text
  | submit now elapsed => exact congrArg some (console.buffer_submit now elapsed).symm
  | refresh now width height =>
      obtain ⟨scroll, scrolled⟩ := (console.refreshed now width height).editor
      show some _ = some (console.refresh now width height).editor.buffer
      rw [scrolled]
      rfl
  | flush log now => rfl

/-! ## Runs -/

/-- The input line after actions, in order, beside a front end that goes through them. -/
def bufferAll (console : Console) (buffer : Buffer) : List Action → Option Buffer
  | [] => some buffer
  | action :: rest =>
    (console.bufferAfter buffer action).bind fun next => (action.apply console).bufferAll next rest

theorem bufferAll_eq (console : Console) (actions : List Action) :
    console.bufferAll console.editor.buffer actions =
      some (console.runAll actions).editor.buffer := by
  induction actions generalizing console with
  | nil => rfl
  | cons action rest ih =>
      rw [bufferAll, bufferAfter_eq, Option.bind_some]
      exact ih (action.apply console)

end Console

end Reckoner
