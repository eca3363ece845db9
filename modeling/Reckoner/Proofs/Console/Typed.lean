import Reckoner.Proofs.Console.Failure
import Reckoner.Proofs.Console.Recall

/-!
# What becomes of typed text

Text in the input line goes when a key is pressed that is there to change it, when a line is
submitted that does not fail, and when an entry is recalled in its place. Where there is no entry to
recall, the page keys leave the text alone and the arrow keys do not (`Console.Wipes`). That is the
only way of losing typed text, and it always loses it (`Console.keepsTyped_iff`).
-/

namespace Reckoner

/-! ## Keys that change text -/

/-- Whether a key is there to change the text in the input line: a character, π, emptying the line,
and taking out the character on either side of the cursor. -/
def KeyPress.changesText (press : KeyPress) : Bool :=
  match press.code with
  | .char c => if press.control then c = 'p' || c = 'u' || c = 'U' else !press.alt
  | .backspace | .delete => true
  | _ => false

/-- The other edits only move the cursor. -/
theorem Editor.text_change {press : KeyPress} {edit : Edit} (asked : press.edit? = some edit)
    (moves : press.changesText = false) (editor : Editor) :
    (edit.change editor).text = editor.text := by
  have line := congrArg Line.text (editor.line_change edit)
  obtain ⟨code, control, alt, shift⟩ := press
  cases code with
  | char c =>
      simp only [KeyPress.changesText] at moves
      simp only [KeyPress.edit?] at asked
      cases control with
      | true =>
          simp only [if_true, Bool.or_eq_false_iff, decide_eq_false_iff_not] at moves
          obtain ⟨⟨notPi, notLower⟩, notUpper⟩ := moves
          simp [notPi, notLower, notUpper] at asked
      | false =>
          cases alt with
          | true => cases asked
          | false => cases moves
  | backspace | delete => cases moves
  | left | right => cases control <;> cases asked <;> exact line
  | lineStart | lineEnd =>
      cases asked
      exact line
  | enter | up | down | pageUp | pageDown | escape | tab | function number => cases asked

namespace Console

/-! ## Where text is meant to change -/

/-- A key that is meant to change the text, and what it leaves. -/
inductive Meant (console : Console) (now : Moment) (press : KeyPress) (after : Console) : Prop where
  | edits (changes : press.changesText = true)
  | submits (entered : press.code = .enter)
      (succeeds : (console.session.submit now (Text.trim console.editor.text)).2.failure? = none)
  | recalls {way : Recall} {entry : Entry} (asked : press.recall? = some way)
      (listed : console.entries ≠ []) (selected : after.entries[after.selected]? = some entry)
      (text : after.editor.text = entry.input)

/-- An event changes typed text only where that is meant, and no key that goes through the list
changes it while the list is empty. -/
structure KeepsTyped (console : Console) (now : Moment) (event : Event) : Prop where
  meant : (console.handle now event).editor.text ≠ console.editor.text →
    console.showsHelp = false ∧ ∃ press elapsed, event = .key press elapsed ∧
      console.Meant now press (console.handle now event)
  unlisted : console.entries = [] → ∀ press elapsed way, event = .key press elapsed →
    press.recall? = some way → (console.handle now event).editor.text = console.editor.text

/-- An arrow key asks for the entry before or after, a text stands in the input line, and the list
is empty. -/
structure Wipes (console : Console) (event : Event) : Prop where
  hidden : console.showsHelp = false
  unlisted : console.entries = []
  typed : console.editor.text ≠ []
  arrow : ∃ press elapsed, event = .key press elapsed ∧ (press.code = .up ∨ press.code = .down)

section Typed

variable {console : Console}

/-- With nothing to recall, an arrow key empties the input line and a page key keeps its text. -/
theorem text_recall_of_unlisted (unlisted : console.entries = []) (way : Recall) :
    (console.recallBy way).editor.text = console.recallElse way := by
  rw [recall_eq, recallAt, unlisted]
  exact Editor.text_ofText _

theorem text_recall_of_not_wipes {press : KeyPress} {elapsed : Nat} {way : Recall}
    (hidden : console.showsHelp = false) (unlisted : console.entries = [])
    (asked : press.recall? = some way) (kept : ¬console.Wipes (.key press elapsed)) :
    (console.recallBy way).editor.text = console.editor.text := by
  have empty : press.code = .up ∨ press.code = .down → [] = console.editor.text :=
    fun arrow => Classical.byContradiction fun typed =>
      kept ⟨hidden, unlisted, Ne.symm typed, press, elapsed, rfl, arrow⟩
  rw [text_recall_of_unlisted unlisted]
  obtain ⟨code, control, alt, shift⟩ := press
  cases code with
  | up =>
      cases asked
      exact empty (.inl rfl)
  | down =>
      cases asked
      exact empty (.inr rfl)
  | pageUp | pageDown =>
      cases asked
      rfl
  | _ => cases asked

/-- A submission that fails keeps the text. -/
theorem editor_submit_of_failure {now : Moment} {message : Text}
    (failed : (console.session.submit now (Text.trim console.editor.text)).2.failure? =
      some message) (elapsed : Nat) : (console.submit now elapsed).editor = console.editor := by
  by_cases blank : Text.trim console.editor.text = []
  · exact congrArg Console.editor (if_pos blank)
  · rw [submit_eq blank, showReply_of_failure failed]
    rfl

theorem KeepsTyped.of_not_wipes (settled : console.Settled) {now : Moment} {event : Event}
    (kept : ¬console.Wipes event) : console.KeepsTyped now event := by
  constructor
  · have step := console.reaction now event
    generalize console.handle now event = after at step
    intro changed
    cases step with
    | @edits press elapsed edit hidden asked =>
        cases changes : press.changesText with
        | true => exact ⟨hidden, press, elapsed, rfl, .edits changes⟩
        | false => exact absurd (Editor.text_change asked changes console.editor) changed
    | @recalls press elapsed way hidden asked =>
        by_cases listed : console.entries = []
        · exact absurd (text_recall_of_not_wipes hidden listed asked kept) changed
        · obtain ⟨entry, selected, text, -⟩ := (settled.recalled listed way).entry
          exact ⟨hidden, press, elapsed, rfl, .recalls asked listed selected text⟩
    | @submits press elapsed hidden entered =>
        cases failed :
            (console.session.submit now (Text.trim console.editor.text)).2.failure? with
        | none => exact ⟨hidden, press, elapsed, rfl, .submits entered failed⟩
        | some message =>
            exact absurd (congrArg Editor.text (editor_submit_of_failure failed elapsed)) changed
    | keeps unmoved => exact absurd (congrArg Editor.text unmoved.editor) changed
  · rintro unlisted press elapsed way rfl asked
    show (console.pressKey now elapsed press).editor.text = console.editor.text
    cases shown : console.showsHelp with
    | true => exact congrArg Editor.text (unmoved_pressKey now elapsed shown).editor
    | false =>
        rw [pressKey_of_recall? now elapsed shown asked]
        exact text_recall_of_not_wipes shown unlisted asked kept

theorem Wipes.text_handle {event : Event} (wipes : console.Wipes event) (now : Moment) :
    (console.handle now event).editor.text = [] := by
  obtain ⟨press, elapsed, rfl, arrow⟩ := wipes.arrow
  show (console.pressKey now elapsed press).editor.text = []
  obtain ⟨code, control, alt, shift⟩ := press
  rcases arrow with up | down
  · cases up
    rw [pressKey_of_recall? now elapsed wipes.hidden rfl, text_recall_of_unlisted wipes.unlisted]
    rfl
  · cases down
    rw [pressKey_of_recall? now elapsed wipes.hidden rfl, text_recall_of_unlisted wipes.unlisted]
    rfl

/-- **Typed text is lost in one way only.** In every state that the front end may be found in, and
at every event: if the text in the input line changes, the help page is not shown, and the event is
a key that is there to change text, or a submission that does not fail, or a way through a list that
is not empty, and then the text is that of the entry now selected; and while the list is empty no
way through it changes the text. The one exception is an arrow key over an empty list, which empties
the input line. -/
theorem keepsTyped_iff (reached : console.Reachable) (now : Moment) (event : Event) :
    (console.KeepsTyped now event ↔ ¬console.Wipes event) ∧
      (console.Wipes event → (console.handle now event).editor.text = []) := by
  refine ⟨⟨fun keeps wipes => ?_, KeepsTyped.of_not_wipes reached.settled⟩,
    fun wipes => wipes.text_handle now⟩
  obtain ⟨press, elapsed, rfl, arrow⟩ := wipes.arrow
  have empty := wipes.text_handle now
  rcases arrow with up | down
  · exact wipes.typed ((keeps.unlisted wipes.unlisted press elapsed .previous rfl
      (by rw [KeyPress.recall?, up])).symm.trans empty)
  · exact wipes.typed ((keeps.unlisted wipes.unlisted press elapsed .next rfl
      (by rw [KeyPress.recall?, down])).symm.trans empty)

end Typed

/-- The start of a sum, typed where nothing has been evaluated. -/
def unfinishedSum : Console :=
  (ofSession (Session.inMemory {} Settings.standard)).runAll [.insert "1+".toList]

theorem unfinishedSum_wipes : unfinishedSum.Wipes (.key { code := .up }) :=
  ⟨rfl, rfl, by decide, _, _, rfl, .inl rfl⟩

theorem keepsTyped_iff_unfinishedSum :
    unfinishedSum.Reachable ∧ unfinishedSum.KeepsTyped ⟨0, 0⟩ (.key { code := .pageUp }) ∧
      (unfinishedSum.handle ⟨0, 0⟩ (.key { code := .up })).editor.text = [] := by
  have reached : unfinishedSum.Reachable := ⟨_, _, rfl⟩
  have kept : ¬unfinishedSum.Wipes (.key { code := .pageUp }) := by
    rintro ⟨-, -, -, press, elapsed, same, up | down⟩
    · cases same
      cases up
    · cases same
      cases down
  exact ⟨reached, (keepsTyped_iff reached ⟨0, 0⟩ _).1.mpr kept,
    (keepsTyped_iff reached ⟨0, 0⟩ _).2 unfinishedSum_wipes⟩

/-- An arrow key empties the input line where there is nothing to recall. -/
theorem not_keepsTyped_of_unlisted :
    ¬∀ console : Console, console.Reachable → ∀ now event, console.KeepsTyped now event := by
  intro always
  have keeps := always unfinishedSum ⟨_, _, rfl⟩ ⟨0, 0⟩ (.key { code := .up })
  have text : (unfinishedSum.handle ⟨0, 0⟩ (.key { code := .up })).editor.text =
      unfinishedSum.editor.text := keeps.unlisted rfl _ _ .previous rfl rfl
  exact absurd text (by decide)

end Console

end Reckoner
