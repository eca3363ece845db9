import Reckoner.Proofs.Console.Editing

/-!
# What an event does to the input line and the list

**Every event is one of four things** to the input line and the list: an edit, a recall of an entry,
a submission, or nothing at all (`Console.reaction`).
-/

namespace Reckoner

/-! ## Recalling entries -/

/-- The ways of going through the list. -/
inductive Recall where
  | previous
  | next
  | pageUp
  | pageDown
  deriving DecidableEq, Repr

/-- The way that a key goes through the list while the help page is not shown. -/
def KeyPress.recall? (press : KeyPress) : Option Recall :=
  match press.code with
  | .up => some .previous
  | .down => some .next
  | .pageUp => some .pageUp
  | .pageDown => some .pageDown
  | _ => none

namespace Console

/-- Recalls an entry. -/
def recallBy (console : Console) : Recall → Console
  | .previous => console.recallPrevious
  | .next => console.recallNext
  | .pageUp => console.recallPageUp
  | .pageDown => console.recallPageDown

/-- The number of the entry that is selected next, as it is counted. -/
def recallNumber (console : Console) : Recall → Nat
  | .previous => console.selected - 1
  | .next =>
    if console.selected < console.entries.length - 1 then console.selected + 1
    else console.selected
  | .pageUp => console.selected - console.page
  | .pageDown => min (console.selected + console.page) (console.entries.length - 1)

/-- What is put into the input line where there is no entry. -/
def recallElse (console : Console) : Recall → Text
  | .previous | .next => []
  | .pageUp | .pageDown => console.editor.text

theorem recall_eq (console : Console) (way : Recall) :
    console.recallBy way =
      console.recallAt (console.recallNumber way) (console.recallElse way) := by
  cases way <;> rfl

/-! ## Events -/

/-- The input line and the list are as they were. -/
structure Unmoved (console after : Console) : Prop where
  editor : after.editor = console.editor
  entries : after.entries = console.entries
  selected : after.selected = console.selected
  listHeight : after.listHeight = console.listHeight

/-- What an event comes to for the input line and the list. -/
inductive Reaction (console : Console) (now : Moment) : Event → Console → Prop where
  | edits {press : KeyPress} {elapsed : Nat} {edit : Edit} (hidden : console.showsHelp = false)
      (asked : press.edit? = some edit) :
      Reaction console now (.key press elapsed) (console.edit edit.change)
  | recalls {press : KeyPress} {elapsed : Nat} {way : Recall} (hidden : console.showsHelp = false)
      (asked : press.recall? = some way) :
      Reaction console now (.key press elapsed) (console.recallBy way)
  | submits {press : KeyPress} {elapsed : Nat} (hidden : console.showsHelp = false)
      (entered : press.code = .enter) :
      Reaction console now (.key press elapsed) (console.submit now elapsed)
  | keeps {event : Event} {after : Console} (unmoved : console.Unmoved after) :
      Reaction console now event after

section Unmoved

variable (console : Console)

theorem unmoved_scroll (change : Nat → Nat) : console.Unmoved (console.scroll change) := by
  rw [scroll]
  split
  · exact ⟨rfl, rfl, rfl, rfl⟩
  · exact ⟨rfl, rfl, rfl, rfl⟩

/-- A key of the help page scrolls it or leaves it. -/
theorem unmoved_pressInHelp (code : KeyCode) : console.Unmoved (console.pressInHelp code) := by
  rw [pressInHelp.eq_def]
  split <;> exact ⟨rfl, rfl, rfl, rfl⟩

/-- A character that is no edit leaves the front end or does nothing. -/
theorem unmoved_pressChar {c : Char} {control alt shift : Bool}
    (other : KeyPress.edit? ⟨.char c, control, alt, shift⟩ = none) :
    console.Unmoved (console.pressChar c control alt) := by
  rw [KeyPress.edit?] at other
  dsimp only at other
  rw [pressChar]
  cases control with
  | true =>
      rw [if_pos rfl] at other ⊢
      split
      · exact ⟨rfl, rfl, rfl, rfl⟩
      · split
        · rename_i clearing
          rw [if_pos clearing] at other
          cases other
        · rename_i kept
          rw [if_neg kept] at other
          split
          · rename_i inserting
            rw [if_pos inserting] at other
            cases other
          · exact ⟨rfl, rfl, rfl, rfl⟩
  | false =>
      cases alt with
      | true => exact ⟨rfl, rfl, rfl, rfl⟩
      | false => cases other

/-- A key that neither edits, recalls nor submits. -/
theorem unmoved_pressInMain {press : KeyPress} (edits : press.edit? = none)
    (recalls : press.recall? = none) (waits : press.code ≠ .enter) (now : Moment)
    (elapsed : Nat) : console.Unmoved (console.pressInMain now elapsed press) := by
  obtain ⟨code, control, alt, shift⟩ := press
  cases code with
  | enter => exact absurd rfl waits
  | char c => exact console.unmoved_pressChar edits
  | escape | tab => exact ⟨rfl, rfl, rfl, rfl⟩
  | function number =>
      rcases number with _ | _ | _ | number
      · exact ⟨rfl, rfl, rfl, rfl⟩
      · exact ⟨rfl, rfl, rfl, rfl⟩
      · exact ⟨rfl, rfl, rfl, rfl⟩
      · exact ⟨rfl, rfl, rfl, rfl⟩
  | up | down | pageUp | pageDown => cases recalls
  | backspace | delete | left | right | lineStart | lineEnd => cases edits

end Unmoved

section Keys

variable {console : Console} {press : KeyPress} (now : Moment) (elapsed : Nat)

/-- While the help page is shown, no key moves anything else. -/
theorem unmoved_pressKey (shown : console.showsHelp = true) :
    console.Unmoved (console.pressKey now elapsed press) := by
  rw [pressKey, shown]
  exact console.unmoved_pressInHelp press.code

/-- A key that recalls an entry does nothing else. -/
theorem pressKey_of_recall? (hidden : console.showsHelp = false) {way : Recall}
    (asked : press.recall? = some way) :
    console.pressKey now elapsed press = console.recallBy way := by
  rw [pressKey, hidden]
  obtain ⟨code, control, alt, shift⟩ := press
  cases code <;> cases asked <;> rfl

theorem reaction_pressKey :
    Reaction console now (.key press elapsed) (console.pressKey now elapsed press) := by
  cases shown : console.showsHelp with
  | true => exact .keeps (unmoved_pressKey now elapsed shown)
  | false =>
      cases edits : press.edit? with
      | some edit =>
          rw [pressKey_of_edit? shown edits]
          exact .edits shown edits
      | none =>
          cases recalls : press.recall? with
          | some way =>
              rw [pressKey_of_recall? now elapsed shown recalls]
              exact .recalls shown recalls
          | none =>
              rw [pressKey, shown]
              by_cases entered : press.code = .enter
              · show Reaction console now _ (console.pressInMain now elapsed press)
                rw [pressInMain, entered]
                exact .submits shown entered
              · exact .keeps (console.unmoved_pressInMain edits recalls entered now elapsed)

end Keys

/-- **Every event is one of four things** to the input line and the list: an edit, a recall, a
submission, or nothing at all. -/
theorem reaction (console : Console) (now : Moment) (event : Event) :
    Reaction console now event (console.handle now event) := by
  cases event with
  | wheelDown => exact .keeps (console.unmoved_scroll (· + wheelRows))
  | wheelUp => exact .keeps (console.unmoved_scroll (· - wheelRows))
  | other => exact .keeps ⟨rfl, rfl, rfl, rfl⟩
  | key press elapsed => exact reaction_pressKey now elapsed

end Console

end Reckoner
