import Reckoner.Proofs.Console.Cursor

/-!
# The selection

One entry of the list is selected, by its number. The list grows, is emptied and is paged by a step
that depends on the last drawing, and the number follows each of these on its own.

* The number stays inside the list, and a page has more than one entry (`Console.Settled`), whatever
  is done (`Console.Settled.apply`).
* So a recall finds the entry it asks for, or the one at the end of the list on that side
  (`Console.Settled.recalled`).
-/

namespace Reckoner

/-! ## The selection -/

/-- How far a way leads down the list, drawn at a given height. -/
def Recall.distance (height : Int) : Recall → Int
  | .previous => -1
  | .next => 1
  | .pageUp => -(height - 1)
  | .pageDown => height - 1

namespace Console

/-- The number that a way leads to from the selected one, without leaving the list. -/
def recallPlace (console : Console) (way : Recall) : Int :=
  max 0 (min (console.selected + way.distance console.listHeight) (console.entries.length - 1))

/-- A recall has selected the entry that was asked for and put it into the input line, with the
cursor at its end. -/
structure Recalled (console : Console) (way : Recall) (after : Console) : Prop where
  entries : after.entries = console.entries
  place : (after.selected : Int) = console.recallPlace way
  entry : ∃ entry, after.entries[after.selected]? = some entry ∧
    after.editor.text = entry.input ∧ after.editor.cursor = entry.input.length

/-- The selected entry is in the list, or the list is empty and the first one would be selected. The
list was last drawn with a height of at least five. -/
structure Settled (console : Console) : Prop where
  selection : console.selected < console.entries.length ∨
    console.entries = [] ∧ console.selected = 0
  listHeight : 5 ≤ console.listHeight

section Settled

variable {console : Console}

theorem Settled.of_frame (settled : console.Settled) {after : Console}
    (entries : after.entries = console.entries) (selected : after.selected = console.selected)
    (listHeight : after.listHeight = console.listHeight) : after.Settled := by
  refine ⟨?_, listHeight ▸ settled.listHeight⟩
  rw [entries, selected]
  exact settled.selection

theorem Settled.selected_lt (settled : console.Settled) (listed : console.entries ≠ []) :
    console.selected < console.entries.length :=
  settled.selection.resolve_right fun empty => listed empty.1

theorem Settled.recallNumber_lt (settled : console.Settled) (listed : console.entries ≠ [])
    (way : Recall) : console.recallNumber way < console.entries.length := by
  have inside := settled.selected_lt listed
  cases way with
  | previous | pageUp => exact Nat.lt_of_le_of_lt (Nat.sub_le _ _) inside
  | next =>
      rw [recallNumber]
      split
      · omega
      · exact inside
  | pageDown =>
      rw [recallNumber]
      omega

/-- Counted without signs and with the ends of the list looked after one by one, the number is the
one that the way leads to. -/
theorem Settled.recallNumber_eq (settled : console.Settled) (listed : console.entries ≠ [])
    (way : Recall) : (console.recallNumber way : Int) = console.recallPlace way := by
  have height := settled.listHeight
  have inside := settled.recallNumber_lt listed way
  have selected := settled.selected_lt listed
  cases way with
  | previous | pageUp | pageDown =>
      simp only [recallNumber, recallPlace, Recall.distance, page] at inside ⊢
      omega
  | next =>
      simp only [recallNumber, recallPlace, Recall.distance] at inside ⊢
      split
      · omega
      · omega

/-- A recall finds the entry that is asked for. -/
theorem Settled.recalled (settled : console.Settled) (listed : console.entries ≠ [])
    (way : Recall) : console.Recalled way (console.recallBy way) := by
  have found := List.getElem?_eq_getElem (settled.recallNumber_lt listed way)
  rw [recall_eq]
  refine ⟨rfl, settled.recallNumber_eq listed way, _, found, ?_, ?_⟩
  · rw [recallAt, found]
    exact Editor.text_ofText _
  · rw [recallAt, found]
    exact Editor.cursor_ofText _

theorem Settled.recallBy (settled : console.Settled) (way : Recall) :
    (console.recallBy way).Settled := by
  rw [recall_eq]
  refine ⟨?_, settled.listHeight⟩
  by_cases listed : console.entries = []
  · have first : console.selected = 0 := by
      rcases settled.selection with inside | ⟨-, first⟩
      · rw [listed] at inside
        exact absurd inside (Nat.not_lt_zero _)
      · exact first
    refine .inr ⟨listed, ?_⟩
    show console.recallNumber way = 0
    cases way <;> simp [recallNumber, first, listed]
  · exact .inl (settled.recallNumber_lt listed way)

theorem Settled.showReply (settled : console.Settled) (now : Moment) (elapsed : Nat)
    (reply : Reply) : (console.showReply now elapsed reply).Settled := by
  cases reply with
  | evaluated evaluation =>
      rw [Console.showReply]
      split
      · refine ⟨.inl ?_, settled.listHeight⟩
        show console.entries.length < (console.entries ++ [_]).length
        rw [List.length_append]
        exact Nat.lt_succ_self _
      · exact settled.of_frame rfl rfl rfl
  | cleared => exact ⟨.inr ⟨rfl, rfl⟩, settled.listHeight⟩
  | _ => exact settled.of_frame rfl rfl rfl

theorem Settled.submit (settled : console.Settled) (now : Moment) (elapsed : Nat) :
    (console.submit now elapsed).Settled :=
  submit_keeps Settled now elapsed settled fun session reply =>
    have kept : ({ console with session := session } : Console).Settled :=
      settled.of_frame rfl rfl rfl
    kept.showReply now elapsed reply

/-- **No action takes the selection out of the list.** -/
theorem Settled.apply (settled : console.Settled) (action : Action) :
    (action.apply console).Settled := by
  cases action with
  | event now event =>
      have step := console.reaction now event
      show (console.handle now event).Settled
      generalize console.handle now event = after at step
      cases step with
      | edits hidden asked => exact settled.of_frame rfl rfl rfl
      | recalls hidden asked => exact settled.recallBy _
      | submits hidden entered => exact settled.submit now _
      | keeps unmoved =>
          exact settled.of_frame unmoved.entries unmoved.selected unmoved.listHeight
  | insert text => exact settled.of_frame rfl rfl rfl
  | submit now elapsed => exact settled.submit now elapsed
  | refresh now width height =>
      have shown := console.refreshed now width height
      rcases shown.listHeight with same | ⟨fits, measured⟩
      · exact settled.of_frame shown.entries shown.selected same
      · have kept : ({ console with listHeight := height - MainPage.listRow } : Console).Settled :=
          ⟨settled.selection, Nat.sub_le_sub_right fits MainPage.listRow⟩
        exact kept.of_frame shown.entries shown.selected measured
  | flush log now => exact settled.of_frame rfl rfl rfl

end Settled

/-- At the start the newest item of the history is selected. -/
theorem settled_ofSession (session : Session) : (ofSession session).Settled := by
  refine ⟨?_, Nat.le_refl 5⟩
  show (ofSession session).entries.length - 1 < (ofSession session).entries.length ∨ _
  cases listed : (ofSession session).entries with
  | nil =>
      have selected : (ofSession session).selected = (ofSession session).entries.length - 1 := rfl
      exact .inr ⟨rfl, by rw [selected, listed]; rfl⟩
  | cons entry rest => exact .inl (Nat.lt_succ_self _)

/-! ## Reachable states -/

/-- The front end as it may be found: started on a session with any history, after any actions. -/
def Reachable (console : Console) : Prop :=
  ∃ session actions, (ofSession session).runAll actions = console

theorem Reachable.settled {console : Console} (reached : console.Reachable) :
    console.Settled := by
  obtain ⟨session, actions, rfl⟩ := reached
  exact runAll_keeps Settled Settled.apply (settled_ofSession session) actions

/-- **The selection stays in the list.** Started on any history, the front end goes through any
events, submissions and drawings on terminals of any size. Then the selected entry is in the list,
or the list is empty and the number is 0; and the line that keeps its text and a count of characters
apart, however the state was reached, is the one that is shown, with the count at most that of its
characters. From a list that is not empty every way of going through it selects the entry it asks
for, or the one at the end of the list, and puts that into the input line with the cursor behind it.
A key does so while the help page is not shown; while it is shown, the key leaves the input line and
the list as they are. -/
theorem selection_of_reachable {console : Console} (reached : console.Reachable) :
    (console.selected < console.entries.length ∨
        console.entries = [] ∧ console.selected = 0) ∧
      ((∀ session actions, (ofSession session).runAll actions = console →
          (ofSession session).bufferAll {} actions = some console.editor.buffer) ∧
        console.editor.buffer.cursor ≤ console.editor.buffer.input.length) ∧
      (console.entries ≠ [] → ∀ way, console.Recalled way (console.recallBy way)) ∧
      ∀ now elapsed press way, press.recall? = some way →
        (console.showsHelp = false →
            console.handle now (.key press elapsed) = console.recallBy way) ∧
          (console.showsHelp = true →
            console.Unmoved (console.handle now (.key press elapsed))) := by
  have settled := reached.settled
  refine ⟨settled.selection, ⟨?_, console.editor.cursor_le⟩, settled.recalled,
    fun now elapsed press way asked => ⟨fun hidden => ?_, fun shown => ?_⟩⟩
  · rintro session actions rfl
    exact (ofSession session).bufferAll_eq actions
  · exact pressKey_of_recall? now elapsed hidden asked
  · exact unmoved_pressKey now elapsed shown

/-- A product evaluated after a sum that was in the history. -/
def productAfterSum : Console :=
  (ofSession ((Session.inMemory {} Settings.standard).submit ⟨0, 0⟩ "1+1".toList).1).runAll
    [.insert "6×7".toList, .submit ⟨1, 0⟩ 1000, .insert "2".toList]

theorem selection_of_reachable_productAfterSum :
    productAfterSum.Reachable ∧ productAfterSum.entries ≠ [] ∧ productAfterSum.selected = 1 ∧
      (productAfterSum.handle ⟨2, 0⟩ (.key { code := .up })).selected = 0 ∧
      (productAfterSum.handle ⟨2, 0⟩ (.key { code := .up })).editor.text = "1+1".toList := by
  have reached : productAfterSum.Reachable := ⟨_, _, rfl⟩
  have inputs : productAfterSum.entries.map Entry.input = ["1+1".toList, "6×7".toList] := by
    decide +kernel
  have selected : productAfterSum.selected = 1 := by decide +kernel
  have count : productAfterSum.entries.length = 2 := by
    rw [← List.length_map, inputs]
    rfl
  have listed : productAfterSum.entries ≠ [] := by
    rintro empty
    rw [empty] at count
    cases count
  obtain ⟨-, -, recalled, keys⟩ := selection_of_reachable reached
  obtain ⟨same, place, entry, found, text, -⟩ := recalled listed .previous
  have first : (productAfterSum.recallBy .previous).selected = 0 := by
    simp only [recallPlace, Recall.distance, selected, count] at place
    omega
  have oldest := congrArg (·[0]?) inputs
  rw [same, first] at found
  rw [List.getElem?_map, found] at oldest
  rw [(keys ⟨2, 0⟩ 0 { code := .up } .previous rfl).1 (by decide +kernel)]
  exact ⟨reached, listed, selected, first, text.trans (Option.some.inj oldest)⟩

end Console

end Reckoner
