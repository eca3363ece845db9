import Reckoner.Launch

/-!
# What happens at the front end

An event at the terminal submits the input line, asks for the next theme, or leaves the session and
the list as they are (`handled`). Drawing leaves them as they are too (`refreshed`), so what a
session goes through between the records of its log is a row of operations (`operations`).
-/

namespace Reckoner

/-- What the front end asks of its session. -/
inductive Session.Operation where
  | submit (now : Moment) (line : Text)
  | nextTheme

/-- The session after an operation. -/
def Session.Operation.apply : Session.Operation → Session → Session
  | .submit now line, session => (session.submit now line).1
  | .nextTheme, session => session.cycleTheme.1

/-- The path that an operation exports the history to. -/
def Session.Operation.exportPath? : Session.Operation → Option Text
  | .submit _ line =>
    match Command.parse? line with
    | some (.exportTo path) => some path
    | _ => none
  | .nextTheme => none

namespace Console

/-! ## Events -/

/-- What an event asks of the session. -/
def operation? (console : Console) (now : Moment) : Event → Option Session.Operation
  | .key press _ =>
    if console.showsHelp then none
    else
      match press.code with
      | .enter =>
        if Text.trim console.editor.text = [] then none
        else some (.submit now (Text.trim console.editor.text))
      | .function 2 => some .nextTheme
      | _ => none
  | .wheelDown | .wheelUp | .other => none

/-- What an event comes to, by what it asks of the session. -/
inductive Handled (console : Console) (now : Moment) : Option Session.Operation → Console → Prop where
  | submitted {elapsed : Nat} (visible : Text.trim console.editor.text ≠ []) :
      Handled console now (some (.submit now (Text.trim console.editor.text)))
        (console.submit now elapsed)
  | themed : Handled console now (some .nextTheme) (console.cycleTheme now)
  | kept {after : Console} (session : after.session = console.session)
      (entries : after.entries = console.entries) : Handled console now none after

theorem handled_scroll (console : Console) (now : Moment) (change : Nat → Nat) :
    Handled console now none (console.scroll change) := by
  rw [scroll]
  split
  · exact .kept rfl rfl
  · exact .kept rfl rfl

theorem handled_pressChar (console : Console) (now : Moment) (c : Char) (control alt : Bool) :
    Handled console now none (console.pressChar c control alt) := by
  rw [pressChar]
  split
  · split
    · exact .kept rfl rfl
    · split
      · exact .kept rfl rfl
      · split
        · exact .kept rfl rfl
        · exact .kept rfl rfl
  · split
    · exact .kept rfl rfl
    · exact .kept rfl rfl

/-- A key of the help page scrolls it or leaves it. -/
theorem handled_pressInHelp (console : Console) (now : Moment) (code : KeyCode) :
    Handled console now none (console.pressInHelp code) := by
  rw [pressInHelp.eq_def]
  split <;> exact .kept rfl rfl

theorem handled_submit (console : Console) (now : Moment) (elapsed : Nat) :
    Handled console now
      (if Text.trim console.editor.text = [] then none
        else some (.submit now (Text.trim console.editor.text)))
      (console.submit now elapsed) := by
  by_cases blank : Text.trim console.editor.text = []
  · have same : console.submit now elapsed = console := if_pos blank
    rw [if_pos blank, same]
    exact .kept rfl rfl
  · rw [if_neg blank]
    exact .submitted blank

/-- **Every event is one of three things** to the session: a line submitted, the next theme, or
nothing at all. -/
theorem handled (console : Console) (now : Moment) (event : Event) :
    Handled console now (console.operation? now event) (console.handle now event) := by
  cases event with
  | wheelDown => exact handled_scroll console now (· + wheelRows)
  | wheelUp => exact handled_scroll console now (· - wheelRows)
  | other => exact .kept rfl rfl
  | key press elapsed =>
      rw [operation?, handle, pressKey]
      split
      · exact handled_pressInHelp console now press.code
      · obtain ⟨code, control, alt, shift⟩ := press
        cases code with
        | enter => exact handled_submit console now elapsed
        | char c => exact handled_pressChar console now c control alt
        | function number =>
            rcases number with _ | _ | _ | number
            · exact .kept rfl rfl
            · exact .kept rfl rfl
            · exact .themed
            · exact .kept rfl rfl
        | _ => exact .kept rfl rfl

/-! ## Submissions -/

theorem showReply_session (console : Console) (now : Moment) (elapsed : Nat) (reply : Reply) :
    (console.showReply now elapsed reply).session = console.session := by
  cases reply with
  | evaluated evaluation =>
      rw [showReply]
      split
      · rfl
      · rfl
  | _ => rfl

/-- A visible line is submitted to the session, and the answer is shown. -/
theorem submit_eq {console : Console} (visible : Text.trim console.editor.text ≠ [])
    (now : Moment) (elapsed : Nat) :
    console.submit now elapsed =
      { console with
          session := (console.session.submit now (Text.trim console.editor.text)).1 }.showReply now
        elapsed (console.session.submit now (Text.trim console.editor.text)).2 := if_neg visible

/-- What holds after every answer, whatever the session, holds after a submission. -/
theorem submit_keeps (holds : Console → Prop) {console : Console} (now : Moment) (elapsed : Nat)
    (start : holds console)
    (answered : ∀ session reply,
      holds (({ console with session := session } : Console).showReply now elapsed reply)) :
    holds (console.submit now elapsed) := by
  rw [submit]
  split
  · exact start
  · exact answered _ _

/-- An event does to the session what it asks of it. -/
theorem session_handle (console : Console) (now : Moment) (event : Event) :
    (console.handle now event).session =
      (console.operation? now event).elim console.session (·.apply console.session) := by
  have step := handled console now event
  cases asked : console.operation? now event with
  | none =>
      rw [asked] at step
      cases step with
      | kept session entries => exact session
  | some operation =>
      rw [asked] at step
      generalize console.handle now event = after at step
      cases step with
      | submitted visible => rw [submit_eq visible, showReply_session]; rfl
      | themed => rfl

/-! ## Between events -/

/-- A message that is taken away is all that changes with time. -/
theorem expireFlash_eq (console : Console) (now : Moment) :
    ∃ flash, console.expireFlash now = { console with flash := flash } := by
  rw [expireFlash]
  split
  · split
    · exact ⟨none, rfl⟩
    · exact ⟨console.flash, rfl⟩
  · exact ⟨console.flash, rfl⟩

theorem drawList_frame (console : Console) (now : Moment) (screen : Screen) (area : Area) :
    (MainPage.drawList console now screen area).1.session = console.session ∧
      (MainPage.drawList console now screen area).1.entries = console.entries ∧
      (MainPage.drawList console now screen area).1.selected = console.selected ∧
      (MainPage.drawList console now screen area).1.editor = console.editor := by
  unfold MainPage.drawList
  dsimp only
  split
  · exact ⟨rfl, rfl, rfl, rfl⟩
  · exact ⟨rfl, rfl, rfl, rfl⟩

/-- What drawing on a terminal of a given height leaves as it is, and the height of the list that it
notes. -/
structure Drawn (console : Console) (height : Nat) (after : Console) : Prop where
  session : after.session = console.session
  entries : after.entries = console.entries
  selected : after.selected = console.selected
  editor : ∃ scroll, after.editor = { console.editor with scroll := scroll }
  listHeight : after.listHeight = console.listHeight ∨
    MainPage.minHeight ≤ height ∧ after.listHeight = height - MainPage.listRow

/-- Drawing changes only how far things are scrolled and what it measures. -/
theorem drawn (console : Console) (now : Moment) (width height : Nat) :
    console.Drawn height (console.draw now width height).1 := by
  unfold draw
  split
  · exact ⟨rfl, rfl, rfl, ⟨_, rfl⟩, .inl rfl⟩
  · unfold MainPage.draw
    dsimp only
    split
    · exact ⟨rfl, rfl, rfl, ⟨_, rfl⟩, .inl rfl⟩
    · rename_i fits
      obtain ⟨session, entries, selected, editor⟩ := drawList_frame _ now _ _
      refine ⟨session, entries, selected, ⟨_, editor⟩, .inr ⟨?_, ?_⟩⟩
      · simp only [MainPage.isTooSmall, Bool.or_eq_true, decide_eq_true_eq] at fits
        omega
      · exact congrArg (· - MainPage.listRow) (Screen.height_restyle _ _ _)

theorem refreshed (console : Console) (now : Moment) (width height : Nat) :
    console.Drawn height (console.refresh now width height) := by
  obtain ⟨flash, expired⟩ := expireFlash_eq console now
  have shown := drawn { console with flash := flash } now width height
  rw [refresh, expired]
  exact ⟨shown.session, shown.entries, shown.selected, shown.editor, shown.listHeight⟩

/-! ## Runs -/

/-- What events ask of the session until the front end is left, in order. -/
def operations (console : Console) (log : Log) (width height : Nat) :
    List (Moment × Event) → List Session.Operation
  | [] => []
  | (now, event) :: rest =>
    let refreshed := console.refresh now width height
    if refreshed.wantsQuit then []
    else
      (refreshed.operation? now event).toList
        ++ operations ((refreshed.handle now event).flush log now) log width height rest

/-- What is done to the front end. -/
inductive Action where
  | event (now : Moment) (event : Event)
  /-- Text put in at the cursor. -/
  | insert (text : Text)
  | submit (now : Moment) (elapsed : Nat)
  /-- The page drawn on a terminal of a given size. -/
  | refresh (now : Moment) (width height : Nat)
  /-- The log written down. -/
  | flush (log : Log) (now : Moment)

/-- The front end after an action. -/
def Action.apply (console : Console) : Action → Console
  | .event now happened => console.handle now happened
  | .insert text => console.edit (·.insert text)
  | .submit now elapsed => console.submit now elapsed
  | .refresh now width height => console.refresh now width height
  | .flush log now => console.flush log now

/-- The front end after actions, in order. -/
def runAll (console : Console) (actions : List Action) : Console :=
  actions.foldl Action.apply console

/-- What every action keeps is kept by a run. -/
theorem runAll_keeps (holds : Console → Prop)
    (keeps : ∀ {console}, holds console → ∀ action, holds (Action.apply console action))
    {console : Console} (start : holds console) (actions : List Action) :
    holds (console.runAll actions) := by
  induction actions generalizing console with
  | nil => exact start
  | cons action rest ih => exact ih (keeps start action)

/-- The terminal's events are handled by such a run. -/
theorem exists_runAll_eq_handleAll (console : Console) (log : Log) (width height : Nat)
    (events : List (Moment × Event)) :
    ∃ actions, console.handleAll log width height events = console.runAll actions := by
  induction events generalizing console with
  | nil => exact ⟨[], rfl⟩
  | cons first rest ih =>
      obtain ⟨now, event⟩ := first
      rw [handleAll]
      split
      · exact ⟨[.refresh now width height], rfl⟩
      · obtain ⟨later, same⟩ :=
          ih (((console.refresh now width height).handle now event).flush log now)
        exact ⟨.refresh now width height :: .event now event :: .flush log now :: later, same⟩

end Console

end Reckoner
