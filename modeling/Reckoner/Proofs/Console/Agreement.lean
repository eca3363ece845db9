import Reckoner.Proofs.Console.Steps
import Reckoner.Proofs.History.Recent
import Reckoner.Proofs.Prompt.Effects

/-!
# The list and the history agree

An answer says what becomes of the history (`Session.submit_history`) and of the list on the screen
(`Console.map_entries_showReply`), and it says the same of both. So the history, which is capped and
has the newest item first, is always the end of the list, which is neither (`Console.Agrees.apply`).
-/

namespace Reckoner

/-- The effect on evaluated expressions with their results, oldest first. -/
def Reply.Effect.onOutcomes (outcomes : List (Text × Float)) : Effect → List (Text × Float)
  | .kept => outcomes
  | .cleared => []
  | .recorded expression result => outcomes ++ [(expression, result)]

/-- The expression of an item and its result. -/
def HistoryItem.outcome (item : HistoryItem) : Text × Float := (item.expression, item.result)

/-- The expression of an entry and its result. -/
def Entry.outcome (entry : Entry) : Text × Float := (entry.input, entry.result)

namespace Console

/-- **What an answer shows in the list is what it records in the history.** -/
theorem map_entries_showReply (console : Console) (now : Moment) (elapsed : Nat) (reply : Reply) :
    (console.showReply now elapsed reply).entries.map Entry.outcome =
      reply.effect.onOutcomes (console.entries.map Entry.outcome) := by
  cases reply with
  | evaluated evaluation =>
      rw [showReply, Reply.effect]
      cases evaluation.result with
      | error message => rfl
      | ok result =>
          show (console.entries ++ [_]).map Entry.outcome = _
          rw [List.map_append]
          rfl
  | _ => rfl

/-- Oldest first, the history holds the expressions and results of the last entries of the list, as
many as a cap allows. -/
def EndsInHistory (console : Console) (cap : Nat) : Prop :=
  console.session.history.items.reverse.map HistoryItem.outcome =
    (console.entries.drop (console.entries.length - min cap console.entries.length)).map
      Entry.outcome

/-- The history is the end of the list, newest first, as far as a cap lets it reach; the settings
hold the cap. -/
structure Agrees (cap : Nat) (console : Console) : Prop where
  settings : console.session.settings.maxHistory = cap
  limit : console.session.history.limit = cap
  items : console.session.history.items.map HistoryItem.outcome =
    (console.entries.map Entry.outcome).reverse.take cap

/-- The same effect on both keeps them in agreement. -/
theorem items_onHistory {history : History} {outcomes : List (Text × Float)}
    (items : history.items.map HistoryItem.outcome = outcomes.reverse.take history.limit)
    (now : Moment) (effect : Reply.Effect) :
    (effect.onHistory now history).limit = history.limit ∧
      (effect.onHistory now history).items.map HistoryItem.outcome =
        (effect.onOutcomes outcomes).reverse.take history.limit := by
  cases effect with
  | kept => exact ⟨rfl, items⟩
  | cleared => exact ⟨rfl, List.take_nil.symm⟩
  | recorded expression result =>
      refine ⟨rfl, ?_⟩
      rw [Reply.Effect.onOutcomes, List.reverse_append, List.reverse_singleton,
        List.singleton_append]
      exact History.map_items_record HistoryItem.outcome items expression result now

section Agreement

variable {cap : Nat} {console : Console}

/-- What leaves session and list as they are keeps them in agreement. -/
theorem Agrees.of_frame (agrees : console.Agrees cap) {after : Console}
    (session : after.session = console.session) (entries : after.entries = console.entries) :
    after.Agrees cap := by
  constructor
  · rw [session]
    exact agrees.settings
  · rw [session]
    exact agrees.limit
  · rw [session, entries]
    exact agrees.items

theorem Agrees.submit (agrees : console.Agrees cap) (now : Moment) (elapsed : Nat) :
    (console.submit now elapsed).Agrees cap := by
  by_cases blank : Text.trim console.editor.text = []
  · have same : console.submit now elapsed = console := if_pos blank
    rw [same]
    exact agrees
  · have history := console.session.submit_history now (Text.trim console.editor.text)
    obtain ⟨theme, settings⟩ :=
      console.session.submit_settings now (Text.trim console.editor.text)
    obtain ⟨limit, items⟩ := items_onHistory (agrees.limit.symm ▸ agrees.items) now
      (console.session.submit now (Text.trim console.editor.text)).2.effect
    rw [submit_eq blank]
    constructor
    · rw [showReply_session, settings]
      exact agrees.settings
    · rw [showReply_session, history, limit, agrees.limit]
    · rw [showReply_session, map_entries_showReply, history, items, agrees.limit]

theorem Agrees.cycleTheme (agrees : console.Agrees cap) (now : Moment) :
    (console.cycleTheme now).Agrees cap := by
  have became := console.session.became_setTheme console.session.theme.next
  constructor
  · show (console.session.setTheme _).settings.maxHistory = cap
    rw [became.settings]
    exact agrees.settings
  · show (console.session.setTheme _).history.limit = cap
    rw [became.history]
    exact agrees.limit
  · show (console.session.setTheme _).history.items.map _ = _
    rw [became.history]
    exact agrees.items

/-- **No action parts the list from the history.** -/
theorem Agrees.apply (agrees : console.Agrees cap) (action : Action) :
    (action.apply console).Agrees cap := by
  cases action with
  | event now event =>
      have step := handled console now event
      show (console.handle now event).Agrees cap
      generalize console.operation? now event = asked at step
      generalize console.handle now event = after at step
      cases step with
      | submitted visible => exact agrees.submit now _
      | themed => exact agrees.cycleTheme now
      | kept session entries => exact agrees.of_frame session entries
  | insert text => exact agrees.of_frame rfl rfl
  | submit now elapsed => exact agrees.submit now elapsed
  | refresh now width height =>
      have shown := refreshed console now width height
      exact agrees.of_frame shown.session shown.entries
  | flush log now => exact ⟨agrees.settings, agrees.limit, agrees.items⟩

theorem Agrees.runAll (agrees : console.Agrees cap) (actions : List Action) :
    (console.runAll actions).Agrees cap := runAll_keeps (Agrees cap) Agrees.apply agrees actions

theorem Agrees.endsInHistory (agrees : console.Agrees cap) : console.EndsInHistory cap := by
  have count : console.entries.length - cap =
      console.entries.length - min cap console.entries.length := by omega
  rw [EndsInHistory, List.map_reverse, agrees.items, List.take_reverse, List.reverse_reverse,
    List.length_map, List.map_drop, count]

end Agreement

/-- At the start the list is the history. -/
theorem agrees_ofSession {session : Session}
    (limit : session.history.limit = session.settings.maxHistory)
    (short : session.history.items.length ≤ session.history.limit) :
    (ofSession session).Agrees session.settings.maxHistory := by
  refine ⟨rfl, limit, ?_⟩
  have outcomes : ((ofSession session).entries.map Entry.outcome).reverse =
      session.history.items.map HistoryItem.outcome := by
    show ((session.history.items.reverse.map _).map Entry.outcome).reverse = _
    rw [List.map_map, List.map_reverse, List.reverse_reverse]
    rfl
  rw [outcomes, List.take_of_length_le]
  · rfl
  · rw [List.length_map, ← limit]
    exact short

theorem agrees_inMemory (store : Store) (settings : Settings) :
    (ofSession (Session.inMemory store settings)).Agrees settings.maxHistory :=
  have short : (Session.inMemory store settings).history.items.length ≤ settings.maxHistory :=
    Nat.zero_le _
  agrees_ofSession rfl short

theorem agrees_start (store : Store) (files : DataDir) (settings : Settings) :
    (ofSession (Session.start store files settings)).Agrees settings.maxHistory := by
  obtain ⟨theme, cap, persists⟩ := settings
  have started : (Session.start store files ⟨theme, cap, persists⟩).history.limit = cap ∧
      (Session.start store files ⟨theme, cap, persists⟩).history.items.length ≤ cap := by
    cases persists with
    | false => exact ⟨rfl, Nat.zero_le cap⟩
    | true => exact ⟨rfl, List.length_take_le cap _⟩
  exact agrees_ofSession started.1 (started.1.symm ▸ started.2)

/-- **The list ends in the history.** The front end is started on any history, from a file or in
memory, and any events, submissions and drawings follow. Then the history, oldest first, holds the
expressions and the results of the last entries of the list, as many of them as the settings let it
keep. So it is whenever the terminal waits for an event. -/
theorem history_of_runAll (store : Store) (files : DataDir) (settings : Settings) :
    (∀ actions, ((ofSession (Session.start store files settings)).runAll actions).EndsInHistory
      settings.maxHistory) ∧
    (∀ actions, ((ofSession (Session.inMemory store settings)).runAll actions).EndsInHistory
      settings.maxHistory) ∧
    ∀ log width height events,
      ((ofSession (Session.start store files settings)).handleAll log width height
        events).EndsInHistory settings.maxHistory := by
  refine ⟨fun actions => ((agrees_start store files settings).runAll actions).endsInHistory,
    fun actions => ((agrees_inMemory store settings).runAll actions).endsInHistory,
    fun log width height events => ?_⟩
  obtain ⟨actions, same⟩ := exists_runAll_eq_handleAll
    (ofSession (Session.start store files settings)) log width height events
  rw [same]
  exact ((agrees_start store files settings).runAll actions).endsInHistory

end Console

end Reckoner
