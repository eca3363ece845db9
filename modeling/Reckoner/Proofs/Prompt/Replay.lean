import Reckoner.Proofs.Prompt.Commands
import Reckoner.Proofs.Prompt.Effects

/-!
# What is in the history can be submitted again

A line that has a value is answered by that value, whatever state the session is in
(`submit_of_value`). The history only ever takes in such lines, without the white space around them
(`replays_submit`), so each of its items is answered by the result it was kept with.
-/

namespace Reckoner

/-! ## Evaluation -/

namespace Expression

/-- Recording the steps changes no value. -/
theorem run_value (detailed : Bool) (text : Text) : (run detailed text).2 = value text := by
  unfold value run
  cases Token.ofText text with
  | error cause => rfl
  | ok tokens =>
      dsimp only
      cases Postfix.ofInfix tokens with
      | error cause => rfl
      | ok ordered => rfl

/-- In quiet mode there are no steps. -/
theorem run_steps (text : Text) : (run false text).1 = [] := by
  unfold run
  cases Token.ofText text with
  | error cause => rfl
  | ok tokens =>
      dsimp only
      cases Postfix.ofInfix tokens with
      | error cause => rfl
      | ok ordered => rfl

end Expression

namespace Calculator

/-- A text with a value is calculated. -/
theorem calculate_of_value {calculator : Calculator} {value : Float}
    (valued : Expression.value (Glyph.spellAll calculator.expression) = .ok value) :
    (calculator.calculate false).2 =
      .ok (some ⟨calculator.expression, Answer.settle value, []⟩) := by
  have visible := Expression.not_isAllBlank_of_value valued
  have outcome : Expression.run false (Glyph.spellAll calculator.expression) = ([], .ok value) :=
    Prod.ext (Expression.run_steps _) valued
  rw [calculate, visible, outcome]
  rfl

/-- What is calculated is the settled value of the expression. -/
theorem value_of_calculate {calculator : Calculator} {detailed : Bool} {calculation : Calculation}
    (calculated : (calculator.calculate detailed).2 = .ok (some calculation)) :
    calculation.expression = calculator.expression ∧
      ∃ value, Expression.value (Glyph.spellAll calculator.expression) = .ok value ∧
        calculation.result = Answer.settle value := by
  rcases calculator.calculate_cases detailed with nothing | ⟨cause, -, failure⟩ |
    ⟨steps, value, outcome, success⟩
  · rw [nothing] at calculated
    cases calculated
  · rw [failure] at calculated
    cases calculated
  · rw [success] at calculated
    cases calculated
    refine ⟨rfl, value, ?_, rfl⟩
    rw [← Expression.run_value detailed, outcome]

end Calculator

namespace Command

theorem trim_of_after? {word line rest : Text} (found : after? word line = some rest) :
    Text.trim rest = rest := by
  rw [after?] at found
  split at found
  · cases found
    exact Text.trim_trim _
  · cases found

theorem trim_of_before? {word line rest : Text} (found : before? word line = some rest) :
    Text.trim rest = rest := by
  rw [before?] at found
  split at found
  · cases found
    exact Text.trim_trim _
  · cases found

/-- No command of a single word brings an expression with it. -/
theorem eq_nil_of_lookup {word expression : Text} {detailed : Bool}
    (found : words.lookup word = some (.evaluate expression detailed)) : expression = [] := by
  have member := mem_words_of_lookup found
  simp [words] at member
  exact member.2.1

/-- What a line asks to be evaluated has no white space around it. -/
theorem trim_of_parse? {line expression : Text} {detailed : Bool}
    (asked : parse? line = some (.evaluate expression detailed)) :
    Text.trim expression = expression := by
  have whole : ofLine (Text.trim line) = .evaluate expression detailed := by
    rw [parse?] at asked
    split at asked
    · cases asked
    · exact Option.some.inj asked
  -- What stands behind or before a word has been trimmed, and a line without one is trimmed.
  unfold ofLine at whole
  split at whole
  · rename_i command found
    rw [whole] at found
    rw [eq_nil_of_lookup found]
    rfl
  · split at whole
    · cases whole
    · split at whole
      · cases whole
      · split at whole
        · rename_i rest found
          cases whole
          exact trim_of_after? found
        · split at whole
          · rename_i rest found
            cases whole
            exact trim_of_before? found
          · cases whole
            exact Text.trim_trim line

end Command

/-! ## The history -/

/-- An item whose expression has, as it stands, the value that the item was kept with. -/
structure HistoryItem.Replays (item : HistoryItem) : Prop where
  trimmed : Text.trim item.expression = item.expression
  valued : ∃ value, Expression.value (Glyph.spellAll item.expression) = .ok value ∧
    item.result = Answer.settle value

namespace Session

theorem exportTo_history (session : Session) (path : Text) :
    (session.exportTo path).1.history = session.history := by
  unfold exportTo
  split
  · rfl
  · rfl

/-- An evaluation leaves the history as it is or records a value of the expression in it. -/
theorem evaluate_history (session : Session) (now : Moment) (expression : Text) (detailed : Bool) :
    (session.evaluate now expression detailed).1.history = session.history ∨
      ∃ value, Expression.value (Glyph.spellAll expression) = .ok value ∧
        (session.evaluate now expression detailed).1.history =
          session.history.record expression (Answer.settle value) now := by
  rw [evaluate]
  cases outcome : (session.calculator.setExpression expression).calculate detailed with
  | mk calculator result =>
      cases result with
      | error cause => exact .inl rfl
      | ok found =>
          cases found with
          | none => exact .inl rfl
          | some calculation =>
              have calculated := congrArg Prod.snd outcome
              obtain ⟨same, value, valued, settled⟩ := Calculator.value_of_calculate calculated
              right
              refine ⟨value, valued, ?_⟩
              rw [← settled]
              show session.history.record calculation.expression calculation.result now = _
              rw [same]
              rfl

/-- A command takes nothing into the history but what it asks to be evaluated. -/
theorem perform_history {session : Session} {now : Moment} {command : Command} {item : HistoryItem}
    (member : item ∈ (session.perform now command).1.history.items) :
    item ∈ session.history.items ∨
      ∃ detailed value, command = .evaluate item.expression detailed ∧
        Expression.value (Glyph.spellAll item.expression) = .ok value ∧
          item.result = Answer.settle value := by
  cases command with
  | quit => exact .inl member
  | clear => cases member
  | help => exact .inl member
  | theme name =>
      left
      cases name with
      | none =>
          have kept := (session.became_setTheme session.theme.next).history
          exact kept ▸ member
      | some name =>
          rw [perform] at member
          split at member
          · rename_i theme _
            have kept := (session.became_setTheme theme).history
            exact kept ▸ member
          · exact member
  | memoryClear => exact .inl member
  | memoryAdd => exact .inl member
  | memoryRecall => exact .inl member
  | exportTo path =>
      left
      have kept := session.exportTo_history path
      exact kept ▸ member
  | evaluate expression detailed =>
      cases expression with
      | nil => exact .inl member
      | cons c rest =>
          replace member : item ∈
            (session.evaluate now (c :: rest) detailed).1.history.items := member
          -- A new item stands in front of the others; the limit can only have cut some of those.
          rcases session.evaluate_history now (c :: rest) detailed with kept |
            ⟨value, valued, recorded⟩
          · rw [kept] at member
            exact .inl member
          · rw [recorded] at member
            rcases List.mem_cons.mp (List.mem_of_mem_take member) with rfl | before
            · exact .inr ⟨detailed, value, rfl, valued, rfl⟩
            · exact .inl before

/-- **One line keeps the history fit for replay.** -/
theorem replays_submit {session : Session}
    (replays : ∀ item ∈ session.history.items, item.Replays) (now : Moment) (line : Text) :
    ∀ item ∈ (session.submit now line).1.history.items, item.Replays := by
  intro item member
  rw [submit] at member
  cases asked : Command.parse? line with
  | none =>
      rw [asked] at member
      exact replays item member
  | some command =>
      rw [asked] at member
      rcases perform_history member with before | ⟨detailed, value, rfl, valued, settled⟩
      · exact replays item before
      · exact ⟨Command.trim_of_parse? asked, value, valued, settled⟩

/-- The session after a row of lines, each submitted at its own moment. -/
def submitEach (session : Session) (lines : List (Moment × Text)) : Session :=
  lines.foldl (fun session line => (session.submit line.1 line.2).1) session

theorem replays_submitEach {session : Session}
    (replays : ∀ item ∈ session.history.items, item.Replays) (lines : List (Moment × Text)) :
    ∀ item ∈ (session.submitEach lines).history.items, item.Replays := by
  induction lines generalizing session with
  | nil => exact replays
  | cons line rest ih => exact ih (replays_submit replays line.1 line.2)

/-- An expression with a value is answered by the settled value. -/
theorem evaluate_of_value {expression : Text} {value : Float}
    (valued : Expression.value (Glyph.spellAll expression) = .ok value) {session : Session}
    {now : Moment} :
    (session.evaluate now expression false).2 =
      ⟨expression, .ok (Answer.settle value), [], false⟩ := by
  have calculated : ((session.calculator.setExpression expression).calculate false).2 =
      .ok (some ⟨expression, Answer.settle value, []⟩) := Calculator.calculate_of_value valued
  rw [evaluate]
  cases outcome : (session.calculator.setExpression expression).calculate false with
  | mk calculator result =>
      rw [outcome] at calculated
      cases calculated
      rfl

/-- **A line that has a value is answered by it**, in every state of the session. -/
theorem submit_of_value {line : Text} {value : Float}
    (valued : Expression.value (Glyph.spellAll line) = .ok value)
    (trimmed : Text.trim line = line) (session : Session) (now : Moment) :
    (session.submit now line).2 = .evaluated ⟨line, .ok (Answer.settle value), [], false⟩ := by
  have asked := Command.parse?_of_value valued
  rw [trimmed] at asked
  have visible := Expression.not_isAllBlank_of_value valued
  obtain ⟨c, rest, rfl⟩ : ∃ c rest, line = c :: rest := by
    cases line with
    | nil => cases visible
    | cons c rest => exact ⟨c, rest, rfl⟩
  rw [submit, asked]
  show Reply.evaluated (evaluate _ now (c :: rest) false).2 = _
  rw [evaluate_of_value valued]

/-- **Replay.** After any lines submitted to a session with an empty history, every item is answered
by the result that it was kept with when its expression is submitted again, in whatever state. No
text that has a value is taken for a command of another kind. -/
theorem submit_replay {session : Session} (fresh : session.history.items = [])
    (lines : List (Moment × Text)) :
    (∀ item ∈ (session.submitEach lines).history.items, ∀ (later : Session) (now : Moment),
      (later.submit now item.expression).2 =
        .evaluated ⟨item.expression, .ok item.result, [], false⟩) ∧
    ∀ text value, Expression.value (Glyph.spellAll text) = .ok value →
      Command.parse? text = some (.evaluate (Text.trim text) false) := by
  constructor
  · intro item member later now
    have start : ∀ item ∈ session.history.items, item.Replays := by
      intro item member
      rw [fresh] at member
      cases member
    obtain ⟨trimmed, value, valued, settled⟩ := replays_submitEach start lines item member
    rw [settled]
    exact submit_of_value valued trimmed later now
  · intro text value valued
    exact Command.parse?_of_value valued

/-- A calculation in steps, a theme, and an expression between blanks. -/
theorem submit_replay_in_memory :
    (inMemory {} Settings.standard).history.items = [] ∧
      (∀ item ∈ ((inMemory {} Settings.standard).submitEach
          [(⟨0, 0⟩, " 1-2 DETAILS".toList), (⟨1, 0⟩, "Theme nord".toList),
            (⟨2, 0⟩, " 2+2×4 ".toList)]).history.items,
        ∀ (later : Session) (now : Moment), (later.submit now item.expression).2 =
          .evaluated ⟨item.expression, .ok item.result, [], false⟩) ∧
      Command.parse? " 2+2×4 ".toList = some (.evaluate "2+2×4".toList false) := by
  have fresh : (inMemory {} Settings.standard).history.items = [] := rfl
  have valued : Expression.value (Glyph.spellAll " 2+2×4 ".toList) = .ok 10.0 := by
    decide +kernel
  obtain ⟨replays, evaluated⟩ := submit_replay fresh
    [(⟨0, 0⟩, " 1-2 DETAILS".toList), (⟨1, 0⟩, "Theme nord".toList), (⟨2, 0⟩, " 2+2×4 ".toList)]
  exact ⟨fresh, replays, evaluated _ _ valued⟩

end Session

end Reckoner
