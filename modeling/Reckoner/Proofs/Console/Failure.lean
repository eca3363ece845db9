import Reckoner.Console.State

/-!
# A failed line loses nothing

A line fails in the expression (`Session.evaluate_of_failure`), in the name of a theme or in a file
that cannot be written. Each way leaves the session as it was but for what is entered on the
calculator and the log (`Session.submit_of_failure`), so the front end has only a message more to
show (`Console.submit_eq_flash_of_failure`).
-/

namespace Reckoner

/-- The wording of an answer that reports a failure. -/
def Reply.failure? : Reply → Option Text
  | .failed message => some message
  | .evaluated evaluation =>
    match evaluation.result with
    | .ok _ => none
    | .error message => some message
  | _ => none

theorem Reply.failure?_evaluated {evaluation : Evaluation} {message : Text} :
    (Reply.evaluated evaluation).failure? = some message ↔ evaluation.result = .error message := by
  rw [failure?]
  cases evaluation.result with
  | ok value => simp
  | error wording => simp

/-- What does not come to a result leaves the calculator as it is. -/
theorem Calculator.calculate_eq_self {calculator : Calculator} {detailed : Bool}
    (failed : ∀ calculation, (calculator.calculate detailed).2 ≠ .ok (some calculation)) :
    (calculator.calculate detailed).1 = calculator := by
  rcases calculator.calculate_cases detailed with nothing | ⟨cause, -, failure⟩ |
    ⟨steps, value, -, success⟩
  · rw [nothing]
  · rw [failure]
  · rw [success] at failed
    exact absurd rfl (failed _)

namespace Session

/-- The session with something else entered on the calculator and with more records in its log. -/
def attempted (session : Session) (expression : Text) (shown : Bool) (records : List Record) :
    Session :=
  { session with
    calculator := { session.calculator with expression := expression, showsResult := shown }
    store := session.store.noteAll records }

theorem note_eq_attempted (session : Session) (level : Level) (source : Source) (message : Text) :
    session.note level source message =
      session.attempted session.calculator.expression session.calculator.showsResult
        [⟨level, source, message⟩] := rfl

theorem attempted_attempted (session : Session) (first second : Text) (before after : Bool)
    (earlier later : List Record) :
    (session.attempted first before earlier).attempted second after later =
      session.attempted second after (earlier ++ later) := by
  simp only [attempted, Store.noteAll, List.append_assoc]

section Failure

variable {session : Session} {now : Moment} {message : Text}

/-- An expression without a value is left on the calculator, and nothing is recorded. -/
theorem evaluate_of_failure {expression : Text} {detailed : Bool}
    (failed : (session.evaluate now expression detailed).2.result = .error message) :
    ∃ records,
      (session.evaluate now expression detailed).1 = session.attempted expression false records := by
  have kept := @Calculator.calculate_eq_self (session.calculator.setExpression expression) detailed
  rw [evaluate] at failed ⊢
  cases outcome : (session.calculator.setExpression expression).calculate detailed with
  | mk calculator result =>
      rw [outcome] at kept failed
      cases result with
      | error cause =>
          obtain rfl : calculator = session.calculator.setExpression expression :=
            kept fun calculation same => by cases same
          exact ⟨_, attempted_attempted session expression expression false false _ [_]⟩
      | ok found =>
          cases found with
          | none =>
              obtain rfl : calculator = session.calculator.setExpression expression :=
                kept fun calculation same => by cases same
              exact ⟨_, rfl⟩
          | some calculation => cases failed

/-- A command that fails changes what is entered and the log at most. -/
theorem perform_of_failure {command : Command}
    (failed : (session.perform now command).2.failure? = some message) :
    ∃ expression shown records,
      (session.perform now command).1 = session.attempted expression shown records := by
  have unchanged : ∃ expression shown records, session = session.attempted expression shown records :=
    ⟨session.calculator.expression, session.calculator.showsResult, [], by
      simp only [attempted, Store.noteAll, List.append_nil]⟩
  cases command with
  | quit => cases failed
  | clear => cases failed
  | help => cases failed
  | theme name =>
      cases name with
      | none => cases failed
      | some name =>
          rw [perform] at failed ⊢
          cases known : Theme.ofName? name with
          | none => exact unchanged
          | some theme =>
              rw [known] at failed
              cases failed
  | memoryClear => cases failed
  | memoryAdd => cases failed
  | memoryRecall => cases failed
  | exportTo path =>
      rw [perform, exportTo] at failed ⊢
      rw [History.exportTo] at failed ⊢
      cases wrote : session.store.disk.write path (History.exportText session.history.items) with
      | error fault => exact unchanged
      | ok disk =>
          rw [wrote] at failed
          cases failed
  | evaluate expression detailed =>
      cases expression with
      | nil => exact unchanged
      | cons c rest =>
          have error : (session.evaluate now (c :: rest) detailed).2.result = .error message :=
            Reply.failure?_evaluated.mp failed
          obtain ⟨records, same⟩ := evaluate_of_failure error
          exact ⟨c :: rest, false, records, same⟩

/-- **A line that fails changes what is entered and the log at most**: neither the last result nor
the memory, neither history nor settings, and no file. -/
theorem submit_of_failure {line : Text}
    (failed : (session.submit now line).2.failure? = some message) :
    ∃ expression shown records,
      (session.submit now line).1 = session.attempted expression shown records := by
  rw [submit] at failed ⊢
  cases asked : Command.parse? line with
  | none =>
      rw [asked] at failed
      cases failed
  | some command =>
      rw [asked] at failed
      obtain ⟨expression, shown, records, same⟩ := perform_of_failure failed
      rw [note_eq_attempted, attempted_attempted] at same
      exact ⟨expression, shown, _, same⟩

end Failure

end Session

namespace Console

/-- Of an answer that reports a failure only the wording is shown. -/
theorem showReply_of_failure {reply : Reply} {message : Text}
    (failed : reply.failure? = some message) (console : Console) (now : Moment) (elapsed : Nat) :
    console.showReply now elapsed reply = console.withFlash now message true := by
  cases reply with
  | failed wording =>
      cases failed
      rfl
  | evaluated evaluation =>
      have error := Reply.failure?_evaluated.mp failed
      rw [showReply, error]
  | _ => cases failed

/-- **A failed line loses nothing.** Where the answer to the input line reports a failure, the front
end only shows its wording. The input line with its cursor and scroll, the list with its selection
and scroll, the help page, the wish to quit, the history and the settings, all files, the last
result and the memory are as they were: only the expression on the calculator, whether a result is
displayed there, and the log may differ. -/
theorem submit_eq_flash_of_failure {console : Console} {now : Moment} {message : Text}
    (failed : (console.session.submit now (Text.trim console.editor.text)).2.failure? =
      some message) (elapsed : Nat) :
    ∃ expression shown records,
      console.submit now elapsed =
        { console with
          session := console.session.attempted expression shown records
          flash := some ⟨message, true, now⟩ } := by
  obtain ⟨expression, shown, records, same⟩ := Session.submit_of_failure failed
  refine ⟨expression, shown, records, ?_⟩
  rw [submit]
  split
  · rename_i blank
    rw [blank] at failed
    cases failed
  · cases answered : console.session.submit now (Text.trim console.editor.text) with
    | mk session reply =>
        rw [answered] at same failed
        dsimp only at same failed ⊢
        rw [same, showReply_of_failure failed]
        rfl

/-- An unfinished expression in the middle of being corrected, over a history of one item. -/
def unfinished : Console :=
  { ofSession
      ((Session.inMemory {} Settings.standard).submit ⟨1710936000, 0⟩ "1+1".toList).1 with
    editor := { before := "+5(".toList, after := "3".toList, scroll := 1 } }

theorem submit_unfinished :
    (unfinished.session.submit ⟨1710936005, 0⟩ (Text.trim unfinished.editor.text)).2.failure? =
        some "Mismatched parentheses".toList ∧
      ∃ expression shown records,
        unfinished.submit ⟨1710936005, 0⟩ 1000 =
          { unfinished with
            session := unfinished.session.attempted expression shown records
            flash := some ⟨"Mismatched parentheses".toList, true, ⟨1710936005, 0⟩⟩ } := by
  have failed :
      (unfinished.session.submit ⟨1710936005, 0⟩ (Text.trim unfinished.editor.text)).2.failure? =
        some "Mismatched parentheses".toList := by
    decide +kernel
  exact ⟨failed, submit_eq_flash_of_failure failed 1000⟩

end Console

end Reckoner
