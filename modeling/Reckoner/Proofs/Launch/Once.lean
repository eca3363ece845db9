import Reckoner.Launch
import Reckoner.Proofs.Prompt.Registers

/-!
# One expression on the command line

A run that is given an expression answers as a session does, in whatever state the session is: the
run prints the value that the session gives, or fails with the error that the session names
(`Launch.run_agrees`). The session asks first whether there is anything but white space, so that
the two differ where there is nothing else and too much of it (`Launch.messages_of_blank`).
-/

namespace Reckoner

/-! ## What a session answers -/

namespace Session

variable (session : Session) (now : Moment) {expression : Text} (detailed : Bool)

/-- An expression has the settled value of its text, or the error of it. -/
theorem evaluate_result (visible : Text.isAllBlank expression = false) :
    (session.evaluate now expression detailed).2.result =
      match Expression.value (Glyph.spellAll expression) with
      | .ok value => .ok (Answer.settle value)
      | .error cause => .error cause.message := by
  rw [← Expression.run_value detailed, evaluate, Calculator.calculate]
  simp only [Calculator.setExpression, visible, Bool.false_eq_true, if_false]
  cases Expression.run detailed (Glyph.spellAll expression) with
  | mk steps result =>
      cases result with
      | ok value => rfl
      | error cause => rfl

theorem evaluate_of_blank (blank : Text.isAllBlank expression = true) :
    (session.evaluate now expression detailed).2.result =
      .error SyntaxError.notOneValue.message := by
  rw [evaluate, Calculator.calculate]
  simp only [Calculator.setExpression, blank, if_true]

end Session

namespace Launch

/-! ## What a run says -/

/-- A launch with an expression on its command line. -/
structure Evaluates (launch : Launch) (arguments : Arguments) (expression : Text) : Prop where
  read : Arguments.read launch.arguments = .ok arguments
  given : arguments.expression = some expression

/-- What a run logs of its expression. -/
def logged (launch : Launch) (arguments : Arguments) (expression : Text) : Text :=
  Log.text ⟨.messages, arguments.verbosity⟩ launch.now
    (Expression.records (Glyph.spellAll expression))

/-- Nothing is logged unless it is asked for. -/
theorem logged_of_quiet (launch : Launch) {arguments : Arguments}
    (quiet : arguments.verbosity = 0) (expression : Text) :
    launch.logged arguments expression = [] := by
  have low : ∀ record ∈ Expression.records (Glyph.spellAll expression),
      record.level.isKept 0 = false := by
    intro record member
    rw [Expression.records] at member
    split at member
    · cases member
    · dsimp only at member
      split at member
      · obtain rfl := List.mem_singleton.mp member
        rfl
      · simp only [List.mem_cons, List.not_mem_nil, or_false] at member
        rcases member with rfl | rfl | rfl
        · rfl
        · rfl
        · rfl
  rw [logged, Log.text, quiet, List.filter_eq_nil_iff.mpr (by simpa using low)]
  rfl

variable {launch : Launch} {arguments : Arguments} {expression : Text}

/-- A value is printed and an error is the message, behind what is logged. -/
theorem Evaluates.run_eq (evaluates : launch.Evaluates arguments expression) :
    launch.run =
      match Expression.value (Glyph.spellAll expression) with
      | .ok value =>
        { code := 0, output := Answer.text (Answer.settle value) ++ ['\n'],
          messages := launch.logged arguments expression, disk := launch.disk }
      | .error cause =>
        { code := failureCode,
          messages := launch.logged arguments expression ++ errorLine cause.message,
          disk := launch.disk } := by
  rw [run, evaluates.read]
  dsimp only
  rw [evaluates.given]
  dsimp only
  rw [evaluateOnce, Answer.ofExpression]
  cases Expression.value (Glyph.spellAll expression) with
  | ok value => rfl
  | error cause => rfl

/-! ## The two side by side -/

/-- **A run and a session agree.** Whatever state a session is in, and in steps or not, a run with
the same expression prints the value that the session gives and ends well, and that value is the
session's last result from then on; or else the run fails and says the error that the session
says. -/
theorem run_agrees (evaluates : launch.Evaluates arguments expression)
    (visible : Text.isAllBlank expression = false) (session : Session) (now : Moment)
    (detailed : Bool) :
    (∀ shown, (launch.run.code = 0 ∧ launch.run.output = Answer.text shown ++ ['\n']) ↔
      ∃ value, (session.evaluate now expression detailed).2.result = .ok value ∧
        Answer.text value = Answer.text shown) ∧
    (∀ value, (session.evaluate now expression detailed).2.result = .ok value →
      launch.run.code = 0 ∧ launch.run.output = Answer.text value ++ ['\n'] ∧
        launch.run.messages = launch.logged arguments expression ∧
        (session.evaluate now expression detailed).1.calculator.lastResult = value) ∧
    ∀ message, (session.evaluate now expression detailed).2.result = .error message →
      launch.run.code = 1 ∧ launch.run.output = [] ∧
        launch.run.messages =
          launch.logged arguments expression ++ "Error: ".toList ++ message ++ ['\n'] := by
  have answer := session.evaluate_result now detailed visible
  have last := (session.evaluate_registers now expression detailed).2
  rw [evaluates.run_eq]
  cases outcome : Expression.value (Glyph.spellAll expression) with
  | ok value =>
      rw [outcome] at answer
      rw [answer] at last ⊢
      refine ⟨fun shown => ?_, fun given same => ?_, fun message same => ?_⟩
      · simp
      · cases same
        exact ⟨rfl, rfl, rfl, last⟩
      · cases same
  | error cause =>
      rw [outcome] at answer
      rw [answer]
      refine ⟨fun shown => ?_, fun given same => ?_, fun message same => ?_⟩
      · simp [failureCode]
      · exact nomatch same
      · obtain rfl : cause.message = message := Except.error.inj same
        refine ⟨rfl, rfl, ?_⟩
        dsimp only [errorLine]
        rw [List.append_assoc, List.append_assoc, List.append_assoc]

/-- A launch with nothing on its command line but an expression. -/
def once (expression : Text) : Launch where
  arguments := ["--".toList, expression]
  disk := {}
  now := ⟨1710936000, 0⟩

/-- Behind two hyphens every text is an expression. -/
theorem evaluates_once (expression : Text) :
    (once expression).Evaluates { expression := some expression } expression := ⟨rfl, rfl⟩

/-- A product in steps with a result displayed, and a division by zero. -/
theorem run_agrees_once :
    (once "2×3".toList).run.output = "6\n".toList ∧
      ((Session.inMemory {} Settings.standard).evaluate ⟨0, 0⟩ "2×3".toList
        true).1.calculator.lastResult = 6.0 ∧
      (once "-1/0".toList).run.code = 1 ∧
      (once "-1/0".toList).run.messages = "Error: Division by zero\n".toList := by
  obtain ⟨-, printed, -⟩ := run_agrees (evaluates_once "2×3".toList) rfl
    (Session.inMemory {} Settings.standard) ⟨0, 0⟩ true
  obtain ⟨-, -, failed⟩ := run_agrees (evaluates_once "-1/0".toList) rfl
    (Session.inMemory {} Settings.standard) ⟨0, 0⟩ false
  obtain ⟨-, output, -, last⟩ := printed 6.0 (by decide +kernel)
  obtain ⟨code, -, messages⟩ := failed "Division by zero".toList (by decide +kernel)
  refine ⟨?_, last, code, ?_⟩
  · rw [output]
    decide +kernel
  · rw [messages, logged_of_quiet _ rfl]
    rfl

/-- **Where there is nothing but white space**, the session names no other error, but a run finds a
long text too long. -/
theorem messages_of_blank (evaluates : launch.Evaluates arguments expression)
    (blank : Text.isAllBlank expression = true) (session : Session) (now : Moment)
    (detailed : Bool) :
    (session.evaluate now expression detailed).2.result =
        .error SyntaxError.notOneValue.message ∧
      launch.run.messages = launch.logged arguments expression ++
        errorLine (if expression.length ≤ Token.maxLength then SyntaxError.notOneValue.message
          else (SyntaxError.tooLong expression.length Token.maxLength).message) := by
  refine ⟨session.evaluate_of_blank now detailed blank, ?_⟩
  have blanks := List.all_eq_true.mp blank
  have kept : Glyph.spellAll expression = expression :=
    Glyph.spellAll_of_plain fun c member => Glyph.not_isGlyph_of_isBlank (blanks c member)
  have read : Lexeme.scan expression = .ok [] :=
    Lexeme.scan_of_spells (Lexeme.spells_of_blanks blanks)
  rw [evaluates.run_eq, kept, Expression.value, Expression.run, Token.ofText]
  by_cases short : expression.length ≤ Token.maxLength
  · replace read : Token.ofLexemes (Lexeme.all expression) = .ok [] := read
    rw [if_pos short, if_neg (Nat.not_lt.mpr short), read]
    rfl
  · rw [if_neg short, if_pos (Nat.not_le.mp short)]
    rfl

end Launch

end Reckoner
