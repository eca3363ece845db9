import Reckoner.Proofs.Decimal.Length
import Reckoner.Proofs.Keypad.Points
import Reckoner.Proofs.Prompt.Replay

/-!
# Displayed results

While a result is displayed it also is the expression, in plain notation, whatever was entered
before (`Calculator.Displays`). Plain notation is an expression for the result: a literal, or the
negation of one (`Expression.run_plainText`). So calculating once more changes nothing, as far as
plain notation reads back and a settled value is settled.
-/

namespace Reckoner

/-- The double that plain notation stands for: that of a literal, perhaps after a minus sign. -/
def ofPlainText? : Text → Option Float
  | '-' :: body => if Lexeme.isLiteral body then some (-Lexeme.literalValue body) else none
  | body => if Lexeme.isLiteral body then some (Lexeme.literalValue body) else none

example : ofPlainText? "-12.5".toList = some (-12.5) := by decide +kernel

/-! ## Plain notation as an expression -/

namespace Lexeme.Literal

variable {body : Text} {value : Float} (literal : Literal body value)

include literal

theorem isLiteral : isLiteral body = true :=
  (isLiteral_iff literal.isNumber.2).mpr literal.isNumber.1

/-- A literal has no sign. -/
theorem ofPlainText? : ofPlainText? body = some value := by
  rw [Reckoner.ofPlainText?.eq_def]
  split
  · rename_i rest
    have sign := literal.isNumber.2 '-' List.mem_cons_self
    cases sign
  · rw [if_pos literal.isLiteral, literal.eq_literalValue]

theorem ofPlainText?_minus : Reckoner.ofPlainText? ('-' :: body) = some (-value) := by
  rw [Reckoner.ofPlainText?, if_pos literal.isLiteral, literal.eq_literalValue]

theorem spells : Spells body [.number value] := by
  have alone : Spells (body ++ []) [.number value] := .number literal (by simp) .nil
  rwa [List.append_nil] at alone

theorem spells_minus : Spells ('-' :: body) [.operator (.binary .sub), .number value] :=
  .operator .sub literal.spells

end Lexeme.Literal

namespace Expression

/-- A number by itself is its own value. -/
theorem evaluate_number {value : Float} (finite : value.isFinite = true) (detailed : Bool) :
    Postfix.evaluate detailed [.number value] = ([], .ok value) := by
  simp [Postfix.evaluate, Postfix.evaluateOn, finite]

/-- A number with a minus sign in front of it is a negation. -/
theorem evaluate_negation {value : Float} (finite : (-value).isFinite = true) (detailed : Bool) :
    ∃ steps, Postfix.evaluate detailed [.number value, .operator .neg] = (steps, .ok (-value)) := by
  have operand := isFinite_of_neg finite
  have performed : (Application.negation value).perform = .ok (-value) := by
    simp [Application.perform, Application.dividesByZero, Application.value, finite]
  refine ⟨if detailed then [⟨.negation value, -value⟩] else [], ?_⟩
  simp [Postfix.evaluate, Postfix.evaluateOn, Application.ofToken?, operand, performed, finite]

/-- **Plain notation is an expression for the double that it reads back as.** -/
theorem run_plainText {x : Float} (finite : x.isFinite = true)
    (reads : ofPlainText? (plainText x) = some x) (detailed : Bool) :
    ∃ steps, run detailed (plainText x) = (steps, .ok x) := by
  have fits : ¬Token.maxLength < (plainText x).length := by
    have short := length_plainText_le finite
    have limit : Token.maxLength = 1024 := rfl
    omega
  obtain ⟨magnitude, kind⟩ := Magnitude.ofFloat_of_isFinite finite
  obtain ⟨body, decimal, shown⟩ := plainText_of_finite kind
  obtain ⟨value, literal⟩ := decimal.exists_literal
  -- What follows the minus sign of a negative result is read as the operand of a negation.
  obtain ⟨sign, marked, rfl | rfl⟩ := exists_signed x body
  · rw [marked, List.nil_append] at shown
    rw [shown] at reads fits
    rw [literal.ofPlainText?] at reads
    cases reads
    have tokens : Token.ofText body = .ok [.number x] := by
      rw [Token.ofText, if_neg fits]
      exact Lexeme.scan_of_spells literal.spells
    rw [shown, run, tokens]
    exact ⟨[], evaluate_number finite detailed⟩
  · rw [marked, List.singleton_append] at shown
    rw [shown] at reads fits
    rw [literal.ofPlainText?_minus] at reads
    cases reads
    have tokens : Token.ofText ('-' :: body) =
        .ok [.operator (.binary .sub), .number value] := by
      rw [Token.ofText, if_neg fits]
      exact Lexeme.scan_of_spells literal.spells_minus
    rw [shown, run, tokens]
    exact evaluate_negation finite detailed

end Expression

namespace Calculator

/-! ## While a result is displayed -/

/-- While a result is displayed, it is a settled value, and the expression is its plain notation. -/
structure Displays (calculator : Calculator) : Prop where
  expression : calculator.expression = plainText calculator.lastResult
  settled : ∃ value, calculator.lastResult = Answer.settle value

variable (calculator : Calculator)

theorem showsResult_startAfresh : calculator.startAfresh.showsResult = false := by
  rw [startAfresh]
  split
  · rfl
  · rename_i hidden
    exact Bool.eq_false_iff.mpr hidden

theorem showsResult_continueFromResult : calculator.continueFromResult.showsResult = false := by
  rw [continueFromResult]
  split
  · rfl
  · rename_i hidden
    exact Bool.eq_false_iff.mpr hidden

theorem showsResult_enterNumber (text : Text) :
    (calculator.enterNumber text).showsResult = false := by
  rw [enterNumber]
  split
  · exact calculator.showsResult_startAfresh
  · exact calculator.showsResult_startAfresh

theorem showsResult_enterOperator (symbol : Char) :
    (calculator.enterOperator symbol).showsResult = false := by
  have hidden := calculator.showsResult_continueFromResult
  rw [enterOperator]
  split
  · split
    · exact hidden
    · exact hidden
  · split
    · exact hidden
    · exact hidden

theorem showsResult_enterText (text : Text) : (calculator.enterText text).showsResult = false := by
  rw [enterText]
  split
  · exact calculator.showsResult_continueFromResult
  · exact calculator.showsResult_startAfresh

theorem showsResult_percent : calculator.percent.showsResult = false := by
  rw [percent]
  split
  · exact calculator.showsResult_continueFromResult
  · exact calculator.showsResult_continueFromResult

/-- **What a key does to the display**: it shows no result, or it leaves the expression and the
result alone, or it shows a value that was just settled. -/
theorem press_display (key : Key) :
    (calculator.press key).showsResult = false ∨
      ((calculator.press key).showsResult = calculator.showsResult ∧
        (calculator.press key).expression = calculator.expression ∧
        (calculator.press key).lastResult = calculator.lastResult) ∨
      (calculator.press key).Displays := by
  cases key with
  | number text => exact .inl (calculator.showsResult_enterNumber text)
  | operator symbol => exact .inl (calculator.showsResult_enterOperator symbol)
  | function f => exact .inl calculator.showsResult_startAfresh
  | text text => exact .inl (calculator.showsResult_enterText text)
  | expression text => exact .inl rfl
  | percent => exact .inl calculator.showsResult_percent
  | backspace =>
      cases shows : calculator.showsResult with
      | false => exact .inl (by simp [press, backspace, shows])
      | true => exact .inr (.inl (by simp [press, backspace, shows]))
  | clear => exact .inl rfl
  | memoryClear => exact .inr (.inl ⟨rfl, rfl, rfl⟩)
  | memoryAdd => exact .inr (.inl ⟨rfl, rfl, rfl⟩)
  | memoryRecall => exact .inl calculator.showsResult_startAfresh
  | equals detailed =>
      right
      rcases calculator.calculate_cases detailed with nothing | ⟨cause, -, failure⟩ |
        ⟨steps, value, -, success⟩
      · exact .inl (by simp [press, nothing])
      · exact .inl (by simp [press, failure])
      · refine .inr ⟨?_, value, ?_⟩
        · simp [press, success]
        · simp [press, success]

variable {calculator}

theorem displays_press (kept : calculator.showsResult = true → calculator.Displays) (key : Key)
    (shows : (calculator.press key).showsResult = true) : (calculator.press key).Displays := by
  rcases calculator.press_display key with hidden | ⟨flag, expression, lastResult⟩ | displays
  · rw [hidden] at shows
    cases shows
  · rw [flag] at shows
    obtain ⟨written, settled⟩ := kept shows
    exact ⟨by rw [expression, lastResult, written], by rwa [lastResult]⟩
  · exact displays

/-- **A displayed result is the expression**, after any row of keys. -/
theorem displays_pressAll (kept : calculator.showsResult = true → calculator.Displays)
    (keys : List Key) (shows : (calculator.pressAll keys).showsResult = true) :
    (calculator.pressAll keys).Displays := by
  induction keys generalizing calculator with
  | nil => exact kept shows
  | cons key rest ih => exact ih (displays_press kept key) shows

/-! ## Calculating once more -/

/-- Where the expression is the last result, calculating it changes nothing. -/
theorem calculate_of_displays (displays : calculator.Displays)
    (shows : calculator.showsResult = true) (finite : calculator.lastResult.isFinite = true)
    (reads : ofPlainText? (plainText calculator.lastResult) = some calculator.lastResult)
    (settled : Answer.settle calculator.lastResult = calculator.lastResult) (detailed : Bool) :
    ∃ steps, calculator.calculate detailed =
      (calculator, .ok (some ⟨calculator.expression, calculator.lastResult, steps⟩)) := by
  obtain ⟨steps, outcome⟩ := Expression.run_plainText finite reads detailed
  have plain : Glyph.spellAll calculator.expression = plainText calculator.lastResult := by
    rw [displays.expression]
    exact (Legible.shown _).spellAll_eq
  rw [← plain] at outcome
  have valued : Expression.value (Glyph.spellAll calculator.expression) =
      .ok calculator.lastResult := by
    rw [← Expression.run_value detailed, outcome]
  have visible := Expression.not_isAllBlank_of_value valued
  refine ⟨steps, ?_⟩
  rw [calculate, visible, outcome]
  simp only [Bool.false_eq_true, if_false, settled]
  rw [← displays.expression, ← shows]

/-- **Displayed results.** Whatever keys are pressed on a new calculator, while a result is
displayed the expression is the result in plain notation. If the result is finite, calculating once
more succeeds with the same expression and result and leaves the calculator as it is, as far as
plain notation reads back and settling keeps what it has settled. -/
theorem calculate_displayed_of_pressAll {keys : List Key}
    (shows : (fresh.pressAll keys).showsResult = true) :
    (fresh.pressAll keys).expression = plainText (fresh.pressAll keys).lastResult ∧
      ((fresh.pressAll keys).lastResult.isFinite = true →
        ofPlainText? (plainText (fresh.pressAll keys).lastResult) =
          some (fresh.pressAll keys).lastResult →
        (∀ value, (fresh.pressAll keys).lastResult = Answer.settle value →
          Answer.settle (fresh.pressAll keys).lastResult = (fresh.pressAll keys).lastResult) →
        ∀ detailed, ∃ steps, (fresh.pressAll keys).calculate detailed =
          (fresh.pressAll keys,
            .ok (some ⟨(fresh.pressAll keys).expression, (fresh.pressAll keys).lastResult,
              steps⟩))) := by
  have displays : (fresh.pressAll keys).Displays :=
    displays_pressAll (fun shown => absurd shown (by decide)) keys shows
  refine ⟨displays.expression, fun finite reads keeps detailed => ?_⟩
  obtain ⟨value, settled⟩ := displays.settled
  exact calculate_of_displays displays shows finite reads (keeps value settled) detailed

/-- A negative result of free text, kept through the memory keys. -/
def negativeKeys : List Key :=
  [.text "0.1-0.4".toList, .equals true, .memoryAdd, .backspace]

theorem calculate_displayed_of_pressAll_negative :
    (fresh.pressAll negativeKeys).showsResult = true ∧
      (fresh.pressAll negativeKeys).lastResult.isFinite = true ∧
      (fresh.pressAll negativeKeys).expression = "-0.3".toList ∧
      ∃ steps, (fresh.pressAll negativeKeys).calculate true =
        (fresh.pressAll negativeKeys,
          .ok (some ⟨(fresh.pressAll negativeKeys).expression, -0.3, steps⟩)) := by
  have shows : (fresh.pressAll negativeKeys).showsResult = true := by decide +kernel
  have result : (fresh.pressAll negativeKeys).lastResult = -0.3 := by decide +kernel
  obtain ⟨expression, again⟩ := calculate_displayed_of_pressAll shows
  have finite : (fresh.pressAll negativeKeys).lastResult.isFinite = true := by
    rw [result]
    decide
  refine ⟨shows, finite, ?_, ?_⟩
  · rw [expression, result]
    decide +kernel
  · rw [← result]
    refine again finite ?_ (fun _ _ => ?_) true
    · rw [result]
      decide +kernel
    · rw [result]
      decide +kernel

end Calculator

end Reckoner
