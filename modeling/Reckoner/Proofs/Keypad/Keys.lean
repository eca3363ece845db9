import Mathlib.Data.List.Infix
import Reckoner.Calculator
import Reckoner.Proofs.Decimal.Notation
import Reckoner.Proofs.Expression.Runs

/-!
# The keypad

What the keypad enters grows at its end, is erased from its end, or gives way to a displayed result.
A property of texts that holds of every result, and of the front of every text of which it holds,
can only be lost when something is added (`Lasting`).
-/

namespace Reckoner

theorem Text.dropLastCluster_prefix (text : Text) : Text.dropLastCluster text <+: text := by
  have shorter := List.IsPrefix.flatten (List.dropLast_prefix (Text.clusters text))
  rw [Text.flatten_clusters] at shorter
  exact shorter

/-- A character of a number or a word. -/
def Lexeme.isPlain (c : Char) : Bool := isNumeric c || Text.isPlainLetter c

theorem Lexeme.isPlain_of_isNumeric {c : Char} (numeric : isNumeric c = true) :
    isPlain c = true := by
  rw [isPlain, numeric, Bool.true_or]

theorem Lexeme.isPlain_of_isPlainLetter {c : Char} (letter : Text.isPlainLetter c = true) :
    isPlain c = true := by
  rw [isPlain, letter, Bool.or_true]

/-- A decimal is written in one of the ways to write a number. -/
theorem Text.IsDecimal.exists_literal {body : Text} (decimal : IsDecimal body) :
    ∃ value, Lexeme.Literal body value := by
  cases decimal with
  | whole digits => exact ⟨_, .whole digits.proper digits.all⟩
  | @pointed digits decimals whole part =>
      have both := Text.isDigits_append (List.append_ne_nil_of_left_ne_nil whole.proper decimals)
        whole.all part.all
      exact ⟨_, .pointed both.proper both.all⟩

namespace BinaryOperator

theorem isSymbol_iff {c : Char} : isSymbol c = true ↔ ∃ op : BinaryOperator, op.symbol = c := by
  rw [isSymbol, Option.isSome_iff_exists]
  constructor
  · rintro ⟨op, found⟩
    exact ⟨op, symbol_of_ofSymbol? found⟩
  · rintro ⟨op, rfl⟩
    exact ⟨op, ofSymbol?_symbol op⟩

theorem isSymbol_symbol (op : BinaryOperator) : isSymbol op.symbol = true :=
  isSymbol_iff.mpr ⟨op, rfl⟩

/-- What stands in numbers and words is no operator. -/
theorem isSymbol_of_isPlain {c : Char} (plain : Lexeme.isPlain c = true) : isSymbol c = false := by
  rw [Bool.eq_false_iff, ne_eq, isSymbol_iff]
  rintro ⟨op, rfl⟩
  cases op <;> cases plain

end BinaryOperator

namespace Calculator

/-- The keys of the keypad. It has no free text and no memory. -/
inductive Key.IsKeypad : Key → Prop where
  /-- One digit, or the point. -/
  | number {c : Char} (numeric : Lexeme.isNumeric c = true) : IsKeypad (.number [c])
  | operator (op : BinaryOperator) : IsKeypad (.operator op.symbol)
  | function (f : Function) : IsKeypad (.function f)
  | percent : IsKeypad .percent
  | backspace : IsKeypad .backspace
  | clear : IsKeypad .clear
  | equals (detailed : Bool) : IsKeypad (.equals detailed)

/-! ## Displayed results -/

/-- A displayed result without its sign: digits with at most one point, or a word. -/
structure IsShown (body : Text) : Prop where
  proper : body ≠ []
  plain : ∀ c ∈ body, Lexeme.isPlain c = true
  points : body.count '.' ≤ 1

theorem isShown_of_isDecimal {body : Text} (decimal : Text.IsDecimal body) : IsShown body := by
  obtain ⟨value, literal⟩ := decimal.exists_literal
  obtain ⟨⟨⟨c, member, -⟩, few⟩, numeric⟩ := literal.isNumber
  refine ⟨List.ne_nil_of_mem member, fun d among => ?_, few⟩
  exact Lexeme.isPlain_of_isNumeric (numeric d among)

/-- **A result is displayed without anything that could pass for an operator but a minus sign**, and
with at most one point. -/
theorem exists_shown (x : Float) :
    ∃ sign body, plainText x = sign ++ body ∧ (sign = [] ∨ sign = ['-']) ∧ IsShown body := by
  obtain ⟨sign, body, shown, marked, decimal | rfl | rfl⟩ := exists_plainText x
  · exact ⟨sign, body, shown, marked, isShown_of_isDecimal decimal⟩
  · exact ⟨sign, _, shown, marked, by decide, List.all_eq_true.mp rfl, by decide⟩
  · exact ⟨sign, _, shown, marked, by decide, List.all_eq_true.mp rfl, by decide⟩

/-! ## Properties that last -/

/-- A property that every displayed result has and that is not lost at the end of a text. -/
structure Lasting (holds : Text → Prop) : Prop where
  front {front text : Text} (begins : front <+: text) (kept : holds text) : holds front
  shown (x : Float) : holds (plainText x)

namespace Lasting

variable {holds : Text → Prop} (lasting : Lasting holds) {calculator : Calculator}
  (kept : holds calculator.expression)

include lasting kept

theorem nil : holds [] := lasting.front List.nil_prefix kept

theorem startAfresh : holds calculator.startAfresh.expression := by
  rw [Calculator.startAfresh]
  split
  · exact lasting.nil kept
  · exact kept

theorem continueFromResult : holds calculator.continueFromResult.expression := by
  rw [Calculator.continueFromResult]
  split
  · exact lasting.shown _
  · exact kept

theorem backspace : holds calculator.backspace.expression := by
  rw [Calculator.backspace]
  split
  · exact kept
  · exact lasting.front (Text.dropLastCluster_prefix _) kept

theorem calculate (detailed : Bool) : holds (calculator.calculate detailed).1.expression := by
  rcases calculator.calculate_cases detailed with nothing | ⟨cause, -, failure⟩ |
    ⟨steps, value, -, success⟩
  · rw [nothing]
    exact kept
  · rw [failure]
    exact kept
  · rw [success]
    exact lasting.shown _

end Lasting

end Calculator

end Reckoner
