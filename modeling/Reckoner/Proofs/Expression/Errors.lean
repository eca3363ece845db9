import Reckoner.Expression.Value
import Reckoner.Proofs.Expression.Brackets
import Reckoner.Proofs.Expression.Evaluation

/-!
# Where an error comes from

What is wrong with the characters of a text is found while it is cut into tokens, and never later
(`Expression.ofText_of_run`): the conversion only looks for parentheses, and the evaluation for
operands and values.
-/

namespace Reckoner

/-- The error is about the characters of a text, not about the order of its tokens. -/
def SyntaxError.isLexical : SyntaxError → Bool
  | .unexpectedCharacter _ | .unknownFunction _ | .malformedNumber _ | .tooLong _ _ => true
  | .mismatchedParentheses | .missingArguments _ | .notOneValue => false

theorem Brackets.isLexical_of_fault? {depth : Nat} {tokens : List Token} {cause : SyntaxError}
    (found : fault? depth tokens = some cause) : cause.isLexical = false := by
  fun_induction fault? depth tokens
  case case1 => cases found
  case case2 | case4 | case6 =>
    cases found
    rfl
  case case3 ih | case5 ih | case7 ih | case8 ih | case9 ih => exact ih found

theorem Postfix.isLexical_of_ofInfix {tokens : List Token} {cause : SyntaxError}
    (failed : ofInfix tokens = .error cause) : cause.isLexical = false := by
  have first := cause?_shunt [] true tokens
  rw [← ofInfix, failed] at first
  exact Brackets.isLexical_of_fault? first.symm

theorem Postfix.isLexical_of_evaluate {detailed : Bool} {tokens : List Token}
    {cause : SyntaxError} (failed : (evaluate detailed tokens).2 = .error (.malformed cause)) :
    cause.isLexical = false := by
  rcases result_eq_error_iff.mp failed with ⟨_, token, _, stack, -, -, fails⟩ | ⟨same, -⟩
  · cases fails with
    | opening => rfl
    | closing => rfl
  · cases same
    rfl

/-- **An error about characters is one of cutting the text into tokens.** -/
theorem Expression.ofText_of_run {detailed : Bool} {text : Text} {cause : SyntaxError}
    (failed : (run detailed text).2 = .error (.malformed cause))
    (lexical : cause.isLexical = true) : Token.ofText text = .error cause := by
  rw [run] at failed
  cases read : Token.ofText text with
  | error first =>
      rw [read] at failed
      cases failed
      rfl
  | ok tokens =>
      rw [read] at failed
      dsimp only at failed
      cases converted : Postfix.ofInfix tokens with
      | error later =>
          rw [converted] at failed
          cases failed
          rw [Postfix.isLexical_of_ofInfix converted] at lexical
          cases lexical
      | ok ordered =>
          rw [converted] at failed
          rw [Postfix.isLexical_of_evaluate failed] at lexical
          cases lexical

end Reckoner
