import Reckoner.Expression.Function

/-!
What can be wrong with an expression. An error says its cause; `message` puts it into words.
-/

namespace Reckoner

/-- The text, or the tokens it is made of, cannot be an expression. -/
inductive SyntaxError where
  /-- A character that starts no token. -/
  | unexpectedCharacter (c : Char)
  /-- A word that names no function. -/
  | unknownFunction (name : Text)
  /-- Digits and points that spell no number. -/
  | malformedNumber (literal : Text)
  | mismatchedParentheses
  /-- A function whose name no parenthesis follows. -/
  | missingArguments (f : Function)
  /-- Not exactly one value was left at the end. -/
  | notOneValue
  | tooLong (length limit : Nat)
  deriving DecidableEq, Repr

/-- The expression cannot be computed. -/
inductive EvaluationError where
  /-- An operator or a function found too few operands. -/
  | missingOperand
  | divisionByZero
  | notFinite
  deriving DecidableEq, Repr

/-- Why an expression has no value. -/
inductive ExpressionError where
  | malformed (cause : SyntaxError)
  | failed (cause : EvaluationError)
  deriving DecidableEq, Repr

/-- The wording of an error in the form of an expression. -/
def SyntaxError.message : SyntaxError → Text
  | .unexpectedCharacter c => "Unexpected character: ".toList ++ [c]
  | .unknownFunction name => "Unknown function: ".toList ++ name
  | .malformedNumber literal => "Malformed number: ".toList ++ literal
  | .mismatchedParentheses => "Mismatched parentheses".toList
  | .missingArguments f => "Function ".toList ++ f.name ++ " must be followed by '('".toList
  | .notOneValue => "Invalid expression".toList
  | .tooLong length limit =>
    "Expression too long: ".toList ++ Text.ofNat length ++ " characters (max ".toList
      ++ Text.ofNat limit ++ ")".toList

/-- The wording of a failed computation. -/
def EvaluationError.message : EvaluationError → Text
  | .missingOperand => "Invalid expression".toList
  | .divisionByZero => "Division by zero".toList
  | .notFinite => "Result is not finite".toList

/-- The wording of an error. -/
def ExpressionError.message : ExpressionError → Text
  | .malformed cause => cause.message
  | .failed cause => cause.message

end Reckoner
