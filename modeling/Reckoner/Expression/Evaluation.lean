import Reckoner.Expression.Token

/-!
Evaluation of postfix tokens on a stack of values. A number is pushed; an operator or a function
takes its operands from the stack, the right one first, and pushes its result. Every number and
every result has to be finite, and a divisor must not be zero. The applications made before the
first failure are recorded as steps.
-/

namespace Reckoner

/-- An operator or a function with its operands. -/
inductive Application where
  | binary (op : BinaryOperator) (left right : Float)
  | negation (operand : Float)
  | call (f : Function) (argument : Float)
  deriving DecidableEq

/-- An application and the value it had. -/
structure Step where
  application : Application
  result : Float
  deriving DecidableEq

/-- An application as it is shown in a trace. -/
def Application.text : Application → Text
  | .binary op left right => plainText left ++ [' ', op.symbol, ' '] ++ plainText right
  | .negation operand => "-(".toList ++ plainText operand ++ [')']
  | .call f argument => f.name ++ ['('] ++ plainText argument ++ [')']

namespace Application

/-- The application that a token makes of the values on the stack, and the values below them. A
token that makes none, or that lacks operands, gives nothing. -/
def ofToken? : Token → List Float → Option (Application × List Float)
  | .operator .neg, operand :: below => some (.negation operand, below)
  | .operator (.binary op), right :: left :: below => some (.binary op left right, below)
  | .function f, argument :: below => some (.call f argument, below)
  | _, _ => none

/-- The value of an application before it is checked. -/
def value : Application → Float
  | .binary .add left right => left + right
  | .binary .sub left right => left - right
  | .binary .mul left right => left * right
  | .binary .div left right => left / right
  | .binary .pow left right => left.pow right
  | .negation operand => -operand
  | .call f argument => f.apply argument

/-- Whether an application divides by a zero of either sign. -/
def dividesByZero : Application → Bool
  | .binary .div _ right => right == 0
  | _ => false

/-- The value of an application. -/
def perform (application : Application) : Except EvaluationError Float :=
  if application.dividesByZero then .error .divisionByZero
  else if application.value.isFinite then .ok application.value
  else .error .notFinite

end Application

namespace Postfix

/-- The outcome of an evaluation: the steps it made, and its value or its error. -/
abbrev Outcome := List Step × Except ExpressionError Float

/-- The outcome for the unread tokens, given the values on the stack. -/
def evaluateOn : List Float → List Token → Outcome
  | [value], [] => ([], if value.isFinite then .ok value else .error (.failed .notFinite))
  | _, [] => ([], .error (.malformed .notOneValue))
  | stack, .number value :: rest =>
    if value.isFinite then evaluateOn (value :: stack) rest else ([], .error (.failed .notFinite))
  | _, .opening :: _ => ([], .error (.malformed .mismatchedParentheses))
  | _, .closing :: _ => ([], .error (.malformed .mismatchedParentheses))
  | stack, token :: rest =>
    match Application.ofToken? token stack with
    | none => ([], .error (.failed .missingOperand))
    | some (application, below) =>
      match application.perform with
      | .error cause => ([], .error (.failed cause))
      | .ok value =>
        let (later, result) := evaluateOn (value :: below) rest
        (⟨application, value⟩ :: later, result)

/-- The outcome of postfix tokens. In quiet mode no step is recorded. -/
def evaluate (detailed : Bool) (tokens : List Token) : Outcome :=
  let (steps, result) := evaluateOn [] tokens
  (if detailed then steps else [], result)

end Postfix

end Reckoner
