import Reckoner.Expression.Evaluation

/-!
Expression trees. The postfix order of a tree lists the tokens of the operands before the token of
the operation, and its value is computed operand by operand, left before right, up to the first
failure. Evaluating the postfix order of a tree on a stack is pushing the value of the tree.
-/

namespace Reckoner

/-- An expression as a tree of operations. -/
inductive Tree where
  | number (value : Float)
  | binary (op : BinaryOperator) (left right : Tree)
  | negation (operand : Tree)
  | call (f : Function) (argument : Tree)
  deriving DecidableEq

namespace Tree

/-- The tokens of a tree in postfix order. -/
def postorder : Tree → List Token
  | .number value => [.number value]
  | .binary op left right => left.postorder ++ right.postorder ++ [.operator (.binary op)]
  | .negation operand => operand.postorder ++ [.operator .neg]
  | .call f argument => argument.postorder ++ [.function f]

/-- The value of a tree. -/
def value : Tree → Except EvaluationError Float
  | .number value => if value.isFinite then .ok value else .error .notFinite
  | .binary op left right =>
    match left.value, right.value with
    | .error cause, _ => .error cause
    | .ok _, .error cause => .error cause
    | .ok left, .ok right => (Application.binary op left right).perform
  | .negation operand =>
    match operand.value with
    | .error cause => .error cause
    | .ok operand => (Application.negation operand).perform
  | .call f argument =>
    match argument.value with
    | .error cause => .error cause
    | .ok argument => (Application.call f argument).perform

end Tree

namespace Postfix

/-- The result for the unread tokens once an operation has been tried. -/
def resultAfter (stack : List Float) (rest : List Token) :
    Except EvaluationError Float → Except ExpressionError Float
  | .ok value => (evaluateOn (value :: stack) rest).2
  | .error cause => .error (.failed cause)

theorem result_number (stack : List Float) (value : Float) (rest : List Token) :
    (evaluateOn stack (.number value :: rest)).2 =
      resultAfter stack rest (if value.isFinite then .ok value else .error .notFinite) := by
  rw [evaluateOn]
  split <;> rfl

/-- A token that makes an application of the values on the stack is followed by its outcome. -/
theorem result_application {token : Token} {stack below : List Float} {application : Application}
    (made : Application.ofToken? token stack = some (application, below)) (rest : List Token) :
    (evaluateOn stack (token :: rest)).2 = resultAfter below rest application.perform := by
  cases token with
  | number value => simp [Application.ofToken?] at made
  | opening => simp [Application.ofToken?] at made
  | closing => simp [Application.ofToken?] at made
  | operator op =>
    simp only [evaluateOn, made]
    cases application.perform <;> rfl
  | function f =>
    simp only [evaluateOn, made]
    cases application.perform <;> rfl

/-- Evaluating the postfix order of a tree pushes the value of the tree, or fails as it does. -/
theorem result_postorder (tree : Tree) (stack : List Float) (rest : List Token) :
    (evaluateOn stack (tree.postorder ++ rest)).2 = resultAfter stack rest tree.value := by
  induction tree generalizing stack rest with
  | number value => exact result_number stack value rest
  | binary op left right left_ih right_ih =>
    rw [Tree.postorder, List.append_assoc, List.append_assoc, left_ih, Tree.value]
    cases left.value with
    | error cause => rfl
    | ok leftValue =>
      rw [resultAfter, right_ih]
      cases right.value with
      | error cause => rfl
      | ok rightValue => exact result_application rfl rest
  | negation operand ih =>
    rw [Tree.postorder, List.append_assoc, ih, Tree.value]
    cases operand.value with
    | error cause => rfl
    | ok value => exact result_application rfl rest
  | call f argument ih =>
    rw [Tree.postorder, List.append_assoc, ih, Tree.value]
    cases argument.value with
    | error cause => rfl
    | ok value => exact result_application rfl rest

end Postfix

end Reckoner
