import Reckoner.Expression.Token

/-!
From infix to postfix order with a stack of operators and open groups. Numbers go straight to the
output. An operator waits on the stack until one that binds less tightly follows or its group is
closed. Where an operand is expected a minus is a sign and a plus is dropped; any other operator
there is passed on, and the evaluation will find that it lacks an operand.
-/

namespace Reckoner

/-- What waits on the stack of the conversion. -/
inductive Waiting where
  | operator (op : Operator)
  /-- An open parenthesis, with the function called by it if there is one. -/
  | group (called : Option Function)
  deriving DecidableEq, Repr

namespace Waiting

/-- Whether this is an operator that is applied before the given one is read. -/
def yieldsTo (next : Operator) : Waiting → Bool
  | .operator op => op.yieldsTo next
  | .group _ => false

/-- Whether this is an operator. -/
def isOperator : Waiting → Bool
  | .operator _ => true
  | .group _ => false

/-- The output of what leaves the stack. -/
def released : Waiting → List Token
  | .operator op => [.operator op]
  | .group none => []
  | .group (some f) => [.function f]

theorem released_operators (operators : List Operator) :
    (operators.map operator).flatMap released = operators.map .operator := by
  rw [List.flatMap_map]
  exact (List.map_eq_flatMap).symm

end Waiting

namespace Postfix

/-- The rest of the output once the input is read: what waits on the stack, top first. -/
def drain : List Waiting → Except SyntaxError (List Token)
  | [] => .ok []
  | .group _ :: _ => .error .mismatchedParentheses
  | .operator op :: below => (.operator op :: ·) <$> drain below

/-- The output for the unread tokens, given the stack and whether an operand is expected. -/
def shunt : List Waiting → Bool → List Token → Except SyntaxError (List Token)
  | stack, _, [] => drain stack
  | stack, _, .number value :: rest => (.number value :: ·) <$> shunt stack false rest
  | stack, _, .function f :: .opening :: rest => shunt (.group (some f) :: stack) true rest
  | _, _, .function f :: _ => .error (.missingArguments f)
  | stack, _, .opening :: rest => shunt (.group none :: stack) true rest
  | stack, _, .closing :: rest =>
    match stack.dropWhile Waiting.isOperator with
    | [] => .error .mismatchedParentheses
    | group :: below =>
      ((stack.takeWhile Waiting.isOperator).flatMap Waiting.released ++ group.released ++ ·) <$>
        shunt below false rest
  | stack, true, .operator (.binary .add) :: rest => shunt stack true rest
  | stack, true, .operator (.binary .sub) :: rest => shunt (.operator .neg :: stack) true rest
  | stack, true, .operator .neg :: rest => shunt (.operator .neg :: stack) true rest
  | stack, _, .operator op :: rest =>
    ((stack.takeWhile (Waiting.yieldsTo op)).flatMap Waiting.released ++ ·) <$>
      shunt (.operator op :: stack.dropWhile (Waiting.yieldsTo op)) true rest

/-- Infix tokens in postfix order. -/
def ofInfix (tokens : List Token) : Except SyntaxError (List Token) := shunt [] true tokens

/-! ## What each token does -/

section Tokens

variable (stack : List Waiting) (expecting : Bool) (rest : List Token)

theorem shunt_nil : shunt stack expecting [] = drain stack := by
  cases expecting <;> rfl

theorem shunt_number (value : Float) :
    shunt stack expecting (.number value :: rest) =
      (.number value :: ·) <$> shunt stack false rest := by
  cases expecting <;> rfl

theorem shunt_opening :
    shunt stack expecting (.opening :: rest) = shunt (.group none :: stack) true rest := by
  cases expecting <;> rfl

theorem shunt_call (f : Function) :
    shunt stack expecting (.function f :: .opening :: rest) =
      shunt (.group (some f) :: stack) true rest := by
  cases expecting <;> rfl

/-- A closing parenthesis ends the innermost open group, once the operators in it are put out. -/
theorem shunt_closing (operators : List Operator) (called : Option Function) :
    shunt (operators.map .operator ++ .group called :: stack) expecting (.closing :: rest) =
      (operators.map .operator ++ (Waiting.group called).released ++ ·) <$>
        shunt stack false rest := by
  have taken : (operators.map Waiting.operator ++ .group called :: stack).takeWhile
      Waiting.isOperator = operators.map Waiting.operator := by
    rw [List.takeWhile_append_of_pos (by simp [Waiting.isOperator])]
    simp [Waiting.isOperator]
  have left : (operators.map Waiting.operator ++ .group called :: stack).dropWhile
      Waiting.isOperator = .group called :: stack := by
    rw [List.dropWhile_append_of_pos (by simp [Waiting.isOperator])]
    simp [Waiting.isOperator]
  cases expecting <;> simp only [shunt, taken, left, Waiting.released_operators]

/-- Where an operand is expected, a plus is dropped and a minus waits as a sign. -/
theorem shunt_plus :
    shunt stack true (.operator (.binary .add) :: rest) = shunt stack true rest := rfl

theorem shunt_minus :
    shunt stack true (.operator (.binary .sub) :: rest) =
      shunt (.operator .neg :: stack) true rest := rfl

/-- Every other operator puts out the operators that yield to it and waits in their place. -/
theorem shunt_operator (op : Operator) :
    shunt stack false (.operator op :: rest) =
      ((stack.takeWhile (Waiting.yieldsTo op)).flatMap Waiting.released ++ ·) <$>
        shunt (.operator op :: stack.dropWhile (Waiting.yieldsTo op)) true rest := by
  cases op with
  | neg => rfl
  | binary op => cases op <;> rfl

end Tokens

end Postfix

end Reckoner
