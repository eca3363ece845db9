import Mathlib.Data.List.Induction
import Reckoner.Expression.Tree

/-!
# Evaluation of arbitrary postfix tokens

The stack machine is compared with trees on every list of tokens, well formed or not. As long as no
token fails, the tokens read so far are the postfix orders of trees that compute the values on the
stack (`Leaves`). What makes a token fail is said of the token and of those values alone
(`Token.Fails`), so that the error of an evaluation is the error of its first failing token.
-/

namespace Reckoner

/-! ## Applications that have a value -/

namespace Application

/-- An application with a value: no zero divisor and a finite result. -/
structure Sound (application : Application) : Prop where
  divisor : application.dividesByZero = false
  finite : application.value.isFinite = true

theorem Sound.perform {application : Application} (sound : application.Sound) :
    application.perform = .ok application.value := by
  unfold Application.perform
  rw [if_neg (by simp [sound.divisor]), if_pos sound.finite]

theorem sound_of_perform {application : Application} {value : Float}
    (performed : application.perform = .ok value) :
    application.Sound ∧ application.value = value := by
  unfold Application.perform at performed
  split at performed
  · cases performed
  · rename_i divisor
    split at performed
    · rename_i finite
      injection performed with same
      exact ⟨⟨by simpa using divisor, finite⟩, same⟩
    · cases performed

end Application

/-! ## Trees that have a value -/

namespace Tree

/-- The value of a tree, rule by rule: its numbers are finite and its applications sound. -/
inductive Computes : Tree → Float → Prop where
  | number {value : Float} (finite : value.isFinite = true) : Computes (.number value) value
  | binary {op : BinaryOperator} {left right : Tree} {a b : Float} (first : Computes left a)
      (second : Computes right b) (sound : (Application.binary op a b).Sound) :
      Computes (.binary op left right) (Application.binary op a b).value
  | negation {operand : Tree} {a : Float} (inner : Computes operand a)
      (sound : (Application.negation a).Sound) :
      Computes (.negation operand) (Application.negation a).value
  | call {f : Function} {argument : Tree} {a : Float} (inner : Computes argument a)
      (sound : (Application.call f a).Sound) :
      Computes (.call f argument) (Application.call f a).value

theorem Computes.finite {tree : Tree} {value : Float} (computes : tree.Computes value) :
    value.isFinite = true := by
  cases computes with
  | number finite => exact finite
  | binary first second sound => exact sound.finite
  | negation inner sound => exact sound.finite
  | call inner sound => exact sound.finite

theorem Computes.value_eq {tree : Tree} {value : Float} (computes : tree.Computes value) :
    tree.value = .ok value := by
  induction computes with
  | number finite => rw [Tree.value, if_pos finite]
  | binary first second sound first_ih second_ih =>
      rw [Tree.value, first_ih, second_ih]
      exact sound.perform
  | negation inner sound ih =>
      rw [Tree.value, ih]
      exact sound.perform
  | call inner sound ih =>
      rw [Tree.value, ih]
      exact sound.perform

theorem computes_of_value {tree : Tree} {value : Float} (valued : tree.value = .ok value) :
    tree.Computes value := by
  induction tree generalizing value with
  | number literal =>
      rw [Tree.value] at valued
      split at valued
      · rename_i finite
        cases valued
        exact .number finite
      · cases valued
  | binary op left right left_ih right_ih =>
      rw [Tree.value] at valued
      cases first : left.value with
      | error cause => simp [first] at valued
      | ok a =>
          cases second : right.value with
          | error cause => simp [first, second] at valued
          | ok b =>
              rw [first, second] at valued
              obtain ⟨sound, rfl⟩ := Application.sound_of_perform valued
              exact .binary (left_ih first) (right_ih second) sound
  | negation operand ih =>
      rw [Tree.value] at valued
      cases inner : operand.value with
      | error cause => simp [inner] at valued
      | ok a =>
          rw [inner] at valued
          obtain ⟨sound, rfl⟩ := Application.sound_of_perform valued
          exact .negation (ih inner) sound
  | call f argument ih =>
      rw [Tree.value] at valued
      cases inner : argument.value with
      | error cause => simp [inner] at valued
      | ok a =>
          rw [inner] at valued
          obtain ⟨sound, rfl⟩ := Application.sound_of_perform valued
          exact .call (ih inner) sound

/-- The rules and the recursive computation give the same values. -/
theorem value_eq_ok_iff {tree : Tree} {value : Float} :
    tree.value = .ok value ↔ tree.Computes value :=
  ⟨computes_of_value, Computes.value_eq⟩

/-- No postfix order ends in two ways: the last tree of a list of tokens is determined, and so is
what stands before it. -/
theorem postorder_suffix {tree other : Tree} {before others : List Token}
    (same : before ++ tree.postorder = others ++ other.postorder) :
    before = others ∧ tree = other := by
  -- The last token decides the root; the operands are then cut off from the right.
  induction tree generalizing other before others with
  | number value =>
      cases other <;> simp [postorder, ← List.append_assoc] at same
      obtain ⟨rfl, rfl⟩ := same
      exact ⟨rfl, rfl⟩
  | binary op left right left_ih right_ih =>
      cases other <;> simp [postorder, ← List.append_assoc] at same
      obtain ⟨operands, rfl⟩ := same
      obtain ⟨rest, rfl⟩ := right_ih operands
      obtain ⟨rfl, rfl⟩ := left_ih rest
      exact ⟨rfl, rfl⟩
  | negation operand ih =>
      cases other <;> simp [postorder, ← List.append_assoc] at same
      obtain ⟨rfl, rfl⟩ := ih same
      exact ⟨rfl, rfl⟩
  | call f argument ih =>
      cases other <;> simp [postorder, ← List.append_assoc] at same
      obtain ⟨operand, rfl⟩ := same
      obtain ⟨rfl, rfl⟩ := ih operand
      exact ⟨rfl, rfl⟩

theorem postorder_injective {tree other : Tree} (same : tree.postorder = other.postorder) :
    tree = other :=
  (@postorder_suffix tree other [] [] same).2

end Tree

/-! ## Tokens that fail -/

namespace Token

/-- The count of operands of a token that applies something. -/
def arity? : Token → Option Nat
  | .operator op => some op.arity
  | .function _ => some 1
  | _ => none

/-- A token that fails on the values of a stack, top first, and its error. -/
inductive Fails : Token → List Float → ExpressionError → Prop where
  | literal {value : Float} {stack : List Float} (infinite : value.isFinite = false) :
      Fails (.number value) stack (.failed .notFinite)
  | opening {stack : List Float} : Fails .opening stack (.malformed .mismatchedParentheses)
  | closing {stack : List Float} : Fails .closing stack (.malformed .mismatchedParentheses)
  | underflow {token : Token} {stack : List Float} {count : Nat} (arity : token.arity? = some count)
      (few : stack.length < count) : Fails token stack (.failed .missingOperand)
  | zeroDivisor {divisor dividend : Float} {below : List Float} (zero : (divisor == 0) = true) :
      Fails (.operator (.binary .div)) (divisor :: dividend :: below) (.failed .divisionByZero)
  | binary {op : BinaryOperator} {right left : Float} {below : List Float}
      (divisor : (Application.binary op left right).dividesByZero = false)
      (infinite : (Application.binary op left right).value.isFinite = false) :
      Fails (.operator (.binary op)) (right :: left :: below) (.failed .notFinite)
  | negation {operand : Float} {below : List Float}
      (infinite : (Application.negation operand).value.isFinite = false) :
      Fails (.operator .neg) (operand :: below) (.failed .notFinite)
  | call {f : Function} {argument : Float} {below : List Float}
      (infinite : (Application.call f argument).value.isFinite = false) :
      Fails (.function f) (argument :: below) (.failed .notFinite)

end Token

namespace Application

/-- Too few operands are the only reason why an operator or a function makes no application. -/
theorem ofToken?_eq_none {token : Token} {stack : List Float} {count : Nat}
    (arity : token.arity? = some count) :
    ofToken? token stack = none ↔ stack.length < count := by
  cases token with
  | number value => simp [Token.arity?] at arity
  | opening => simp [Token.arity?] at arity
  | closing => simp [Token.arity?] at arity
  | operator op =>
      cases op with
      | neg =>
          cases arity
          cases stack <;> simp [ofToken?, Operator.arity]
      | binary op =>
          cases arity
          rcases stack with _ | ⟨right, _ | ⟨left, below⟩⟩ <;> simp [ofToken?, Operator.arity]
  | function f =>
      cases arity
      cases stack <;> simp [ofToken?]

/-- A token whose application divides by zero or is not finite fails. -/
theorem fails_of_unsound {token : Token} {stack below : List Float} {application : Application}
    (made : ofToken? token stack = some (application, below)) (unsound : ¬application.Sound) :
    ∃ cause, token.Fails stack cause := by
  have infinite : application.dividesByZero = false → application.value.isFinite = false := by
    intro divisor
    exact Bool.eq_false_iff.mpr fun finite => unsound ⟨divisor, finite⟩
  unfold ofToken? at made
  split at made
  · cases made
    exact ⟨_, .negation (infinite rfl)⟩
  · rename_i op right left below
    cases made
    cases divisor : (Application.binary op left right).dividesByZero with
    | false => exact ⟨_, .binary divisor (infinite divisor)⟩
    | true =>
        cases op <;> simp only [dividesByZero, Bool.false_eq_true] at divisor
        exact ⟨_, .zeroDivisor divisor⟩
  · cases made
    exact ⟨_, .call (infinite rfl)⟩
  · cases made

end Application

/-! ## Tokens that leave values -/

namespace Postfix

/-- Tokens that leave values on the stack, top first: they are the postfix orders of trees that
compute these values. -/
inductive Leaves : List Token → List Float → Prop where
  | nil : Leaves [] []
  | push {tokens : List Token} {stack : List Float} {tree : Tree} {value : Float}
      (before : Leaves tokens stack) (computes : tree.Computes value) :
      Leaves (tokens ++ tree.postorder) (value :: stack)

/-- Tokens leave one value exactly if they are the postfix order of a tree that computes it. -/
theorem leaves_singleton_iff {tokens : List Token} {value : Float} :
    Leaves tokens [value] ↔ ∃ tree : Tree, tree.postorder = tokens ∧ tree.Computes value := by
  constructor
  · intro leaves
    cases leaves with
    | push before computes =>
        cases before
        exact ⟨_, rfl, computes⟩
  · rintro ⟨tree, rfl, computes⟩
    exact .push .nil computes

/-- Tokens that leave values are read without a failure. -/
theorem Leaves.result {tokens : List Token} {stack : List Float} (leaves : Leaves tokens stack)
    (rest : List Token) :
    (evaluateOn [] (tokens ++ rest)).2 = (evaluateOn stack rest).2 := by
  induction leaves generalizing rest with
  | nil => rfl
  | push before computes ih =>
      rw [List.append_assoc, ih, result_postorder, computes.value_eq]
      rfl

/-- A failing token ends the evaluation with its error. -/
theorem result_of_fails {token : Token} {stack : List Float} {cause : ExpressionError}
    (fails : token.Fails stack cause) (rest : List Token) :
    (evaluateOn stack (token :: rest)).2 = .error cause := by
  cases fails with
  | literal infinite =>
      rw [result_number, infinite]
      rfl
  | opening => simp [evaluateOn]
  | closing => simp [evaluateOn]
  | @underflow _ _ count arity few =>
      have none_made := (Application.ofToken?_eq_none arity).mpr few
      cases token with
      | operator op => simp [evaluateOn, none_made]
      | function f => simp [evaluateOn, none_made]
      | number value => cases arity
      | opening => cases arity
      | closing => cases arity
  | zeroDivisor zero =>
      rw [result_application rfl, Application.perform, Application.dividesByZero, if_pos zero]
      rfl
  | binary divisor infinite =>
      rw [result_application rfl, Application.perform, divisor, infinite]
      rfl
  | negation infinite =>
      rw [result_application rfl, Application.perform, infinite]
      rfl
  | call infinite =>
      rw [result_application rfl, Application.perform, infinite]
      rfl

/-- A sound application joins the trees of its operands to one tree. -/
theorem Leaves.apply {tokens : List Token} {stack below : List Float} {token : Token}
    {application : Application} (leaves : Leaves tokens stack)
    (made : Application.ofToken? token stack = some (application, below))
    (sound : application.Sound) :
    Leaves (tokens ++ [token]) (application.value :: below) := by
  unfold Application.ofToken? at made
  split at made
  · cases made
    cases leaves with
    | @push before _ tree _ rest inner =>
        rw [List.append_assoc]
        exact rest.push (.negation inner sound)
  · cases made
    cases leaves with
    | push rest second =>
        cases rest with
        | @push before _ tree _ rest first =>
            rw [List.append_assoc, List.append_assoc, ← List.append_assoc tree.postorder]
            exact rest.push (.binary first second sound)
  · cases made
    cases leaves with
    | push rest inner =>
        rw [List.append_assoc]
        exact rest.push (.call inner sound)
  · cases made

/-- What an operator or a function does to the values before it: it fails, or it leaves its result
in the place of its operands. -/
theorem Leaves.step_application {tokens : List Token} {stack : List Float}
    (leaves : Leaves tokens stack) {token : Token} {count : Nat}
    (arity : token.arity? = some count) :
    (∃ next, Leaves (tokens ++ [token]) next) ∨ ∃ cause, token.Fails stack cause := by
  cases made : Application.ofToken? token stack with
  | none =>
      right
      exact ⟨_, .underflow arity ((Application.ofToken?_eq_none arity).mp made)⟩
  | some result =>
      obtain ⟨application, below⟩ := result
      by_cases sound : application.Sound
      · left
        exact ⟨_, leaves.apply made sound⟩
      · right
        exact Application.fails_of_unsound made sound

/-- A token fails on the values before it, or it leaves values itself. -/
theorem Leaves.step {tokens : List Token} {stack : List Float} (leaves : Leaves tokens stack)
    (token : Token) :
    (∃ next, Leaves (tokens ++ [token]) next) ∨ ∃ cause, token.Fails stack cause := by
  cases token with
  | number value =>
      cases finite : value.isFinite with
      | true =>
          left
          exact ⟨value :: stack, leaves.push (.number finite)⟩
      | false =>
          right
          exact ⟨_, .literal finite⟩
  | opening => exact .inr ⟨_, .opening⟩
  | closing => exact .inr ⟨_, .closing⟩
  | operator op => exact leaves.step_application rfl
  | function f => exact leaves.step_application rfl

/-- Tokens with a first failing one: those before it leave the values on which it fails. -/
def FailsFirst (tokens : List Token) (cause : ExpressionError) : Prop :=
  ∃ before token after stack, tokens = before ++ token :: after ∧ Leaves before stack ∧
    token.Fails stack cause

/-- Every list of tokens is read to its end or has a first failing token. -/
theorem leaves_or_failsFirst (tokens : List Token) :
    (∃ stack, Leaves tokens stack) ∨ ∃ cause, FailsFirst tokens cause := by
  -- From the right, since a token acts on the values that all tokens before it leave.
  induction tokens using List.reverseRecOn with
  | nil => exact .inl ⟨[], .nil⟩
  | append_singleton tokens last ih =>
      rcases ih with ⟨stack, leaves⟩ | ⟨cause, before, token, after, stack, rfl, leaves, fails⟩
      · rcases leaves.step last with next | ⟨cause, fails⟩
        · exact .inl next
        · exact .inr ⟨cause, tokens, last, [], stack, rfl, leaves, fails⟩
      · right
        refine ⟨cause, before, token, after ++ [last], stack, ?_, leaves, fails⟩
        rw [List.append_assoc, List.cons_append]

theorem FailsFirst.result {tokens : List Token} {cause : ExpressionError}
    (failing : FailsFirst tokens cause) : (evaluateOn [] tokens).2 = .error cause := by
  obtain ⟨before, token, after, stack, rfl, leaves, fails⟩ := failing
  rw [leaves.result]
  exact result_of_fails fails after

theorem Leaves.result_nil {tokens : List Token} {stack : List Float}
    (leaves : Leaves tokens stack) :
    (∃ value, stack = [value] ∧ (evaluateOn [] tokens).2 = .ok value) ∨
      stack.length ≠ 1 ∧ (evaluateOn [] tokens).2 = .error (.malformed .notOneValue) := by
  have read := leaves.result []
  rw [List.append_nil] at read
  rw [read]
  rcases leaves with _ | @⟨_, below, tree, value, before, computes⟩
  · exact .inr ⟨by simp, rfl⟩
  · rcases below with _ | ⟨next, rest⟩
    · left
      refine ⟨value, rfl, ?_⟩
      rw [evaluateOn, if_pos computes.finite]
    · exact .inr ⟨by simp, rfl⟩

theorem result_eq_ok_iff {tokens : List Token} {value : Float} :
    (evaluateOn [] tokens).2 = .ok value ↔ Leaves tokens [value] := by
  constructor
  · intro evaluated
    rcases leaves_or_failsFirst tokens with ⟨stack, leaves⟩ | ⟨cause, failing⟩
    · rcases leaves.result_nil with ⟨left, rfl, result⟩ | ⟨_, result⟩
      · rw [result] at evaluated
        cases evaluated
        exact leaves
      · rw [result] at evaluated
        cases evaluated
    · rw [failing.result] at evaluated
      cases evaluated
  · intro leaves
    rcases leaves.result_nil with ⟨left, same, result⟩ | ⟨several, _⟩
    · cases same
      exact result
    · exact absurd rfl several

theorem result_eq_error_iff {tokens : List Token} {cause : ExpressionError} :
    (evaluateOn [] tokens).2 = .error cause ↔
      FailsFirst tokens cause ∨
        cause = .malformed .notOneValue ∧ ∃ stack, Leaves tokens stack ∧ stack.length ≠ 1 := by
  constructor
  · intro evaluated
    rcases leaves_or_failsFirst tokens with ⟨stack, leaves⟩ | ⟨first, failing⟩
    · rcases leaves.result_nil with ⟨value, _, result⟩ | ⟨several, result⟩
      · rw [result] at evaluated
        cases evaluated
      · rw [result] at evaluated
        cases evaluated
        exact .inr ⟨rfl, stack, leaves, several⟩
    · rw [failing.result] at evaluated
      cases evaluated
      exact .inl failing
  · rintro (failing | ⟨rfl, stack, leaves, several⟩)
    · exact failing.result
    · rcases leaves.result_nil with ⟨value, rfl, _⟩ | ⟨_, result⟩
      · exact absurd rfl several
      · exact result

/-- **Postfix evaluation is tree evaluation.** Postfix tokens evaluate to a value exactly if they
are the postfix order of a tree that computes it, and then of no other tree. Otherwise the error is
that of the first token that fails or, if none fails, that not exactly one value is left. -/
theorem evaluate_iff_postorder (detailed : Bool) (tokens : List Token) :
    (∀ value, (evaluate detailed tokens).2 = .ok value ↔
        ∃ tree : Tree, tree.postorder = tokens ∧ tree.Computes value ∧
          ∀ other : Tree, other.postorder = tokens → other = tree) ∧
      ∀ cause, (evaluate detailed tokens).2 = .error cause ↔
        FailsFirst tokens cause ∨
          cause = .malformed .notOneValue ∧ ∃ stack, Leaves tokens stack ∧ stack.length ≠ 1 := by
  refine ⟨fun value => ?_, fun cause => result_eq_error_iff⟩
  show (evaluateOn [] tokens).2 = .ok value ↔ _
  rw [result_eq_ok_iff, leaves_singleton_iff]
  constructor
  · rintro ⟨tree, rfl, computes⟩
    exact ⟨tree, rfl, computes, fun other same => Tree.postorder_injective same⟩
  · rintro ⟨tree, ordered, computes, _⟩
    exact ⟨tree, ordered, computes⟩

end Postfix

end Reckoner
