import Reckoner.Expression.Grammar
import Reckoner.Expression.Postfix
import Reckoner.Proofs.Expression.Brackets
import Reckoner.Proofs.Expression.Evaluation

/-!
# Operands that are missing and operands too many

The conversion lets two defects pass: an operand that is missing where one is expected, and an
operand right behind another one. Each missing operand takes one value from the stack of the
evaluation and each surplus one leaves one there (`balance_shunt`), so the evaluation, which only
counts values, sees their difference and not the defects themselves.
-/

namespace Reckoner

namespace Token

/-- Whether an operand is expected behind a token. -/
def expectsOperand : Token → Bool
  | .number _ | .closing => false
  | _ => true

/-- Whether an operand starts with a token. Plus and minus are not among them: behind an operand
they are operators. -/
def startsOperand : Token → Bool
  | .number _ | .opening | .function _ | .operator .neg => true
  | _ => false

/-- Whether a token needs an operand before it. A plus or a minus without one is a sign. -/
def followsOperand : Token → Bool
  | .closing => true
  | .operator (.binary op) => !op.isAdditive
  | _ => false

/-- What a token of a postfix order adds to the count of values on the stack. -/
def weight : Token → Int
  | .number _ => 1
  | .operator (.binary _) => -1
  | _ => 0

/-- What an infix token adds once it is put out: a sign takes no value. -/
def infixWeight (expecting : Bool) : Token → Int
  | .operator (.binary op) => if expecting && op.isAdditive then 0 else -1
  | token => token.weight

end Token

namespace Operands

/-- The count of places where an operand is expected and none stands. -/
def missing : Bool → List Token → Nat
  | expecting, [] => expecting.toNat
  | expecting, token :: rest =>
    (expecting && token.followsOperand).toNat + missing token.expectsOperand rest

/-- The count of operands that stand right behind another operand. -/
def surplus : Bool → List Token → Nat
  | _, [] => 0
  | expecting, token :: rest =>
    (!expecting && token.startsOperand).toNat + surplus token.expectsOperand rest

/-- At every token the values that are added, the defects and the expectation balance. -/
theorem place (expecting : Bool) (token : Token) :
    token.infixWeight expecting + (expecting && token.followsOperand).toNat +
        token.expectsOperand.toNat =
      (!expecting && token.startsOperand).toNat + expecting.toNat := by
  cases token with
  | operator op =>
      cases op with
      | neg => cases expecting <;> rfl
      | binary op => cases expecting <;> cases op <;> rfl
  | number value => cases expecting <;> rfl
  | opening => cases expecting <;> rfl
  | closing => cases expecting <;> rfl
  | function f => cases expecting <;> rfl

/-- The count of values that postfix tokens add to the stack. -/
def balance : List Token → Int
  | [] => 0
  | token :: rest => token.weight + balance rest

theorem balance_append (first second : List Token) :
    balance (first ++ second) = balance first + balance second := by
  induction first with
  | nil => simp [balance]
  | cons token rest ih =>
      rw [List.cons_append, balance, balance, ih]
      omega

/-- A postfix order leaves one value. -/
theorem balance_postorder (tree : Tree) : balance tree.postorder = 1 := by
  induction tree with
  | number value => rfl
  | binary op left right left_ih right_ih =>
      rw [Tree.postorder, balance_append, balance_append, left_ih, right_ih]
      rfl
  | negation operand ih =>
      rw [Tree.postorder, balance_append, ih]
      rfl
  | call f argument ih =>
      rw [Tree.postorder, balance_append, ih]
      rfl

/-! ## The balance of a conversion -/

/-- The values that the operators and calls waiting on a stack will add. -/
def pending (stack : List Waiting) : Int := balance (stack.flatMap Waiting.released)

theorem pending_cons (entry : Waiting) (stack : List Waiting) :
    pending (entry :: stack) = balance entry.released + pending stack := by
  rw [pending, List.flatMap_cons, balance_append, pending]

theorem pending_split (released : Waiting → Bool) (stack : List Waiting) :
    balance ((stack.takeWhile released).flatMap Waiting.released) +
      pending (stack.dropWhile released) = pending stack := by
  rw [pending, pending, ← balance_append, ← List.flatMap_append, List.takeWhile_append_dropWhile]

theorem ok_of_map_ok {f : List Token → List Token} {outcome : Except SyntaxError (List Token)}
    {output : List Token} (mapped : f <$> outcome = .ok output) :
    ∃ inner, outcome = .ok inner ∧ f inner = output := by
  cases outcome with
  | error cause => cases mapped
  | ok inner =>
      cases mapped
      exact ⟨inner, rfl, rfl⟩

theorem balance_drain {stack : List Waiting} {output : List Token}
    (drained : Postfix.drain stack = .ok output) : balance output = pending stack := by
  induction stack generalizing output with
  | nil =>
      cases drained
      rfl
  | cons entry below ih =>
      cases entry with
      | group called => cases drained
      | operator op =>
          obtain ⟨inner, rest, rfl⟩ := ok_of_map_ok drained
          rw [pending_cons, balance, ih rest]
          simp [Waiting.released, balance]

/-- The equation of `balance_shunt` before a token follows from the one behind it. -/
theorem balance_cons (expecting : Bool) (token : Token) {rest : List Token} {added total : Int}
    (behind : added + missing token.expectsOperand rest =
      total + surplus token.expectsOperand rest + token.expectsOperand.toNat) :
    token.infixWeight expecting + added + missing expecting (token :: rest) =
      total + surplus expecting (token :: rest) + expecting.toNat := by
  have balanced := place expecting token
  rw [missing, surplus]
  omega

/-- **Missing and surplus operands cancel in the output.** Apart from them, the tokens read add
one value, or none if an operand stood before them already. -/
theorem balance_shunt {stack : List Waiting} {expecting : Bool} {tokens output : List Token}
    (converted : Postfix.shunt stack expecting tokens = .ok output) :
    balance output + missing expecting tokens =
      pending stack + surplus expecting tokens + expecting.toNat := by
  fun_induction Postfix.shunt stack expecting tokens generalizing output with
  | case1 stack expecting =>
      rw [balance_drain converted, missing, surplus]
      omega
  | case2 stack expecting value rest ih =>
      obtain ⟨inner, read, rfl⟩ := ok_of_map_ok converted
      exact balance_cons expecting (.number value) (ih read)
  | case3 stack expecting f rest ih =>
      -- Two tokens are read at once: behind the name an operand is expected, and it is there.
      have opened := balance_cons true .opening (ih converted)
      have called := balance_cons expecting (.function f) opened
      rw [pending_cons] at called
      simpa [Token.infixWeight, Token.weight, Waiting.released, balance] using called
  | case4 stack expecting f rest bare => cases converted
  | case5 stack expecting rest ih =>
      have opened := balance_cons expecting .opening (ih converted)
      rw [pending_cons] at opened
      simpa [Token.infixWeight, Token.weight, Waiting.released, balance] using opened
  | case6 stack expecting rest empty => cases converted
  | case7 stack expecting rest entry below stopped ih =>
      obtain ⟨inner, read, rfl⟩ := ok_of_map_ok converted
      have closed := balance_cons expecting .closing (ih read)
      have parts := pending_split Waiting.isOperator stack
      rw [stopped, pending_cons] at parts
      rw [balance_append, balance_append]
      simp only [Token.infixWeight, Token.weight] at closed
      omega
  | case8 stack rest ih =>
      have signed := balance_cons true (.operator (.binary .add)) (ih converted)
      simpa [Token.infixWeight, BinaryOperator.isAdditive] using signed
  | case9 stack rest ih =>
      have signed := balance_cons true (.operator (.binary .sub)) (ih converted)
      rw [pending_cons] at signed
      simpa [Token.infixWeight, Token.weight, BinaryOperator.isAdditive, Waiting.released, balance]
        using signed
  | case10 stack rest ih =>
      have signed := balance_cons true (.operator .neg) (ih converted)
      rw [pending_cons] at signed
      simpa [Token.infixWeight, Token.weight, Waiting.released, balance] using signed
  | case11 stack expecting op rest no_plus no_minus no_sign ih =>
      obtain ⟨inner, read, rfl⟩ := ok_of_map_ok converted
      have applied := balance_cons expecting (.operator op) (ih read)
      -- Plus and minus never get here as signs, so the operator counts in full.
      have weighed : Token.infixWeight expecting (.operator op) =
          balance (Waiting.operator op).released := by
        cases op with
        | neg => rfl
        | binary op =>
            cases expecting with
            | false => rfl
            | true =>
                cases op with
                | add => exact absurd rfl (no_plus rfl)
                | sub => exact absurd rfl (no_minus rfl)
                | mul => rfl
                | div => rfl
                | pow => rfl
      have parts := pending_split (Waiting.yieldsTo op) stack
      rw [pending_cons, weighed] at applied
      rw [balance_append]
      omega

end Operands

end Reckoner
