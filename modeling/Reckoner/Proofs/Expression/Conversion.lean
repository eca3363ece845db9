import Reckoner.Expression.Grammar
import Reckoner.Expression.Postfix
import Reckoner.Proofs.Expression.Evaluation

/-!
# Conversion of sentences

Reading a phrase puts out its postfix order except for the operators at its right edge, which are
left waiting on the stack (`Converted`). These bind at least as tightly as the phrase itself, so
whatever comes next lets them go before anything else: an operator that bounds the phrase, the
parenthesis that closes its group, or the end of the input.
-/

namespace Reckoner

/-! ## How tightly phrases bind -/

/-- The least precedence of an operator at the outside of a phrase; an atom has none there. -/
def PhraseKind.level : PhraseKind → Nat
  | .sum => 1
  | .product => 2
  | .signed => 3
  | .power => 3
  | .atom => 4

namespace BinaryOperator

theorem of_isMultiplicative (op : BinaryOperator) (multiplicative : op.isMultiplicative = true) :
    (Operator.binary op).precedence = 2 ∧ (Operator.binary op).grouping = .left := by
  cases op <;> first | exact ⟨rfl, rfl⟩ | cases multiplicative

theorem isMultiplicative_of_precedence (op : BinaryOperator)
    (level : (Operator.binary op).precedence = 2) : op.isMultiplicative = true := by
  cases op <;> first | rfl | cases level

theorem of_isAdditive (op : BinaryOperator) (additive : op.isAdditive = true) :
    (Operator.binary op).precedence = 1 ∧ (Operator.binary op).grouping = .left := by
  cases op <;> first | exact ⟨rfl, rfl⟩ | cases additive

theorem isAdditive_of_precedence (op : BinaryOperator)
    (level : (Operator.binary op).precedence = 1) : op.isAdditive = true := by
  cases op <;> first | rfl | cases level

end BinaryOperator

namespace Operator

theorem precedence_le (op : Operator) : op.precedence ≤ 3 := by
  cases op with
  | neg => decide
  | binary op => cases op <;> decide

/-- Operators as tight as powers group to the right, so nothing that waits yields to them. -/
theorem not_yieldsTo_of_three_le {waiting next : Operator} (tight : 3 ≤ next.precedence) :
    waiting.yieldsTo next = false := by
  have bound := waiting.precedence_le
  have right : next.grouping = .right := by
    cases next with
    | neg => rfl
    | binary op => cases op <;> first | rfl | simp [precedence] at tight
  simp only [yieldsTo, right, decide_eq_false_iff_not]
  omega

theorem yieldsTo_of_left {waiting next : Operator} (left : next.grouping = .left) :
    waiting.yieldsTo next = decide (next.precedence ≤ waiting.precedence) := by
  rw [yieldsTo, left]

end Operator

namespace Postfix

/-- Nothing on top of the stack yields to an operator at the outside of a phrase of the kind. -/
def Ready (kind : PhraseKind) (stack : List Waiting) : Prop :=
  ∀ op : Operator, kind.level ≤ op.precedence → stack.takeWhile (Waiting.yieldsTo op) = []

theorem Ready.mono {kind inner : PhraseKind} {stack : List Waiting} (ready : Ready kind stack)
    (tighter : kind.level ≤ inner.level) : Ready inner stack :=
  fun op bound => ready op (Nat.le_trans tighter bound)

theorem ready_nil (kind : PhraseKind) : Ready kind [] := fun _ _ => rfl

theorem ready_group (kind : PhraseKind) (called : Option Function) (stack : List Waiting) :
    Ready kind (.group called :: stack) := fun _ _ => rfl

theorem ready_of_three_le {kind : PhraseKind} (tight : 3 ≤ kind.level) (stack : List Waiting) :
    Ready kind stack := by
  intro op bound
  rcases stack with _ | ⟨_ | _, below⟩
  · rfl
  · rename_i waiting
    rw [List.takeWhile_cons_of_neg]
    simp [Waiting.yieldsTo, Operator.not_yieldsTo_of_three_le (Nat.le_trans tight bound)]
  · rfl

/-- A looser operator does not yield to the operators of a phrase. -/
theorem ready_operator {kind : PhraseKind} {waiting : Operator} (stack : List Waiting)
    (looser : waiting.precedence < kind.level) : Ready kind (.operator waiting :: stack) := by
  intro op bound
  rw [List.takeWhile_cons_of_neg]
  have order : waiting.precedence < op.precedence := Nat.lt_of_lt_of_le looser bound
  simp only [Waiting.yieldsTo, Operator.yieldsTo]
  cases op.grouping <;> simp <;> omega

/-! ## Reading a phrase -/

theorem map_append_map_append (first second : List Token)
    (rest : Except SyntaxError (List Token)) :
    (first ++ ·) <$> (second ++ ·) <$> rest = (first ++ second ++ ·) <$> rest := by
  rw [Functor.map_map]
  simp only [List.append_assoc]

/-- What the conversion makes of the tokens of a phrase: its output, and the operators that it
leaves waiting, top first. -/
structure Converted (kind : PhraseKind) (tokens : List Token) (tree : Tree) (output : List Token)
    (waiting : List Operator) : Prop where
  whole : output ++ waiting.map .operator = tree.postorder
  tight : ∀ op ∈ waiting, kind.level ≤ op.precedence
  run : ∀ stack rest, Ready kind stack →
    shunt stack true (tokens ++ rest) =
      (output ++ ·) <$> shunt (waiting.map .operator ++ stack) false rest

/-- A phrase is read as any looser kind of phrase that consists of it alone. -/
theorem Converted.loosen {kind inner : PhraseKind} {tokens output : List Token} {tree : Tree}
    {waiting : List Operator} (converted : Converted inner tokens tree output waiting)
    (looser : kind.level ≤ inner.level) : Converted kind tokens tree output waiting where
  whole := converted.whole
  tight := fun op member => Nat.le_trans looser (converted.tight op member)
  run := fun stack rest ready => converted.run stack rest (ready.mono looser)

/-- An operator lets go of all that waits above a stack that does not yield to it. -/
theorem shunt_release {op : Operator} {waiting : List Operator} {stack : List Waiting}
    (yields : ∀ earlier ∈ waiting, earlier.yieldsTo op = true)
    (kept : stack.takeWhile (Waiting.yieldsTo op) = []) (rest : List Token) :
    shunt (waiting.map .operator ++ stack) false (.operator op :: rest) =
      (waiting.map .operator ++ ·) <$> shunt (.operator op :: stack) true rest := by
  have yields_all : ∀ entry ∈ waiting.map Waiting.operator,
      Waiting.yieldsTo op entry = true := by
    intro entry member
    obtain ⟨earlier, among, rfl⟩ := List.mem_map.mp member
    exact yields earlier among
  have stays : stack.dropWhile (Waiting.yieldsTo op) = stack := by
    have parts := List.takeWhile_append_dropWhile (p := Waiting.yieldsTo op) (l := stack)
    rwa [kept, List.nil_append] at parts
  rw [shunt_operator, List.takeWhile_append_of_pos yields_all,
    List.dropWhile_append_of_pos yields_all, kept, stays, List.append_nil,
    Waiting.released_operators]

/-- Two operands and the operator between them: the operator lets go of what the left operand left
waiting, and waits itself below what the right operand leaves. -/
theorem Converted.binary {kind leftKind rightKind : PhraseKind} {op : BinaryOperator}
    {first second firstOutput secondOutput : List Token} {firstTree secondTree : Tree}
    {firstWaiting secondWaiting : List Operator}
    (left : Converted leftKind first firstTree firstOutput firstWaiting)
    (right : Converted rightKind second secondTree secondOutput secondWaiting)
    (inside : kind.level ≤ (Operator.binary op).precedence)
    (leftLooser : kind.level ≤ leftKind.level) (rightLooser : kind.level ≤ rightKind.level)
    (yields : ∀ earlier : Operator, leftKind.level ≤ earlier.precedence →
      earlier.yieldsTo (.binary op) = true)
    (above : ∀ stack, Ready rightKind (.operator (.binary op) :: stack)) :
    Converted kind (first ++ [.operator (.binary op)] ++ second) (.binary op firstTree secondTree)
      (firstTree.postorder ++ secondOutput) (secondWaiting ++ [.binary op]) where
  whole := by
    rw [Tree.postorder, ← right.whole]
    simp
  tight := by
    intro earlier member
    rcases List.mem_append.mp member with among | same
    · exact Nat.le_trans rightLooser (right.tight earlier among)
    · rw [List.mem_singleton.mp same]
      exact inside
  run := by
    intro stack rest ready
    have yields_all : ∀ earlier ∈ firstWaiting, earlier.yieldsTo (.binary op) = true :=
      fun earlier among => yields earlier (left.tight earlier among)
    -- The stack below yields to no operator of the phrase, so the release ends above it.
    rw [List.append_assoc, List.append_assoc, left.run _ _ (ready.mono leftLooser),
      List.singleton_append, shunt_release yields_all (ready _ inside), map_append_map_append,
      left.whole, right.run _ _ (above stack), map_append_map_append]
    simp

/-- The operators of sums and products take the phrase before them whole as their left operand. -/
theorem Converted.chain {kind rightKind : PhraseKind} {op : BinaryOperator}
    {first second firstOutput secondOutput : List Token} {firstTree secondTree : Tree}
    {firstWaiting secondWaiting : List Operator}
    (left : Converted kind first firstTree firstOutput firstWaiting)
    (right : Converted rightKind second secondTree secondOutput secondWaiting)
    (precedence : (Operator.binary op).precedence = kind.level)
    (grouping : (Operator.binary op).grouping = .left) (tighter : kind.level < rightKind.level) :
    Converted kind (first ++ [.operator (.binary op)] ++ second) (.binary op firstTree secondTree)
      (firstTree.postorder ++ secondOutput) (secondWaiting ++ [.binary op]) := by
  have yields : ∀ earlier : Operator, kind.level ≤ earlier.precedence →
      earlier.yieldsTo (.binary op) = true := by
    intro earlier bound
    rw [Operator.yieldsTo_of_left grouping, precedence]
    exact decide_eq_true bound
  have above (stack : List Waiting) : Ready rightKind (.operator (.binary op) :: stack) :=
    ready_operator stack (precedence ▸ tighter)
  exact left.binary right (Nat.le_of_eq precedence.symm) (Nat.le_refl _) (Nat.le_of_lt tighter)
    yields above

/-- A phrase between the parentheses of a group or of a call. -/
theorem Converted.enclosed {kind : PhraseKind} {tokens output : List Token} {tree : Tree}
    {waiting : List Operator} (inside : Converted kind tokens tree output waiting)
    (called : Option Function) (stack : List Waiting) (rest : List Token) :
    shunt (.group called :: stack) true (tokens ++ .closing :: rest) =
      (tree.postorder ++ (Waiting.group called).released ++ ·) <$> shunt stack false rest := by
  rw [inside.run _ _ (ready_group kind called stack), shunt_closing, map_append_map_append,
    ← List.append_assoc, inside.whole]

/-- **A phrase is converted to its postfix order**, up to the operators at its right edge. -/
theorem exists_converted {kind : PhraseKind} {tokens : List Token} {tree : Tree}
    (phrase : Phrase kind tokens tree) :
    ∃ output waiting, Converted kind tokens tree output waiting := by
  induction phrase with
  | number value =>
      refine ⟨[.number value], [], rfl, by simp, fun stack rest _ => ?_⟩
      exact shunt_number stack true rest value
  | @group tokens tree inside ih =>
      obtain ⟨output, waiting, converted⟩ := ih
      refine ⟨tree.postorder, [], by simp, by simp, fun stack rest _ => ?_⟩
      rw [List.append_assoc, List.append_assoc, List.singleton_append, List.singleton_append,
        shunt_opening, converted.enclosed]
      simp [Waiting.released]
  | @call f tokens tree inside ih =>
      obtain ⟨output, waiting, converted⟩ := ih
      refine ⟨tree.postorder ++ [.function f], [], by simp [Tree.postorder], by simp,
        fun stack rest _ => ?_⟩
      rw [List.append_assoc, List.append_assoc, List.singleton_append, List.cons_append,
        List.singleton_append, shunt_call, converted.enclosed]
      rfl
  | atom whole ih =>
      obtain ⟨output, waiting, converted⟩ := ih
      exact ⟨output, waiting, converted.loosen (by decide)⟩
  | power left right left_ih right_ih =>
      obtain ⟨_, _, first⟩ := left_ih
      obtain ⟨_, _, second⟩ := right_ih
      -- An atom leaves nothing waiting, as nothing binds tighter than a power.
      have none_left : ∀ earlier : Operator, PhraseKind.atom.level ≤ earlier.precedence →
          earlier.yieldsTo (.binary .pow) = true := by
        intro earlier bound
        have most := earlier.precedence_le
        exact absurd (Nat.le_trans bound most) (by decide)
      have above (stack : List Waiting) : Ready .signed (.operator (.binary .pow) :: stack) :=
        ready_of_three_le (show 3 ≤ PhraseKind.signed.level by decide) _
      exact ⟨_, _, first.binary second (by decide) (by decide) (by decide) none_left above⟩
  | unsigned whole ih =>
      obtain ⟨output, waiting, converted⟩ := ih
      exact ⟨output, waiting, converted.loosen (by decide)⟩
  | minus operand ih =>
      obtain ⟨output, waiting, converted⟩ := ih
      -- The sign waits below what its operand leaves, and both go together.
      refine ⟨output, waiting ++ [.neg], ?_, ?_, fun stack rest ready => ?_⟩
      · rw [Tree.postorder, ← converted.whole]
        simp
      · intro op member
        rcases List.mem_append.mp member with among | same
        · exact converted.tight op among
        · rw [List.mem_singleton.mp same]
          decide
      · rw [List.append_assoc, List.singleton_append, shunt_minus,
          converted.run _ _ (ready_of_three_le (by decide) _)]
        simp
  | plus operand ih =>
      obtain ⟨output, waiting, converted⟩ := ih
      refine ⟨output, waiting, converted.whole, converted.tight, fun stack rest ready => ?_⟩
      rw [List.append_assoc, List.singleton_append, shunt_plus, converted.run _ _ ready]
  | factor whole ih =>
      obtain ⟨output, waiting, converted⟩ := ih
      exact ⟨output, waiting, converted.loosen (by decide)⟩
  | @multiply op multiplicative _ _ _ _ left right left_ih right_ih =>
      obtain ⟨_, _, first⟩ := left_ih
      obtain ⟨_, _, second⟩ := right_ih
      obtain ⟨precedence, grouping⟩ := op.of_isMultiplicative multiplicative
      exact ⟨_, _, first.chain second precedence grouping (by decide)⟩
  | term whole ih =>
      obtain ⟨output, waiting, converted⟩ := ih
      exact ⟨output, waiting, converted.loosen (by decide)⟩
  | @add op additive _ _ _ _ left right left_ih right_ih =>
      obtain ⟨_, _, first⟩ := left_ih
      obtain ⟨_, _, second⟩ := right_ih
      obtain ⟨precedence, grouping⟩ := op.of_isAdditive additive
      exact ⟨_, _, first.chain second precedence grouping (by decide)⟩

theorem drain_operators (operators : List Operator) :
    drain (operators.map .operator) = .ok (operators.map .operator) := by
  induction operators with
  | nil => rfl
  | cons op rest ih =>
      rw [List.map_cons, drain, ih]
      rfl

/-- **Sentences are converted to the postfix order of their trees**, and evaluating that order is
evaluating the tree. -/
theorem ofInfix_sentence {tokens : List Token} {tree : Tree} (sentence : Phrase .sum tokens tree) :
    ofInfix tokens = .ok tree.postorder ∧
      ∀ detailed, (evaluate detailed tree.postorder).2 = tree.value.mapError .failed := by
  obtain ⟨output, waiting, converted⟩ := exists_converted sentence
  constructor
  · have read := converted.run [] [] (ready_nil .sum)
    rw [List.append_nil, List.append_nil, shunt_nil, drain_operators] at read
    rw [ofInfix, read, ← converted.whole]
    rfl
  · intro detailed
    show (evaluateOn [] tree.postorder).2 = _
    rw [← List.append_nil tree.postorder, result_postorder]
    cases valued : tree.value with
    | error cause => rfl
    | ok value =>
        rw [resultAfter, evaluateOn, if_pos (Tree.computes_of_value valued).finite]
        rfl

/-- In `-(1+2)*3` the sign takes the group and the product takes the negative sum. -/
theorem ofInfix_negated_group :
    ofInfix [.operator (.binary .sub), .opening, .number 1, .operator (.binary .add), .number 2,
        .closing, .operator (.binary .mul), .number 3] =
      .ok [.number 1, .number 2, .operator (.binary .add), .operator .neg, .number 3,
        .operator (.binary .mul)] ∧
      ∀ detailed, (evaluate detailed [.number 1, .number 2, .operator (.binary .add),
        .operator .neg, .number 3, .operator (.binary .mul)]).2 =
          (Tree.binary .mul (.negation (.binary .add (.number 1) (.number 2)))
            (.number 3)).value.mapError .failed := by
  have one (value : Float) : Phrase .signed [.number value] (.number value) :=
    .unsigned (.atom (.number value))
  have inside : Phrase .sum ([.number 1] ++ [.operator (.binary .add)] ++ [.number 2])
      (.binary .add (.number 1) (.number 2)) :=
    .add rfl (.term (.factor (one 1))) (.factor (one 2))
  have negative := Phrase.minus (.unsigned (.atom (.group inside)))
  have whole := @Phrase.multiply .mul rfl _ _ _ _ (.factor negative) (one 3)
  exact ofInfix_sentence (.term whole)

end Postfix

end Reckoner
