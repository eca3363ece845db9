import Reckoner.Proofs.Expression.Substitution

/-!
# The conversion rearranges

Whatever tokens are converted, well formed or not, the output holds what they stand for: every
number, operator and function once, a plus in front of an operand left out, a minus there as a sign,
and no parenthesis (`Postfix.perm_shunt`). The numbers keep their order (`Postfix.numbers_shunt`). So
the evaluation never comes to a parenthesis.
-/

namespace Reckoner

namespace Token

/-- Whether a token is a number. -/
def isNumber : Token → Bool
  | .number _ => true
  | _ => false

/-- Whether a token is a parenthesis. -/
def isParenthesis : Token → Bool
  | .opening | .closing => true
  | _ => false

/-- What a token stands for, given whether an operand is expected where it is. -/
def meaning : Bool → Token → List Token
  | _, .opening | _, .closing => []
  | true, .operator (.binary .add) => []
  | true, .operator (.binary .sub) => [.operator .neg]
  | _, token => [token]

/-- What tokens stand for, in their order. -/
def meanings : Bool → List Token → List Token
  | _, [] => []
  | expecting, token :: rest => token.meaning expecting ++ meanings token.expectsOperand rest

theorem isParenthesis_of_mem_meaning {expecting : Bool} {token meant : Token}
    (member : meant ∈ token.meaning expecting) : meant.isParenthesis = false := by
  unfold meaning at member
  split at member
  · cases member
  · cases member
  · cases member
  · rw [List.mem_singleton.mp member]
    rfl
  · rename_i no_opening no_closing _ _
    rw [List.mem_singleton.mp member]
    cases token with
    | opening => exact absurd rfl no_opening
    | closing => exact absurd rfl no_closing
    | _ => rfl

theorem isParenthesis_of_mem_meanings {expecting : Bool} {tokens : List Token} {meant : Token}
    (member : meant ∈ meanings expecting tokens) : meant.isParenthesis = false := by
  induction tokens generalizing expecting with
  | nil => cases member
  | cons token rest ih =>
      rcases List.mem_append.mp member with here | behind
      · exact isParenthesis_of_mem_meaning here
      · exact ih behind

/-- Where no sign is expected, or there is none, an operator stands for itself. -/
theorem meaning_operator {expecting : Bool} {op : Operator}
    (no_plus : expecting = true → op = .binary .add → False)
    (no_minus : expecting = true → op = .binary .sub → False) :
    meaning expecting (.operator op) = [.operator op] := by
  cases op with
  | neg => cases expecting <;> rfl
  | binary op =>
      cases expecting with
      | false => cases op <;> rfl
      | true =>
          cases op with
          | add => exact (no_plus rfl rfl).elim
          | sub => exact (no_minus rfl rfl).elim
          | mul | div | pow => rfl

end Token

namespace Postfix

section Conversion

variable {stack : List Waiting} {expecting : Bool} {tokens output : List Token}

theorem output_of_drain (drained : drain stack = .ok output) :
    output = stack.flatMap Waiting.released := by
  obtain ⟨operators, rfl, rfl⟩ := eq_operators_of_drain drained
  exact (Waiting.released_operators operators).symm

/-- What waits on a stack is let go of in two parts. -/
theorem released_split (released : Waiting → Bool) (stack : List Waiting) :
    stack.flatMap Waiting.released =
      (stack.takeWhile released).flatMap Waiting.released ++
        (stack.dropWhile released).flatMap Waiting.released := by
  rw [← List.flatMap_append, List.takeWhile_append_dropWhile]

/-- **No token is lost, put out twice or made up.** The output is a permutation of what waits and of
what the tokens stand for. -/
theorem perm_shunt (converted : shunt stack expecting tokens = .ok output) :
    output.Perm (stack.flatMap Waiting.released ++ Token.meanings expecting tokens) := by
  -- A token is put out at once or waits; what waits moves to the output in front of the rest.
  fun_induction shunt stack expecting tokens generalizing output with
  | case1 stack expecting =>
      rw [output_of_drain converted, Token.meanings, List.append_nil]
  | case2 stack expecting value rest ih =>
      obtain ⟨inner, read, rfl⟩ := Operands.ok_of_map_ok converted
      exact ((ih read).cons _).trans List.perm_middle.symm
  | case3 stack expecting f rest ih => exact (ih converted).trans List.perm_middle.symm
  | case4 stack expecting f rest bare => cases converted
  | case5 stack expecting rest ih => exact ih converted
  | case6 stack expecting rest empty => cases converted
  | case7 stack expecting rest group below stopped ih =>
      obtain ⟨inner, read, rfl⟩ := Operands.ok_of_map_ok converted
      show List.Perm _ (stack.flatMap Waiting.released ++ Token.meanings false rest)
      rw [released_split Waiting.isOperator stack, stopped, List.flatMap_cons, ← List.append_assoc,
        List.append_assoc _ _ (Token.meanings false rest)]
      exact (ih read).append_left _
  | case8 stack rest ih => exact ih converted
  | case9 stack rest ih => exact (ih converted).trans List.perm_middle.symm
  | case10 stack rest ih => exact (ih converted).trans List.perm_middle.symm
  | case11 stack expecting op rest no_plus no_minus no_sign ih =>
      obtain ⟨inner, read, rfl⟩ := Operands.ok_of_map_ok converted
      rw [released_split (Waiting.yieldsTo op) stack, Token.meanings,
        Token.meaning_operator no_plus no_minus, List.append_assoc]
      exact ((ih read).trans List.perm_middle.symm).append_left _

theorem numbers_released (stack : List Waiting) :
    (stack.flatMap Waiting.released).filter Token.isNumber = [] := by
  rw [List.filter_eq_nil_iff]
  intro token member
  obtain ⟨entry, -, released⟩ := List.mem_flatMap.mp member
  rcases entry with op | (_ | f)
  · rw [List.mem_singleton.mp released]
    exact Bool.false_ne_true
  · cases released
  · rw [List.mem_singleton.mp released]
    exact Bool.false_ne_true

/-- **The numbers keep their order.** -/
theorem numbers_shunt (converted : shunt stack expecting tokens = .ok output) :
    output.filter Token.isNumber = tokens.filter Token.isNumber := by
  fun_induction shunt stack expecting tokens generalizing output with
  | case1 stack expecting => rw [output_of_drain converted, numbers_released, List.filter_nil]
  | case2 stack expecting value rest ih =>
      obtain ⟨inner, read, rfl⟩ := Operands.ok_of_map_ok converted
      exact congrArg (.number value :: ·) (ih read)
  | case3 stack expecting f rest ih => exact ih converted
  | case4 stack expecting f rest bare => cases converted
  | case5 stack expecting rest ih => exact ih converted
  | case6 stack expecting rest empty => cases converted
  | case7 stack expecting rest group below stopped ih =>
      obtain ⟨inner, read, rfl⟩ := Operands.ok_of_map_ok converted
      have waiting := numbers_released (stack.takeWhile Waiting.isOperator ++ [group])
      rw [List.flatMap_append, List.flatMap_singleton] at waiting
      rw [List.filter_append, waiting]
      exact ih read
  | case8 stack rest ih => exact ih converted
  | case9 stack rest ih => exact ih converted
  | case10 stack rest ih => exact ih converted
  | case11 stack expecting op rest no_plus no_minus no_sign ih =>
      obtain ⟨inner, read, rfl⟩ := Operands.ok_of_map_ok converted
      rw [List.filter_append, numbers_released]
      exact ih read

end Conversion

/-- The evaluation reports a mismatch of parentheses only where there is one. -/
theorem exists_isParenthesis {detailed : Bool} {tokens : List Token}
    (failed : (evaluate detailed tokens).2 = .error (.malformed .mismatchedParentheses)) :
    ∃ token ∈ tokens, token.isParenthesis = true := by
  rcases result_eq_error_iff.mp failed with ⟨before, token, after, stack, rfl, -, fails⟩ | ⟨same, -⟩
  · refine ⟨token, List.mem_append_right before List.mem_cons_self, ?_⟩
    cases fails with
    | opening => rfl
    | closing => rfl
  · cases same

/-- **The conversion fails for its parentheses only, and rearranges otherwise.** It fails exactly if
there is a function without its parenthesis, a closing parenthesis with none open before it or one
that is still open at the end, and reports the first of these. What it puts out holds no parenthesis
and is a permutation of what the tokens stand for, with the numbers in their order. So the evaluation
of it never comes to a parenthesis. -/
theorem ofInfix_rearranges (tokens : List Token) :
    ((∃ cause, ofInfix tokens = .error cause) ↔
        ∃ place cause, Brackets.FaultAt tokens place cause) ∧
      (∀ cause, ofInfix tokens = .error cause ↔ Brackets.FirstFault tokens cause) ∧
      ∀ output, ofInfix tokens = .ok output →
        (∀ token ∈ output, token.isParenthesis = false) ∧
        output.filter Token.isNumber = tokens.filter Token.isNumber ∧
        output.Perm (Token.meanings true tokens) ∧
        ∀ detailed, (evaluate detailed output).2 ≠ .error (.malformed .mismatchedParentheses) := by
  have reported (cause : SyntaxError) :
      ofInfix tokens = .error cause ↔ Brackets.FirstFault tokens cause := by
    rw [← Brackets.fault?_eq_some_iff, ← show openGroups [] = 0 from rfl, ← cause?_shunt [] true]
    show _ ↔ cause? (ofInfix tokens) = some cause
    cases ofInfix tokens with
    | ok output => simp [cause?]
    | error first => simp [cause?]
  refine ⟨⟨?_, ?_⟩, reported, fun output converted => ?_⟩
  · rintro ⟨cause, failed⟩
    obtain ⟨place, fault, -⟩ := (reported cause).mp failed
    exact ⟨place, cause, fault⟩
  · rintro ⟨place, cause, fault⟩
    obtain ⟨first, isFirst⟩ := Brackets.exists_firstFault fault
    exact ⟨first, (reported first).mpr isFirst⟩
  · have permuted : output.Perm (Token.meanings true tokens) := perm_shunt converted
    have plain : ∀ token ∈ output, token.isParenthesis = false :=
      fun token member => Token.isParenthesis_of_mem_meanings (permuted.mem_iff.mp member)
    refine ⟨plain, numbers_shunt converted, permuted, fun detailed failed => ?_⟩
    obtain ⟨token, member, parenthesis⟩ := exists_isParenthesis failed
    rw [plain token member] at parenthesis
    cases parenthesis

/-- `-2*(+3^)abs(4)-`, which is no sentence but has its parentheses in order. -/
def unfinishedTokens : List Token :=
  [.operator (.binary .sub), .number 2, .operator (.binary .mul), .opening,
    .operator (.binary .add), .number 3, .operator (.binary .pow), .closing, .function .abs,
    .opening, .number 4, .closing, .operator (.binary .sub)]

/-- Its operators and calls behind their operands, as far as there are any. -/
def unfinishedOutput : List Token :=
  [.number 2, .operator .neg, .number 3, .operator (.binary .pow), .number 4, .function .abs,
    .operator (.binary .mul), .operator (.binary .sub)]

theorem ofInfix_rearranges_unfinished :
    ofInfix unfinishedTokens = .ok unfinishedOutput ∧
      (∀ token ∈ unfinishedOutput, token.isParenthesis = false) ∧
      unfinishedOutput.filter Token.isNumber = unfinishedTokens.filter Token.isNumber ∧
      unfinishedOutput.Perm
        [.operator .neg, .number 2, .operator (.binary .mul), .number 3, .operator (.binary .pow),
          .function .abs, .number 4, .operator (.binary .sub)] ∧
      ∀ detailed, (evaluate detailed unfinishedOutput).2 ≠
        .error (.malformed .mismatchedParentheses) := by
  have converted : ofInfix unfinishedTokens = .ok unfinishedOutput := rfl
  obtain ⟨-, -, rearranged⟩ := ofInfix_rearranges unfinishedTokens
  exact ⟨converted, rearranged _ converted⟩

end Postfix

end Reckoner
