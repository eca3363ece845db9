import Reckoner.Proofs.Expression.Conversion
import Reckoner.Proofs.Expression.Operands

/-!
# A group in the place of a number

Reading some tokens either fails or puts out tokens and goes on from another stack, whatever follows
(`stops_or_advances`). A group runs on a stack of its own: an open parenthesis yields to no
operator, so nothing inside the group reaches what waits below it (`shunt_enclosed`). Hence a group
does to the conversion what a number in its place does, except that its own postfix order is put
out.
-/

namespace Reckoner.Postfix

/-! ## Tokens in front -/

/-- Reading the tokens puts out the given ones and goes on from another state of the conversion. -/
def Advances (stack : List Waiting) (expecting : Bool) (tokens output : List Token)
    (reached : List Waiting) (next : Bool) : Prop :=
  ∀ rest, shunt stack expecting (tokens ++ rest) = (output ++ ·) <$> shunt reached next rest

/-- Reading the tokens fails. -/
def Stops (stack : List Waiting) (expecting : Bool) (tokens : List Token) (cause : SyntaxError) :
    Prop :=
  ∀ rest, shunt stack expecting (tokens ++ rest) = .error cause

/-- What reading some tokens comes to, whatever follows them. -/
def StopsOrAdvances (stack : List Waiting) (expecting : Bool) (tokens : List Token) : Prop :=
  (∃ cause, Stops stack expecting tokens cause) ∨
    ∃ output reached next, Advances stack expecting tokens output reached next

theorem map_nil_append (outcome : Except SyntaxError (List Token)) :
    ([] ++ ·) <$> outcome = outcome := by
  cases outcome <;> rfl

/-- A step that puts out tokens leaves the rest of the reading to what comes behind it. -/
theorem StopsOrAdvances.of_step {stack reached : List Waiting} {expecting next : Bool}
    {tokens : List Token} (first output : List Token)
    (step : ∀ rest,
      shunt stack expecting (first ++ rest) = (output ++ ·) <$> shunt reached next rest)
    (behind : StopsOrAdvances reached next tokens) :
    StopsOrAdvances stack expecting (first ++ tokens) := by
  rcases behind with ⟨cause, stops⟩ | ⟨later, last, final, advances⟩
  · left
    refine ⟨cause, fun rest => ?_⟩
    rw [List.append_assoc, step, stops]
    rfl
  · right
    refine ⟨output ++ later, last, final, fun rest => ?_⟩
    rw [List.append_assoc, step, advances, map_append_map_append]

/-- The same of a step that puts out nothing. -/
theorem StopsOrAdvances.of_silent_step {stack reached : List Waiting} {expecting next : Bool}
    {tokens : List Token} (first : List Token)
    (step : ∀ rest, shunt stack expecting (first ++ rest) = shunt reached next rest)
    (behind : StopsOrAdvances reached next tokens) :
    StopsOrAdvances stack expecting (first ++ tokens) := by
  refine .of_step first [] (fun rest => ?_) behind
  rw [step, map_nil_append]

/-- The tokens do not end with a function, whose parenthesis would have to follow. -/
def IsComplete (tokens : List Token) : Prop := ∀ f, tokens.getLast? ≠ some (.function f)

theorem IsComplete.tail {token : Token} {tokens : List Token}
    (complete : IsComplete (token :: tokens)) : IsComplete tokens := by
  intro f last
  apply complete f
  rw [List.getLast?_cons, last]
  rfl

/-- **Tokens in front stop the conversion or advance it**, whatever follows them. -/
theorem stops_or_advances {stack : List Waiting} {expecting : Bool} {tokens : List Token}
    (complete : IsComplete tokens) : StopsOrAdvances stack expecting tokens := by
  fun_induction shunt stack expecting tokens with
  | case1 stack expecting =>
      right
      refine ⟨[], stack, expecting, fun rest => ?_⟩
      rw [map_nil_append, List.nil_append]
  | case2 stack expecting value tokens ih =>
      have step (rest : List Token) := shunt_number stack expecting rest value
      exact .of_step [.number value] [.number value] step (ih complete.tail)
  | case3 stack expecting f tokens ih =>
      have step (rest : List Token) := shunt_call stack expecting rest f
      exact .of_silent_step [.function f, .opening] step (ih complete.tail.tail)
  | case4 stack expecting f tokens bare =>
      -- The one place where a reader looks ahead: that something follows is what `complete` says.
      left
      refine ⟨.missingArguments f, fun rest => ?_⟩
      rcases tokens with _ | ⟨token, tokens⟩
      · exact absurd rfl (complete f)
      · rw [List.cons_append, List.cons_append, shunt]
        intro after same
        cases same
        exact bare tokens rfl
  | case5 stack expecting tokens ih =>
      have step (rest : List Token) := shunt_opening stack expecting rest
      exact .of_silent_step [.opening] step (ih complete.tail)
  | case6 stack expecting tokens empty =>
      left
      refine ⟨.mismatchedParentheses, fun rest => ?_⟩
      rw [List.cons_append, shunt, empty]
  | case7 stack expecting tokens group below stopped ih =>
      refine .of_step [.closing]
        ((stack.takeWhile Waiting.isOperator).flatMap Waiting.released ++ group.released)
        (fun rest => ?_) (ih complete.tail)
      rw [List.singleton_append, shunt, stopped]
  | case8 stack tokens ih =>
      have step (rest : List Token) := shunt_plus stack rest
      exact .of_silent_step [.operator (.binary .add)] step (ih complete.tail)
  | case9 stack tokens ih =>
      have step (rest : List Token) := shunt_minus stack rest
      exact .of_silent_step [.operator (.binary .sub)] step (ih complete.tail)
  | case10 stack tokens ih =>
      exact .of_silent_step [.operator .neg] (fun rest => rfl) (ih complete.tail)
  | case11 stack expecting op tokens no_plus no_minus no_sign ih =>
      refine .of_step [.operator op]
        ((stack.takeWhile (Waiting.yieldsTo op)).flatMap Waiting.released)
        (fun rest => ?_) (ih complete.tail)
      rw [List.singleton_append, shunt]
      · exact no_plus
      · exact no_minus
      · exact no_sign

/-! ## A group on top of a stack -/

/-- What lets go of no group lets go of the same operators with or without a group below. -/
theorem release_above {released : Waiting → Bool} {called : Option Function}
    (kept : released (.group called) = false) (above below : List Waiting) :
    (above ++ .group called :: below).takeWhile released = above.takeWhile released ∧
      (above ++ .group called :: below).dropWhile released =
        above.dropWhile released ++ .group called :: below := by
  induction above with
  | nil => simp [kept]
  | cons entry above ih =>
      cases gone : released entry with
      | true => simp [gone, ih]
      | false => simp [gone]

theorem eq_operators_of_drain {stack : List Waiting} {output : List Token}
    (drained : drain stack = .ok output) :
    ∃ operators : List Operator, stack = operators.map .operator ∧
      output = operators.map .operator := by
  induction stack generalizing output with
  | nil =>
      cases drained
      exact ⟨[], rfl, rfl⟩
  | cons entry below ih =>
      cases entry with
      | group called => cases drained
      | operator op =>
          rw [drain] at drained
          cases rest : drain below with
          | error cause =>
              rw [rest] at drained
              cases drained
          | ok later =>
              rw [rest] at drained
              cases drained
              obtain ⟨operators, rfl, rfl⟩ := ih rest
              exact ⟨op :: operators, rfl, rfl⟩

/-- **Tokens that can be converted by themselves can be converted in a group**, with the same
output; the group then goes, and what waits below it is as it was. -/
theorem shunt_enclosed {above : List Waiting} {expecting : Bool} {tokens output : List Token}
    (converted : shunt above expecting tokens = .ok output) (called : Option Function)
    (below : List Waiting) (rest : List Token) :
    shunt (above ++ .group called :: below) expecting (tokens ++ .closing :: rest) =
      (output ++ (Waiting.group called).released ++ ·) <$> shunt below false rest := by
  -- The two runs go side by side; the stack of the enclosed one has the group at its bottom.
  fun_induction shunt above expecting tokens generalizing output with
  | case1 above expecting =>
      obtain ⟨operators, rfl, rfl⟩ := eq_operators_of_drain converted
      exact shunt_closing below expecting rest operators called
  | case2 above expecting value tokens ih =>
      obtain ⟨inner, read, rfl⟩ := Operands.ok_of_map_ok converted
      rw [List.cons_append, shunt_number, ih read, Functor.map_map]
      rfl
  | case3 above expecting f tokens ih =>
      rw [List.cons_append, List.cons_append, shunt_call, ← List.cons_append, ih converted]
  | case4 above expecting f tokens bare => cases converted
  | case5 above expecting tokens ih =>
      rw [List.cons_append, shunt_opening, ← List.cons_append, ih converted]
  | case6 above expecting tokens empty => cases converted
  | case7 above expecting tokens group inside stopped ih =>
      obtain ⟨inner, read, rfl⟩ := Operands.ok_of_map_ok converted
      -- The closing parenthesis finds its group before it could reach the enclosing one.
      obtain ⟨taken, left⟩ := @release_above Waiting.isOperator called rfl above below
      rw [stopped, List.cons_append] at left
      rw [List.cons_append, shunt, taken, left]
      simp only [ih read, Functor.map_map, List.append_assoc]
  | case8 above tokens ih =>
      rw [List.cons_append, shunt_plus, ih converted]
  | case9 above tokens ih =>
      rw [List.cons_append, shunt_minus, ← List.cons_append, ih converted]
  | case10 above tokens ih =>
      rw [List.cons_append, shunt, ← List.cons_append, ih converted]
  | case11 above expecting op tokens no_plus no_minus no_sign ih =>
      obtain ⟨inner, read, rfl⟩ := Operands.ok_of_map_ok converted
      obtain ⟨taken, left⟩ := @release_above (Waiting.yieldsTo op) called rfl above below
      rw [List.cons_append, shunt, taken, left, ← List.cons_append]
      · simp only [ih read, Functor.map_map, List.append_assoc]
      · exact no_plus
      · exact no_minus
      · exact no_sign

/-- A group is one operand: it puts out its own postfix order where a number puts out itself. -/
theorem shunt_group {inside output : List Token} (converted : ofInfix inside = .ok output)
    (stack : List Waiting) (expecting : Bool) (rest : List Token) :
    shunt stack expecting ([.opening] ++ inside ++ [.closing] ++ rest) =
      (output ++ ·) <$> shunt stack false rest := by
  have enclosed := shunt_enclosed converted none stack rest
  rw [List.nil_append] at enclosed
  rw [List.append_assoc, List.append_assoc, List.singleton_append, List.singleton_append,
    shunt_opening, enclosed]
  simp only [Waiting.released, List.append_nil]

/-- **The law of substitution.** Between tokens that do not end with a function and any others, a
group does what a number does: either the conversion fails with one and the same error whichever of
them stands there, or it succeeds for all of them, and the number itself, or the postfix order of
the group as one block, stands between the same two parts of the output. -/
theorem ofInfix_group {before : List Token} (after : List Token)
    (complete : ∀ f, before.getLast? ≠ some (.function f)) :
    (∃ cause,
      (∀ value, ofInfix (before ++ [.number value] ++ after) = .error cause) ∧
      ∀ inside output, ofInfix inside = .ok output →
        ofInfix (before ++ [.opening] ++ inside ++ [.closing] ++ after) = .error cause) ∨
    ∃ left right,
      (∀ value, ofInfix (before ++ [.number value] ++ after) =
        .ok (left ++ [.number value] ++ right)) ∧
      ∀ inside output, ofInfix inside = .ok output →
        ofInfix (before ++ [.opening] ++ inside ++ [.closing] ++ after) =
          .ok (left ++ output ++ right) := by
  rcases @stops_or_advances [] true before complete with ⟨cause, stops⟩ |
    ⟨left, reached, next, advances⟩
  · left
    refine ⟨cause, fun value => ?_, fun inside output converted => ?_⟩
    · rw [ofInfix, List.append_assoc, stops]
    · rw [ofInfix, List.append_assoc, List.append_assoc, List.append_assoc, stops]
  · have number (value : Float) : ofInfix (before ++ [.number value] ++ after) =
        (left ++ [.number value] ++ ·) <$> shunt reached false after := by
      rw [ofInfix, List.append_assoc, advances, List.singleton_append, shunt_number,
        ← map_append_map_append]
      rfl
    have group {inside output : List Token} (converted : ofInfix inside = .ok output) :
        ofInfix (before ++ [.opening] ++ inside ++ [.closing] ++ after) =
          (left ++ output ++ ·) <$> shunt reached false after := by
      have same : before ++ [.opening] ++ inside ++ [.closing] ++ after =
          before ++ ([.opening] ++ inside ++ [.closing] ++ after) := by
        simp only [List.append_assoc]
      rw [ofInfix, same, advances, shunt_group converted, map_append_map_append]
    cases behind : shunt reached false after with
    | error cause =>
        left
        refine ⟨cause, fun value => ?_, fun inside output converted => ?_⟩
        · rw [number, behind]
          rfl
        · rw [group converted, behind]
          rfl
    | ok right =>
        right
        refine ⟨left, right, fun value => ?_, fun inside output converted => ?_⟩
        · rw [number, behind]
          rfl
        · rw [group converted, behind]
          rfl

/-- The group of `2*(1+3)^2` in the place of a number. -/
theorem ofInfix_group_power :
    (∀ f, [Token.number 2, .operator (.binary .mul)].getLast? ≠ some (.function f)) ∧
      ofInfix [.number 1, .operator (.binary .add), .number 3] =
        .ok [.number 1, .number 3, .operator (.binary .add)] ∧
      ∃ left right,
        (∀ value, ofInfix ([.number 2, .operator (.binary .mul)] ++ [.number value] ++
            [.operator (.binary .pow), .number 2]) = .ok (left ++ [.number value] ++ right)) ∧
        ofInfix ([.number 2, .operator (.binary .mul)] ++ [.opening] ++
            [.number 1, .operator (.binary .add), .number 3] ++ [.closing] ++
            [.operator (.binary .pow), .number 2]) =
          .ok (left ++ [.number 1, .number 3, .operator (.binary .add)] ++ right) := by
  have complete : ∀ f,
      [Token.number 2, .operator (.binary .mul)].getLast? ≠ some (.function f) := by simp
  have converted : ofInfix [.number 1, .operator (.binary .add), .number 3] =
      .ok [.number 1, .number 3, .operator (.binary .add)] := rfl
  refine ⟨complete, converted, ?_⟩
  rcases ofInfix_group [.operator (.binary .pow), .number 2] complete with
    ⟨cause, fails, -⟩ | ⟨left, right, number, group⟩
  · cases fails 5
  · exact ⟨left, right, number, group _ _ converted⟩

end Reckoner.Postfix
