import Reckoner.Proofs.Expression.Evaluation

/-!
# The steps of an evaluation

Tokens that are read without a failure leave values and steps behind (`Postfix.Traced`): a number is
left as it is, and an operator or a function takes its operands from the values, the right one last
in and first out, leaves its own finite value in their place and adds one step that holds it. The
steps of an evaluation are those of the tokens in front of the first one that fails
(`Postfix.exists_traced`). The value of the last step is always among those left, so it is the value
of the whole if that is the only one. A trace that takes the steps down one by one, or none of them,
makes no difference to the evaluation (`Postfix.evaluateInto_eq`).
-/

namespace Reckoner

/-- Whether a token applies something to operands. -/
def Token.isApplied (token : Token) : Bool := token.arity?.isSome

/-- The token that asks for an application. -/
def Application.token : Application → Token
  | .binary op _ _ => .operator (.binary op)
  | .negation _ => .operator .neg
  | .call f _ => .function f

/-- The step that records an application with its value. -/
def Application.step (application : Application) : Step := ⟨application, application.value⟩

theorem Application.perform_of_infinite {application : Application}
    (divisor : application.dividesByZero = false) (infinite : application.value.isFinite = false) :
    application.perform = .error .notFinite := by
  rw [perform, divisor, infinite]
  rfl

namespace Postfix

/-- Tokens that are read without a failure, the values that they leave on the stack, top first, and
the steps that they make. -/
inductive Traced : List Token → List Float → List Step → Prop where
  | nil : Traced [] [] []
  | number {tokens : List Token} {stack : List Float} {steps : List Step} {value : Float}
      (before : Traced tokens stack steps) (finite : value.isFinite = true) :
      Traced (tokens ++ [.number value]) (value :: stack) steps
  | binary {tokens : List Token} {below : List Float} {steps : List Step} {op : BinaryOperator}
      {left right : Float} (before : Traced tokens (right :: left :: below) steps)
      (sound : (Application.binary op left right).Sound) :
      Traced (tokens ++ [.operator (.binary op)])
        ((Application.binary op left right).value :: below)
        (steps ++ [(Application.binary op left right).step])
  | negation {tokens : List Token} {below : List Float} {steps : List Step} {operand : Float}
      (before : Traced tokens (operand :: below) steps)
      (sound : (Application.negation operand).Sound) :
      Traced (tokens ++ [.operator .neg]) ((Application.negation operand).value :: below)
        (steps ++ [(Application.negation operand).step])
  | call {tokens : List Token} {below : List Float} {steps : List Step} {f : Function}
      {argument : Float} (before : Traced tokens (argument :: below) steps)
      (sound : (Application.call f argument).Sound) :
      Traced (tokens ++ [.function f]) ((Application.call f argument).value :: below)
        (steps ++ [(Application.call f argument).step])

section Traces

variable {tokens : List Token} {stack : List Float} {steps : List Step}

/-- **One step for each operator and function**, in their order. -/
theorem Traced.tokens_eq (traced : Traced tokens stack steps) :
    steps.map (fun step => step.application.token) = tokens.filter Token.isApplied := by
  induction traced with
  | nil => rfl
  | number before finite ih =>
      rw [List.filter_append, ih]
      exact (List.append_nil _).symm
  | binary before sound ih | negation before sound ih | call before sound ih =>
      rw [List.map_append, List.filter_append, ih]
      rfl

/-- Each step holds the finite value of its application. -/
theorem Traced.sound (traced : Traced tokens stack steps) :
    ∀ step ∈ steps, step.result = step.application.value ∧ step.application.Sound := by
  induction traced with
  | nil => simp
  | number before finite ih => exact ih
  | binary before sound ih | negation before sound ih | call before sound ih =>
      intro step member
      rcases List.mem_append.mp member with earlier | last
      · exact ih step earlier
      · rw [List.mem_singleton.mp last]
        exact ⟨rfl, sound⟩

/-- **The value of the last step is still there.** A number that is read later comes on top of it,
and an application that takes it is the last step itself. -/
theorem Traced.last_mem (traced : Traced tokens stack steps) :
    ∀ last ∈ steps.getLast?, last.result ∈ stack := by
  induction traced with
  | nil => simp
  | number before finite ih => exact fun last isLast => List.mem_cons_of_mem _ (ih last isLast)
  | binary before sound ih | negation before sound ih | call before sound ih =>
      intro last isLast
      rw [List.getLast?_concat] at isLast
      cases isLast
      exact List.mem_cons_self

/-- The postfix order of a tree is read on top of what is there, if the tree has a value. -/
theorem Traced.push (traced : Traced tokens stack steps) {tree : Tree} {value : Float}
    (computes : tree.Computes value) :
    ∃ more, Traced (tokens ++ tree.postorder) (value :: stack) more := by
  induction computes generalizing tokens stack steps with
  | number finite => exact ⟨_, traced.number finite⟩
  | binary first second sound first_ih second_ih =>
      obtain ⟨_, left⟩ := first_ih traced
      obtain ⟨_, right⟩ := second_ih left
      rw [Tree.postorder, ← List.append_assoc, ← List.append_assoc]
      exact ⟨_, right.binary sound⟩
  | negation inner sound ih =>
      obtain ⟨_, operand⟩ := ih traced
      rw [Tree.postorder, ← List.append_assoc]
      exact ⟨_, operand.negation sound⟩
  | call inner sound ih =>
      obtain ⟨_, argument⟩ := ih traced
      rw [Tree.postorder, ← List.append_assoc]
      exact ⟨_, argument.call sound⟩

theorem Leaves.traced (leaves : Leaves tokens stack) : ∃ steps, Traced tokens stack steps := by
  induction leaves with
  | nil => exact ⟨[], .nil⟩
  | push before computes ih =>
      obtain ⟨steps, traced⟩ := ih
      exact traced.push computes

end Traces

/-! ## Steps of the machine -/

/-- A sound application is recorded in front of what comes behind it. -/
theorem evaluateOn_application {token : Token} {stack below : List Float}
    {application : Application}
    (made : Application.ofToken? token stack = some (application, below))
    (sound : application.Sound) (rest : List Token) :
    evaluateOn stack (token :: rest) =
      (application.step :: (evaluateOn (application.value :: below) rest).1,
        (evaluateOn (application.value :: below) rest).2) := by
  cases token with
  | number value => simp [Application.ofToken?] at made
  | opening => simp [Application.ofToken?] at made
  | closing => simp [Application.ofToken?] at made
  | operator op =>
      simp only [evaluateOn, made, sound.perform]
      rfl
  | function f =>
      simp only [evaluateOn, made, sound.perform]
      rfl

/-- **The steps of tokens come first**, and the evaluation goes on with the values they leave. -/
theorem Traced.evaluateOn_append {tokens : List Token} {stack : List Float} {steps : List Step}
    (traced : Traced tokens stack steps) (rest : List Token) :
    evaluateOn [] (tokens ++ rest) =
      (steps ++ (evaluateOn stack rest).1, (evaluateOn stack rest).2) := by
  induction traced generalizing rest with
  | nil => rfl
  | number before finite ih =>
      rw [List.append_assoc, ih, List.singleton_append, evaluateOn, if_pos finite]
  | binary before sound ih | negation before sound ih | call before sound ih =>
      rw [List.append_assoc, ih, List.singleton_append, evaluateOn_application rfl sound,
        List.append_assoc]
      rfl

/-- An application without a value makes no step, and nothing behind it does. -/
theorem steps_of_application {token : Token} {stack below : List Float}
    {application : Application} {cause : EvaluationError}
    (made : Application.ofToken? token stack = some (application, below))
    (failed : application.perform = .error cause) (rest : List Token) :
    (evaluateOn stack (token :: rest)).1 = [] := by
  cases token with
  | number value => simp [Application.ofToken?] at made
  | opening => simp [Application.ofToken?] at made
  | closing => simp [Application.ofToken?] at made
  | operator op => simp only [evaluateOn, made, failed]
  | function f => simp only [evaluateOn, made, failed]

/-- A token that fails makes no step, and nothing behind it does. -/
theorem steps_of_fails {token : Token} {stack : List Float} {cause : ExpressionError}
    (fails : token.Fails stack cause) (rest : List Token) :
    (evaluateOn stack (token :: rest)).1 = [] := by
  cases fails with
  | literal infinite =>
      rw [evaluateOn, infinite]
      rfl
  | opening => simp [evaluateOn]
  | closing => simp [evaluateOn]
  | @underflow _ _ count arity few =>
      have none_made := (Application.ofToken?_eq_none arity).mpr few
      cases token with
      | operator op => simp [evaluateOn, none_made]
      | function f => simp [evaluateOn, none_made]
      | number value => cases arity
      | opening => cases arity
      | closing => cases arity
  | @zeroDivisor divisor dividend _ zero =>
      have divided : (Application.binary .div dividend divisor).perform = .error .divisionByZero :=
        if_pos zero
      exact steps_of_application rfl divided rest
  | binary divisor infinite =>
      exact steps_of_application rfl (Application.perform_of_infinite divisor infinite) rest
  | negation infinite | call infinite =>
      exact steps_of_application rfl (Application.perform_of_infinite rfl infinite) rest

/-- Reading ends in front of tokens: there are none, or the first of them fails on the values. -/
def Halts (stack : List Float) : List Token → Prop
  | [] => True
  | token :: _ => ∃ cause, token.Fails stack cause

/-- **The steps of an evaluation are those of the tokens in front of the first failure.** -/
theorem exists_traced (tokens : List Token) :
    ∃ read rest stack, tokens = read ++ rest ∧ Halts stack rest ∧
      Traced read stack (evaluateOn [] tokens).1 := by
  rcases leaves_or_failsFirst tokens with
    ⟨stack, leaves⟩ | ⟨cause, before, token, after, stack, rfl, leaves, fails⟩
  · obtain ⟨steps, traced⟩ := leaves.traced
    have none_left : (evaluateOn stack []).1 = [] := by
      rcases stack with _ | ⟨value, _ | ⟨next, below⟩⟩ <;> simp [evaluateOn]
    have whole := traced.evaluateOn_append []
    rw [List.append_nil, none_left, List.append_nil] at whole
    refine ⟨tokens, [], stack, (List.append_nil _).symm, trivial, ?_⟩
    rw [whole]
    exact traced
  · obtain ⟨steps, traced⟩ := leaves.traced
    refine ⟨before, token :: after, stack, rfl, ⟨cause, fails⟩, ?_⟩
    rw [traced.evaluateOn_append, steps_of_fails fails, List.append_nil]
    exact traced

/-- The steps of tokens that have a value. -/
theorem traced_of_value {tokens : List Token} {value : Float}
    (valued : (evaluateOn [] tokens).2 = .ok value) :
    Traced tokens [value] (evaluateOn [] tokens).1 := by
  obtain ⟨steps, traced⟩ := (result_eq_ok_iff.mp valued).traced
  have whole := traced.evaluateOn_append []
  rw [List.append_nil] at whole
  rw [whole, evaluateOn, List.append_nil]
  exact traced

/-! ## The trace as it is kept -/

/-- The steps that were added so far, and whether steps are added at all. -/
structure Trace where
  detailed : Bool
  steps : List Step := []

/-- A step added in detailed mode. -/
def Trace.add (trace : Trace) (step : Step) : Trace :=
  if trace.detailed then { trace with steps := trace.steps ++ [step] } else trace

/-- The evaluation with a trace at hand, to which each application is added once it has its value. -/
def evaluateInto : Trace → List Float → List Token → Trace × Except ExpressionError Float
  | trace, [value], [] =>
    (trace, if value.isFinite then .ok value else .error (.failed .notFinite))
  | trace, _, [] => (trace, .error (.malformed .notOneValue))
  | trace, stack, .number value :: rest =>
    if value.isFinite then evaluateInto trace (value :: stack) rest
    else (trace, .error (.failed .notFinite))
  | trace, _, .opening :: _ => (trace, .error (.malformed .mismatchedParentheses))
  | trace, _, .closing :: _ => (trace, .error (.malformed .mismatchedParentheses))
  | trace, stack, token :: rest =>
    match Application.ofToken? token stack with
    | none => (trace, .error (.failed .missingOperand))
    | some (application, below) =>
      match application.perform with
      | .error cause => (trace, .error (.failed cause))
      | .ok value => evaluateInto (trace.add ⟨application, value⟩) (value :: below) rest

/-- A trace with steps added in detailed mode. -/
def Trace.addAll (trace : Trace) (steps : List Step) : Trace :=
  if trace.detailed then { trace with steps := trace.steps ++ steps } else trace

theorem Trace.addAll_nil (trace : Trace) : trace.addAll [] = trace := by
  rw [addAll, List.append_nil]
  split
  · rfl
  · rfl

theorem Trace.addAll_cons (trace : Trace) (step : Step) (steps : List Step) :
    trace.addAll (step :: steps) = (trace.add step).addAll steps := by
  obtain ⟨detailed, earlier⟩ := trace
  cases detailed with
  | false => rfl
  | true => simp [addAll, add]

/-- **The trace has no say in the evaluation**: it only takes the steps down. -/
theorem evaluateInto_eq (trace : Trace) (stack : List Float) (tokens : List Token) :
    evaluateInto trace stack tokens =
      (trace.addAll (evaluateOn stack tokens).1, (evaluateOn stack tokens).2) := by
  fun_induction evaluateInto trace stack tokens with
  | case1 trace value => rw [evaluateOn, Trace.addAll_nil]
  | case2 trace stack no_single =>
      rw [evaluateOn, Trace.addAll_nil]
      exact no_single
  | case3 trace stack value rest finite ih => rw [ih, evaluateOn, if_pos finite]
  | case4 trace stack value rest infinite => rw [evaluateOn, if_neg infinite, Trace.addAll_nil]
  | case5 | case6 => rw [evaluateOn, Trace.addAll_nil]
  | case7 trace stack token rest no_number no_opening no_closing none_made =>
      simp only [evaluateOn, none_made, Trace.addAll_nil]
  | case8 trace stack token rest no_number no_opening no_closing application below made cause
      failed =>
      simp only [evaluateOn, made, failed, Trace.addAll_nil]
  | case9 trace stack token rest no_number no_opening no_closing application below made value
      performed ih =>
      simp only [ih, evaluateOn, made, performed, Trace.addAll_cons]

/-- In either mode the outcome is that of an evaluation with an empty trace at hand. -/
theorem evaluateInto_new (detailed : Bool) (tokens : List Token) :
    evaluateInto ⟨detailed, []⟩ [] tokens =
      (⟨detailed, (evaluate detailed tokens).1⟩, (evaluate detailed tokens).2) := by
  rw [evaluateInto_eq]
  cases detailed with
  | true => rfl
  | false => rfl

/-- **An evaluation records what it applies.** Steps are recorded as they are made. Whether they are
does not change the result, and in quiet mode there are none. Otherwise there is one step, in order,
for each operator and function in front of the first token that fails, with the operands on which it
was applied, left before right, and its value, which is finite and was pushed in their place. Where
the tokens have a value, all their operators and functions are recorded, and the last step, if there
is one, holds that value. -/
theorem evaluate_steps (tokens : List Token) :
    (∀ detailed, evaluateInto ⟨detailed, []⟩ [] tokens =
        (⟨detailed, (evaluate detailed tokens).1⟩, (evaluate detailed tokens).2)) ∧
      ((evaluate true tokens).2 = (evaluate false tokens).2 ∧ (evaluate false tokens).1 = []) ∧
      (∃ read rest stack, tokens = read ++ rest ∧ Halts stack rest ∧
        Traced read stack (evaluate true tokens).1 ∧
        (evaluate true tokens).1.map (fun step => step.application.token) =
          read.filter Token.isApplied) ∧
      (∀ step ∈ (evaluate true tokens).1,
        step.result = step.application.value ∧ step.result.isFinite = true) ∧
      ∀ value, (evaluate true tokens).2 = .ok value →
        (evaluate true tokens).1.length = tokens.countP Token.isApplied ∧
        ∀ last ∈ (evaluate true tokens).1.getLast?, last.result = value := by
  have detailed : evaluate true tokens = evaluateOn [] tokens := rfl
  rw [detailed]
  obtain ⟨read, rest, stack, parts, halts, traced⟩ := exists_traced tokens
  refine ⟨fun mode => evaluateInto_new mode tokens, ⟨rfl, rfl⟩,
    ⟨read, rest, stack, parts, halts, traced, traced.tokens_eq⟩, fun step member => ?_,
    fun value valued => ?_⟩
  · obtain ⟨result, sound⟩ := traced.sound step member
    exact ⟨result, result ▸ sound.finite⟩
  · have whole := traced_of_value valued
    refine ⟨?_, fun last isLast => List.mem_singleton.mp (whole.last_mem last isLast)⟩
    rw [List.countP_eq_length_filter, ← whole.tokens_eq, List.length_map]

/-- The postfix order of `-(2-3*4)`. -/
def negativeDifference : List Token :=
  [.number 2, .number 3, .number 4, .operator (.binary .mul), .operator (.binary .sub),
    .operator .neg]

theorem evaluate_steps_difference :
    (evaluate true negativeDifference).2 = .ok 10 ∧
      (evaluate true negativeDifference).1 =
        [⟨.binary .mul 3 4, 12⟩, ⟨.binary .sub 2 12, -10⟩, ⟨.negation (-10), 10⟩] ∧
      (evaluate true negativeDifference).1.length = 3 ∧
      ∀ last ∈ (evaluate true negativeDifference).1.getLast?, last.result = 10 := by
  have valued : (evaluate true negativeDifference).2 = .ok 10 := by decide +kernel
  obtain ⟨-, -, -, -, complete⟩ := evaluate_steps negativeDifference
  exact ⟨valued, by decide +kernel, complete 10 valued⟩

end Postfix

end Reckoner
