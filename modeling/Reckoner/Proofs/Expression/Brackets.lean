import Reckoner.Expression.Postfix

/-!
# Parentheses in the conversion

The conversion fails for one of three reasons only: a function without its parenthesis, a closing
parenthesis without an opening one, an opening one that is never closed. Reading from the left, the
first of these is reported (`Brackets.fault?_eq_some_iff`); numbers and operators have no part in it
(`Postfix.cause?_shunt`).
-/

namespace Reckoner

namespace Brackets

/-- What is wrong first with the parentheses of the unread tokens, given the count of open ones. -/
def fault? : Nat → List Token → Option SyntaxError
  | 0, [] => none
  | _ + 1, [] => some .mismatchedParentheses
  | depth, .function _ :: .opening :: rest => fault? (depth + 1) rest
  | _, .function f :: _ => some (.missingArguments f)
  | depth, .opening :: rest => fault? (depth + 1) rest
  | 0, .closing :: _ => some .mismatchedParentheses
  | depth + 1, .closing :: rest => fault? depth rest
  | depth, .number _ :: rest => fault? depth rest
  | depth, .operator _ :: rest => fault? depth rest

theorem fault?_number (depth : Nat) (value : Float) (rest : List Token) :
    fault? depth (.number value :: rest) = fault? depth rest := by
  cases depth <;> rfl

theorem fault?_operator (depth : Nat) (op : Operator) (rest : List Token) :
    fault? depth (.operator op :: rest) = fault? depth rest := by
  cases depth <;> rfl

theorem fault?_opening (depth : Nat) (rest : List Token) :
    fault? depth (.opening :: rest) = fault? (depth + 1) rest := by
  cases depth <;> rfl

theorem fault?_call (depth : Nat) (f : Function) (rest : List Token) :
    fault? depth (.function f :: .opening :: rest) = fault? (depth + 1) rest := by
  cases depth <;> rfl

theorem fault?_function (depth : Nat) (f : Function) (rest : List Token)
    (bare : ∀ after, rest = .opening :: after → False) :
    fault? depth (.function f :: rest) = some (.missingArguments f) := by
  cases depth <;> rw [fault?] <;> exact bare

/-! ## Faults by their places -/

/-- The count of open parentheses behind a token, given the count before it. One that closes nothing
leaves none open. -/
def openBehind : Nat → Token → Nat
  | count, .opening => count + 1
  | count, .closing => count - 1
  | count, _ => count

/-- The count of parentheses that tokens leave open. -/
def openCount (tokens : List Token) : Nat := tokens.foldl openBehind 0

/-- A fault of the parentheses at a place, with its error. -/
inductive FaultAt (tokens : List Token) (place : Nat) : SyntaxError → Prop where
  /-- A function, and no opening parenthesis directly behind it. -/
  | bare {f : Function} (here : tokens[place]? = some (.function f))
      (next : tokens[place + 1]? ≠ some .opening) : FaultAt tokens place (.missingArguments f)
  /-- A closing parenthesis, and none before it that is still open. -/
  | unopened (here : tokens[place]? = some .closing)
      (closed : openCount (tokens.take place) = 0) : FaultAt tokens place .mismatchedParentheses
  /-- The end, and a parenthesis that is still open. -/
  | unclosed (here : place = tokens.length) (opened : openCount tokens ≠ 0) :
      FaultAt tokens place .mismatchedParentheses

/-- The error of the first fault from the left. -/
def FirstFault (tokens : List Token) (cause : SyntaxError) : Prop :=
  ∃ place, FaultAt tokens place cause ∧ ∀ earlier < place, ∀ other, ¬FaultAt tokens earlier other

theorem FaultAt.fault?_eq {tokens : List Token} {place : Nat} {cause : SyntaxError}
    (fault : FaultAt tokens place cause) :
    fault? (openCount (tokens.take place)) (tokens.drop place) = some cause := by
  cases fault with
  | @bare f here next =>
      rw [List.drop_eq_getElem?_toList_append, here]
      refine fault?_function _ f (tokens.drop (place + 1)) fun after same => next ?_
      rw [← List.head?_drop, same]
      rfl
  | unopened here closed =>
      rw [List.drop_eq_getElem?_toList_append, here, closed]
      rfl
  | unclosed here opened =>
      obtain ⟨depth, count⟩ := Nat.exists_eq_succ_of_ne_zero opened
      rw [here, List.take_length, List.drop_length, count]
      rfl

/-- A token without a fault is passed. -/
theorem fault?_pass {tokens : List Token} {place : Nat} {token : Token}
    (here : tokens[place]? = some token) (sound : ∀ cause, ¬FaultAt tokens place cause) :
    fault? (openCount (tokens.take place)) (tokens.drop place) =
      fault? (openCount (tokens.take (place + 1))) (tokens.drop (place + 1)) := by
  have behind : openCount (tokens.take (place + 1)) =
      openBehind (openCount (tokens.take place)) token := by
    rw [List.take_add_one, here, openCount, List.foldl_append]
    rfl
  rw [List.drop_eq_getElem?_toList_append, here, behind]
  cases token with
  | number value => exact fault?_number _ value _
  | operator op => exact fault?_operator _ op _
  | opening => exact fault?_opening _ _
  | closing =>
      cases count : openCount (tokens.take place) with
      | zero => exact absurd (.unopened here count) (sound _)
      | succ depth => rfl
  | function f =>
      have next : tokens[place + 1]? = some .opening :=
        Classical.byContradiction fun bare => sound _ (.bare here bare)
      rw [List.drop_eq_getElem?_toList_append, next]
      exact (fault?_call _ f _).trans (fault?_opening _ _).symm

theorem fault?_of_sound_before {tokens : List Token} {place : Nat} (inside : place ≤ tokens.length)
    (sound : ∀ earlier < place, ∀ cause, ¬FaultAt tokens earlier cause) :
    fault? 0 tokens = fault? (openCount (tokens.take place)) (tokens.drop place) := by
  induction place with
  | zero => rfl
  | succ place ih =>
      rw [ih (Nat.le_of_succ_le inside) fun earlier before => sound earlier (Nat.lt_succ_of_lt before)]
      exact fault?_pass (List.getElem?_eq_getElem inside) (sound place (Nat.lt_succ_self place))

theorem FaultAt.place_le {tokens : List Token} {place : Nat} {cause : SyntaxError}
    (fault : FaultAt tokens place cause) : place ≤ tokens.length := by
  cases fault with
  | bare here next => exact Nat.le_of_lt (List.getElem?_eq_some_iff.mp here).1
  | unopened here closed => exact Nat.le_of_lt (List.getElem?_eq_some_iff.mp here).1
  | unclosed here opened => exact Nat.le_of_eq here

theorem FirstFault.fault?_eq {tokens : List Token} {cause : SyntaxError}
    (first : FirstFault tokens cause) : fault? 0 tokens = some cause := by
  obtain ⟨place, fault, sound⟩ := first
  rw [fault?_of_sound_before fault.place_le sound, fault.fault?_eq]

/-- Where there is a fault, there is a first one. -/
theorem exists_firstFault {tokens : List Token} {place : Nat} {cause : SyntaxError}
    (fault : FaultAt tokens place cause) : ∃ first, FirstFault tokens first := by
  induction place using Nat.strongRecOn generalizing cause with
  | ind place ih =>
      by_cases earlier : ∃ before < place, ∃ other, FaultAt tokens before other
      · obtain ⟨before, less, other, found⟩ := earlier
        exact ih before less found
      · exact ⟨cause, place, fault, fun before less other found =>
          earlier ⟨before, less, other, found⟩⟩

/-- **The error that is found is that of the first fault.** -/
theorem fault?_eq_some_iff {tokens : List Token} {cause : SyntaxError} :
    fault? 0 tokens = some cause ↔ FirstFault tokens cause := by
  refine ⟨fun found => ?_, FirstFault.fault?_eq⟩
  by_cases faulty : ∃ place other, FaultAt tokens place other
  · obtain ⟨place, other, fault⟩ := faulty
    obtain ⟨first, isFirst⟩ := exists_firstFault fault
    rw [isFirst.fault?_eq] at found
    cases found
    exact isFirst
  · -- Then all tokens are passed, and none is left open at the end.
    have sound : ∀ place cause, ¬FaultAt tokens place cause :=
      fun place other fault => faulty ⟨place, other, fault⟩
    have closed : openCount tokens = 0 :=
      Classical.byContradiction fun opened => sound _ _ (.unclosed rfl opened)
    rw [fault?_of_sound_before (Nat.le_refl _) fun place _ => sound place, List.take_length,
      List.drop_length, closed] at found
    cases found

end Brackets

namespace Postfix

/-- The error of a conversion, if it failed. -/
def cause? : Except SyntaxError (List Token) → Option SyntaxError
  | .ok _ => none
  | .error cause => some cause

theorem cause?_map (f : List Token → List Token) (outcome : Except SyntaxError (List Token)) :
    cause? (f <$> outcome) = cause? outcome := by
  cases outcome <;> rfl

/-- The count of groups that are open on a stack. -/
def openGroups (stack : List Waiting) : Nat := stack.countP (fun entry => !entry.isOperator)

theorem openGroups_operator (op : Operator) (stack : List Waiting) :
    openGroups (.operator op :: stack) = openGroups stack :=
  List.countP_cons_of_neg (by simp [Waiting.isOperator])

theorem openGroups_group (called : Option Function) (stack : List Waiting) :
    openGroups (.group called :: stack) = openGroups stack + 1 :=
  List.countP_cons_of_pos (by simp [Waiting.isOperator])

/-- Letting operators go closes no group. -/
theorem openGroups_dropWhile {released : Waiting → Bool}
    (operators : ∀ entry, released entry = true → entry.isOperator = true)
    (stack : List Waiting) : openGroups (stack.dropWhile released) = openGroups stack := by
  induction stack with
  | nil => rfl
  | cons entry below ih =>
      cases gone : released entry with
      | false => rw [List.dropWhile_cons_of_neg (by simp [gone])]
      | true =>
          rw [List.dropWhile_cons_of_pos gone, ih]
          cases entry with
          | operator op => rw [openGroups_operator]
          | group called => cases operators _ gone

/-- Only a group stops the letting go of all operators. -/
theorem isGroup_of_dropWhile {stack below : List Waiting} {entry : Waiting}
    (stopped : stack.dropWhile Waiting.isOperator = entry :: below) :
    ∃ called, entry = .group called := by
  have kept := List.head?_dropWhile_not Waiting.isOperator stack
  rw [stopped] at kept
  cases entry with
  | operator op => simp [Waiting.isOperator] at kept
  | group called => exact ⟨called, rfl⟩

theorem yieldsTo_isOperator (op : Operator) (entry : Waiting)
    (yields : entry.yieldsTo op = true) : entry.isOperator = true := by
  cases entry with
  | operator _ => rfl
  | group _ => cases yields

theorem cause?_drain (stack : List Waiting) :
    cause? (drain stack) = Brackets.fault? (openGroups stack) [] := by
  induction stack with
  | nil => rfl
  | cons entry below ih =>
      cases entry with
      | operator op => rw [drain, cause?_map, ih, openGroups_operator]
      | group called =>
          rw [openGroups_group]
          rfl

/-- **The conversion fails at the first fault of the parentheses**, and with its error. -/
theorem cause?_shunt (stack : List Waiting) (expecting : Bool) (tokens : List Token) :
    cause? (shunt stack expecting tokens) = Brackets.fault? (openGroups stack) tokens := by
  fun_induction shunt stack expecting tokens with
  | case1 stack => exact cause?_drain stack
  | case2 stack _ value rest ih => rw [cause?_map, ih, Brackets.fault?_number]
  | case3 stack _ f rest ih => rw [ih, openGroups_group, Brackets.fault?_call]
  | case4 stack _ f rest bare => rw [Brackets.fault?_function _ _ _ bare, cause?]
  | case5 stack _ rest ih => rw [ih, openGroups_group, Brackets.fault?_opening]
  | case6 stack _ rest empty =>
      -- All that waits are operators, so no group is open that could be closed.
      have closed := openGroups_dropWhile (fun _ operator => operator) stack
      rw [empty] at closed
      rw [← closed]
      rfl
  | case7 stack _ rest entry below stopped ih =>
      obtain ⟨called, rfl⟩ := isGroup_of_dropWhile stopped
      have closed := openGroups_dropWhile (fun _ operator => operator) stack
      rw [stopped, openGroups_group] at closed
      rw [cause?_map, ih, ← closed]
      rfl
  | case8 stack rest ih => rw [ih, Brackets.fault?_operator]
  | case9 stack rest ih => rw [ih, openGroups_operator, Brackets.fault?_operator]
  | case10 stack rest ih => rw [ih, openGroups_operator, Brackets.fault?_operator]
  | case11 stack _ op rest _ _ _ ih =>
      rw [cause?_map, ih, openGroups_operator, openGroups_dropWhile (yieldsTo_isOperator op),
        Brackets.fault?_operator]

end Postfix

end Reckoner
