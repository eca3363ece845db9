import Reckoner.Proofs.Keypad.Keys

/-!
# Operators from the keypad

The operator key lets only a minus start an expression and replaces an operator at its end, so that
no two stand side by side (`InOrder`). There are two ways round these rules and no others
(`Calculator.misplaces`): another operator replaces a minus that starts the expression, and the
percent key, which enters a division, does not look at what it stands behind.
-/

namespace Reckoner

/-- No operator but a minus comes first, and no operator stands beside another. -/
structure InOrder (expression : Text) : Prop where
  starts : ∀ c ∈ expression.head?, BinaryOperator.isSymbol c = true → c = '-'
  parted : expression.IsChain fun a b =>
    ¬(BinaryOperator.isSymbol a = true ∧ BinaryOperator.isSymbol b = true)

/-! ## Adding to an expression in order -/

theorem InOrder.front {front text : Text} (begins : front <+: text) (ordered : InOrder text) :
    InOrder front where
  starts := by
    intro c first symbol
    obtain ⟨rest, rfl⟩ := begins
    exact ordered.starts c (by rw [List.head?_append, first]; rfl) symbol
  parted := ordered.parted.prefix begins

/-- Any character but an operator may follow; an operator may not follow another one. -/
theorem inOrder_concat_iff {text : Text} {c : Char} :
    InOrder (text ++ [c]) ↔ InOrder text ∧ (BinaryOperator.isSymbol c = true →
      (text = [] → c = '-') ∧ ∀ last ∈ text.getLast?, BinaryOperator.isSymbol last = false) := by
  constructor
  · intro ordered
    refine ⟨ordered.front (List.prefix_append text [c]), fun symbol => ⟨?_, ?_⟩⟩
    · rintro rfl
      exact ordered.starts c rfl symbol
    · intro last ends
      have border := (List.isChain_append.mp ordered.parted).2.2 last ends c rfl
      simpa [symbol] using border
  · rintro ⟨ordered, apart⟩
    constructor
    · intro first member symbol
      cases text with
      | nil =>
          cases member
          exact (apart symbol).1 rfl
      | cons head rest => exact ordered.starts first member symbol
    · rw [List.isChain_append]
      refine ⟨ordered.parted, List.isChain_singleton c, ?_⟩
      intro last ends d same
      cases same
      rintro ⟨before, symbol⟩
      rw [(apart symbol).2 last ends] at before
      cases before

/-- An operator may follow what does not end in one. -/
theorem InOrder.concat {text : Text} {c : Char} (ordered : InOrder text) (proper : text ≠ [])
    (parted : ∀ last ∈ text.getLast?, BinaryOperator.isSymbol last = false) :
    InOrder (text ++ [c]) :=
  inOrder_concat_iff.mpr ⟨ordered, fun _ => ⟨fun empty => absurd empty proper, parted⟩⟩

/-- An operator may take the place of another one, but only a minus that of a minus that stands
alone. -/
theorem inOrder_replace_iff {front : Text} {last c : Char} (ordered : InOrder (front ++ [last]))
    (symbol : BinaryOperator.isSymbol last = true) (next : BinaryOperator.isSymbol c = true) :
    InOrder (front ++ [c]) ↔ (front ++ [last] = ['-'] → c = '-') := by
  obtain ⟨before, apart⟩ := inOrder_concat_iff.mp ordered
  obtain ⟨starts, parted⟩ := apart symbol
  have alone : front ++ [last] = ['-'] ↔ front = [] ∧ last = '-' := by
    simp [List.append_eq_singleton_iff]
  rw [inOrder_concat_iff, alone]
  constructor
  · rintro ⟨-, allowed⟩ ⟨empty, -⟩
    exact (allowed next).1 empty
  · intro allowed
    exact ⟨before, fun _ => ⟨fun empty => allowed ⟨empty, starts empty⟩, parted⟩⟩

theorem InOrder.append {text more : Text} (ordered : InOrder text)
    (plain : ∀ c ∈ more, BinaryOperator.isSymbol c = false) : InOrder (text ++ more) := by
  induction more generalizing text with
  | nil => rwa [List.append_nil]
  | cons c rest ih =>
      obtain ⟨first, others⟩ := List.forall_mem_cons.mp plain
      have longer : InOrder (text ++ [c]) := by
        rw [inOrder_concat_iff]
        refine ⟨ordered, fun symbol => ?_⟩
        rw [first] at symbol
        cases symbol
      simpa using ih longer others

/-- What the percent key enters starts and ends with an operator. -/
theorem inOrder_append_percent_iff {text : Text} (proper : text ≠ []) :
    InOrder (text ++ "/100*".toList) ↔
      InOrder text ∧ ∀ last ∈ text.getLast?, BinaryOperator.isSymbol last = false := by
  have pieces : text ++ "/100*".toList = text ++ ['/'] ++ "100".toList ++ ['*'] := by simp
  constructor
  · intro ordered
    have divided : InOrder (text ++ ['/']) := ordered.front ⟨"100*".toList, by simp⟩
    obtain ⟨before, apart⟩ := inOrder_concat_iff.mp divided
    exact ⟨before, (apart rfl).2⟩
  · rintro ⟨ordered, parted⟩
    have divided : InOrder (text ++ ['/']) := ordered.concat proper parted
    have plain : ∀ c ∈ "100".toList, BinaryOperator.isSymbol c = false := by simp; decide
    have counted : InOrder (text ++ ['/'] ++ "100".toList) := divided.append plain
    have zero : (text ++ ['/'] ++ "100".toList).getLast? = '0' := by simp
    rw [pieces]
    refine counted.concat (by simp) ?_
    rw [zero]
    rintro last ⟨⟩
    rfl

theorem inOrder_nil : InOrder [] := ⟨by simp, List.isChain_nil⟩

theorem inOrder_minus : InOrder ['-'] := ⟨by simp, List.isChain_singleton '-'⟩

/-- Expressions in order last: a displayed result has no operator but perhaps a minus at its
front. -/
theorem lasting_inOrder : Calculator.Lasting InOrder where
  front := InOrder.front
  shown := by
    intro x
    obtain ⟨sign, body, shown, marked, isShown⟩ := Calculator.exists_shown x
    rw [shown]
    have marks : InOrder sign := by
      rcases marked with rfl | rfl
      · exact inOrder_nil
      · exact inOrder_minus
    exact marks.append fun c member => BinaryOperator.isSymbol_of_isPlain (isShown.plain c member)

/-- A displayed result does not end in an operator. -/
theorem isSymbol_of_getLast?_plainText {x : Float} {last : Char}
    (ends : last ∈ (plainText x).getLast?) : BinaryOperator.isSymbol last = false := by
  obtain ⟨sign, body, shown, -, isShown⟩ := Calculator.exists_shown x
  rw [shown, List.getLast?_append_of_ne_nil _ isShown.proper] at ends
  exact BinaryOperator.isSymbol_of_isPlain (isShown.plain last (List.mem_of_getLast? ends))

namespace Calculator

/-- The key leaves an operator where none may stand: behind another one, or at the start. -/
def misplaces (calculator : Calculator) : Key → Bool
  | .operator symbol =>
    !calculator.showsResult && calculator.expression = ['-'] && symbol ≠ '-'
  | .percent =>
    !calculator.showsResult && calculator.expression.getLast?.any BinaryOperator.isSymbol
  | _ => false

theorem misplaces_operator (calculator : Calculator) (symbol : Char) :
    calculator.misplaces (.operator symbol) =
      (!calculator.showsResult && calculator.expression = ['-'] && symbol ≠ '-') := rfl

theorem misplaces_percent (calculator : Calculator) :
    calculator.misplaces .percent =
      (!calculator.showsResult &&
        calculator.expression.getLast?.any BinaryOperator.isSymbol) := rfl

/-! ## One key -/

variable {calculator : Calculator} (ordered : InOrder calculator.expression)

theorem continueFromResult_of_showsResult (shows : calculator.showsResult = true) :
    calculator.continueFromResult.expression = plainText calculator.lastResult := by
  rw [continueFromResult, if_pos shows]

theorem continueFromResult_of_not_showsResult (hidden : calculator.showsResult = false) :
    calculator.continueFromResult = calculator := by
  rw [continueFromResult, if_neg (by simp [hidden])]

include ordered

theorem inOrder_enterNumber {c : Char} (numeric : Lexeme.isNumeric c = true) :
    InOrder (calculator.enterNumber [c]).expression := by
  have fresh := lasting_inOrder.startAfresh ordered
  rw [enterNumber]
  split
  · exact fresh
  · refine fresh.append fun d member => ?_
    rw [List.mem_singleton.mp member]
    exact BinaryOperator.isSymbol_of_isPlain (Lexeme.isPlain_of_isNumeric numeric)

theorem inOrder_enterFunction (f : Function) :
    InOrder (calculator.enterFunction f).expression := by
  refine (lasting_inOrder.startAfresh ordered).append fun c member => ?_
  rcases List.mem_append.mp member with letter | opening
  · exact BinaryOperator.isSymbol_of_isPlain
      (Lexeme.isPlain_of_isPlainLetter (Lexeme.isPlainLetter_of_mem_name letter))
  · rw [List.mem_singleton.mp opening]
    rfl

/-- The operator key breaks the rules only behind a minus that stands alone. -/
theorem inOrder_enterOperator_iff (op : BinaryOperator) :
    InOrder (calculator.enterOperator op.symbol).expression ↔
      (calculator.continueFromResult.expression = ['-'] → op.symbol = '-') := by
  have base := lasting_inOrder.continueFromResult ordered
  rw [enterOperator]
  generalize calculator.continueFromResult = continued at base ⊢
  rcases List.eq_nil_or_concat' continued.expression with empty | ⟨front, last, whole⟩
  · rw [empty]
    show InOrder (if op.symbol = '-' then _ else _ : Calculator).expression ↔ _
    split
    · rename_i minus
      simp [append, empty, minus, inOrder_minus]
    · simp [empty, inOrder_nil]
  · rw [whole] at base
    simp only [whole, List.getLast?_concat, BinaryOperator.isSymbol_symbol, Bool.and_true]
    split
    · rename_i symbol
      rw [List.dropLast_concat]
      exact inOrder_replace_iff base symbol op.isSymbol_symbol
    · rename_i other
      refine iff_of_true ?_ fun alone => ?_
      · rw [append, whole]
        refine base.concat (by simp) fun behind ends => ?_
        rw [List.getLast?_concat, Option.mem_some_iff] at ends
        simpa [← ends] using other
      · have same : last = '-' := by simpa using congrArg List.getLast? alone
        rw [same] at other
        exact absurd rfl other

/-- The percent key breaks the rules exactly behind an operator. -/
theorem inOrder_percent_iff :
    InOrder calculator.percent.expression ↔
      ∀ last ∈ calculator.continueFromResult.expression.getLast?,
        BinaryOperator.isSymbol last = false := by
  have base := lasting_inOrder.continueFromResult ordered
  rw [percent]
  generalize calculator.continueFromResult = continued at base ⊢
  by_cases empty : continued.expression = []
  · simp [empty, inOrder_nil]
  · show InOrder (if continued.expression = [] then _ else _ : Calculator).expression ↔ _
    rw [if_neg empty, append, inOrder_append_percent_iff empty]
    simp [base]

/-- **What one key does to an expression in order.** -/
theorem inOrder_press_iff {key : Key} (keypad : key.IsKeypad) :
    InOrder (calculator.press key).expression ↔ calculator.misplaces key = false := by
  cases keypad with
  | number numeric => exact iff_of_true (inOrder_enterNumber ordered numeric) rfl
  | operator op =>
      rw [press, inOrder_enterOperator_iff ordered, misplaces_operator]
      cases shows : calculator.showsResult with
      | true =>
          rw [continueFromResult_of_showsResult shows]
          refine iff_of_true (fun alone => ?_) rfl
          have ends : '-' ∈ (plainText calculator.lastResult).getLast? := by rw [alone]; rfl
          cases isSymbol_of_getLast?_plainText ends
      | false =>
          rw [continueFromResult_of_not_showsResult shows]
          simp
  | function f => exact iff_of_true (inOrder_enterFunction ordered f) rfl
  | percent =>
      rw [press, inOrder_percent_iff ordered, misplaces_percent]
      cases shows : calculator.showsResult with
      | true =>
          rw [continueFromResult_of_showsResult shows]
          exact iff_of_true (fun last ends => isSymbol_of_getLast?_plainText ends) rfl
      | false =>
          rw [continueFromResult_of_not_showsResult shows]
          cases calculator.expression.getLast? with
          | none => simp
          | some last => simp
  | backspace => exact iff_of_true (lasting_inOrder.backspace ordered) rfl
  | clear => exact iff_of_true inOrder_nil rfl
  | equals detailed => exact iff_of_true (lasting_inOrder.calculate ordered detailed) rfl

omit ordered

/-! ## Rows of keys -/

theorem pressAll_concat (calculator : Calculator) (keys : List Key) (key : Key) :
    calculator.pressAll (keys ++ [key]) = (calculator.pressAll keys).press key := List.foldl_append

/-- **When an expression stays in order.** While keys of the keypad are pressed on a new calculator,
no operator but a minus starts the expression and no two operators stand side by side, as long as no
operator comes behind a minus that stands alone in its place, and no percent behind an operator;
either of them breaks the rules at once. -/
theorem inOrder_pressAll_iff {keys : List Key} (keypad : ∀ key ∈ keys, key.IsKeypad) :
    (∀ front, front <+: keys → InOrder (fresh.pressAll front).expression) ↔
      ∀ front key, front ++ [key] <+: keys → (fresh.pressAll front).misplaces key = false := by
  have among {front : List Key} {key : Key} (begins : front ++ [key] <+: keys) :
      front <+: keys ∧ key.IsKeypad :=
    ⟨(List.prefix_append front [key]).trans begins, keypad key (begins.subset (by simp))⟩
  constructor
  · intro ordered front key begins
    obtain ⟨shorter, isKeypad⟩ := among begins
    rw [← inOrder_press_iff (ordered front shorter) isKeypad, ← pressAll_concat]
    exact ordered _ begins
  · intro placed front
    induction front using List.reverseRecOn with
    | nil => exact fun _ => inOrder_nil
    | append_singleton front key ih =>
        intro begins
        obtain ⟨shorter, isKeypad⟩ := among begins
        rw [pressAll_concat, inOrder_press_iff (ih shorter) isKeypad]
        exact placed front key begins

/-- An operator in place of another one, a result, and the percent key behind it. -/
def orderlyKeys : List Key :=
  [.operator '-', .number ['5'], .operator '+', .operator '*', .number ['2'], .equals false,
    .percent]

theorem inOrder_pressAll_orderly :
    (∀ key ∈ orderlyKeys, key.IsKeypad) ∧
      (∀ front, front <+: orderlyKeys → InOrder (fresh.pressAll front).expression) ∧
      (fresh.pressAll orderlyKeys).expression = "-10/100*".toList := by
  have keypad : ∀ key ∈ orderlyKeys, key.IsKeypad := by
    simp only [orderlyKeys, List.mem_cons, List.not_mem_nil, or_false, forall_eq_or_imp, forall_eq]
    exact ⟨.operator .sub, .number rfl, .operator .add, .operator .mul, .number rfl, .equals false,
      .percent⟩
  have placed : ∀ front ∈ orderlyKeys.inits, ∀ key ∈ orderlyKeys,
      front ++ [key] ∈ orderlyKeys.inits → (fresh.pressAll front).misplaces key = false := by
    decide +kernel
  refine ⟨keypad, (inOrder_pressAll_iff keypad).mpr ?_, by decide +kernel⟩
  intro front key begins
  have shorter := (List.prefix_append front [key]).trans begins
  exact placed front ((List.mem_inits _ _).mpr shorter) key (begins.subset (by simp))
    ((List.mem_inits _ _).mpr begins)

/-- A plus in the place of the minus that started the expression, and a percent behind a plus. -/
theorem not_inOrder_of_misplaced :
    (∀ key ∈ [Key.operator '-', .operator '+'], key.IsKeypad) ∧
      ¬InOrder (fresh.pressAll [.operator '-', .operator '+']).expression ∧
      (∀ key ∈ [Key.number ['5'], .operator '+', .percent], key.IsKeypad) ∧
      ¬InOrder (fresh.pressAll [.number ['5'], .operator '+', .percent]).expression := by
  refine ⟨?_, fun ordered => ?_, ?_, fun ordered => ?_⟩
  · simp only [List.mem_cons, List.not_mem_nil, or_false, forall_eq_or_imp, forall_eq]
    exact ⟨.operator .sub, .operator .add⟩
  · exact absurd (ordered.starts '+' rfl rfl) (by decide)
  · simp only [List.mem_cons, List.not_mem_nil, or_false, forall_eq_or_imp, forall_eq]
    exact ⟨.number rfl, .operator .add, .percent⟩
  · have parted : List.IsChain _ "5+/100*".toList := ordered.parted
    exact (List.isChain_cons_cons.mp (List.isChain_cons_cons.mp parted).2).1 ⟨rfl, rfl⟩

end Calculator

end Reckoner
