import Reckoner.Proofs.Keypad.RoundTrip
import Reckoner.Proofs.Keypad.Signs

/-!
# Continuing from a result

An operator entered while a result is displayed goes on from the result in plain notation, and a
number entered behind it is added as it is (`Calculator.pressAll_continued`). The sign of a
negative result is then read as a negation, which every operator but a power leaves to the result
alone (`Postfix.ofInfix_continued`).
-/

namespace Reckoner

/-! ## Numbers with a sign -/

/-- The tokens of a number in plain notation. -/
def Token.signed (x : Float) : List Token :=
  if Magnitude.isNegative x then [.operator (.binary .sub), .number x.abs] else [.number x.abs]

/-- The tree of a number in plain notation: the sign is a negation. -/
def Tree.signed (x : Float) : Tree :=
  if Magnitude.isNegative x then .negation (.number x.abs) else .number x.abs

section Finite

variable {x : Float} (finite : x.isFinite = true)

include finite

/-- Plain notation spells its tokens, in front of anything that does not go on with the number. -/
theorem Lexeme.spells_plainText {rest : Text} {tokens : List Token}
    (ends : ∀ c ∈ rest.head?, isNumeric c = false) (behind : Spells rest tokens) :
    Spells (plainText x ++ rest) (Token.signed x ++ tokens) := by
  obtain ⟨body, shown, literal⟩ := exists_literal_plainText finite
  have number : Spells (body ++ rest) (.number x.abs :: tokens) := .number literal ends behind
  rw [shown, Reckoner.signed, Token.signed]
  split
  · exact .operator .sub number
  · exact number

/-- **A number with its sign has its own value.** -/
theorem Tree.value_signed : (Tree.signed x).value = .ok x := by
  have parts := signed_abs finite
  rw [Tree.signed]
  split
  · rename_i negative
    rw [if_pos negative] at parts
    have performed : (Application.negation x.abs).perform = .ok x := by
      simp [Application.perform, Application.dividesByZero, Application.value, parts, finite]
    have operand : x.abs.isFinite = true := isFinite_of_neg (by rw [parts]; exact finite)
    simp [Tree.value, operand, performed]
  · rename_i positive
    rw [if_neg positive] at parts
    rw [Tree.value, parts, if_pos finite]

end Finite

/-- Operands of one value can stand for each other. -/
theorem Tree.value_binary_congr {first second : Tree} (same : first.value = second.value)
    (op : BinaryOperator) (right : Tree) :
    (Tree.binary op first right).value = (Tree.binary op second right).value := by
  rw [Tree.value, same, ← Tree.value]

/-- The tree that an operation on a number with a sign is read as. A power is read before a sign in
front of it. -/
def Tree.continued (x : Float) (op : BinaryOperator) (value : Float) : Tree :=
  if Magnitude.isNegative x = true ∧ op = .pow then
    .negation (.binary .pow (.number x.abs) (.number value))
  else .binary op (.signed x) (.number value)

/-- **A sign is left to its number by every operator but a power.** -/
theorem Postfix.ofInfix_continued (x : Float) (op : BinaryOperator) (value : Float) :
    ofInfix (Token.signed x ++ [.operator (.binary op), .number value]) =
      .ok (Tree.continued x op value).postorder := by
  rw [Token.signed, Tree.continued, Tree.signed]
  cases negative : Magnitude.isNegative x with
  | true => cases op <;> rfl
  | false => cases op <;> rfl

theorem Tree.continued_eq_iff {x : Float} {op : BinaryOperator} (value : Float) :
    Tree.continued x op value = .binary op (.signed x) (.number value) ↔
      ¬(Magnitude.isNegative x = true ∧ op = .pow) := by
  rw [Tree.continued]
  split
  · rename_i both
    exact ⟨fun same => (by cases same), fun neither => absurd both neither⟩
  · rename_i neither
    exact ⟨fun _ => neither, fun _ => rfl⟩

/-- The postfix order of a tree is evaluated to the value of the tree. -/
theorem Postfix.evaluate_postorder (detailed : Bool) (tree : Tree) :
    (evaluate detailed tree.postorder).2 = tree.value.mapError .failed := by
  have result := result_postorder tree [] []
  rw [List.append_nil] at result
  show (evaluateOn [] tree.postorder).2 = _
  rw [result]
  cases valued : tree.value with
  | error cause => rfl
  | ok value =>
      have finite := (Tree.computes_of_value valued).finite
      show (evaluateOn [value] []).2 = _
      rw [evaluateOn, if_pos finite]
      rfl

namespace Calculator

/-! ## The keys -/

/-- A key that enters an operator: that of the keypad, or a text that starts with the symbol. The
rest of the text is entered with it. -/
inductive Key.Enters (op : BinaryOperator) : Key → Text → Prop where
  | keypad : Enters op (.operator op.symbol) []
  | typed (first : Text) : Enters op (.text (op.symbol :: first)) first

/-- Keys that enter a text piece by piece, on the keypad or typed. -/
inductive Key.Spell : List Key → Text → Prop where
  | nil : Spell [] []
  | keypad (piece : Text) {keys : List Key} {rest : Text} (behind : Spell keys rest) :
      Spell (.number piece :: keys) (piece ++ rest)
  | typed (piece : Text) {keys : List Key} {rest : Text} (behind : Spell keys rest) :
      Spell (.text piece :: keys) (piece ++ rest)

variable {calculator : Calculator}

theorem startAfresh_of_hidden (hidden : calculator.showsResult = false) :
    calculator.startAfresh = calculator := by
  rw [startAfresh, if_neg (by simp [hidden])]

/-- The number behind an operator is the current one. -/
theorem currentNumber_behind (front : Text) (op : BinaryOperator) {entered : Text}
    (numeric : ∀ c ∈ entered, Lexeme.isNumeric c = true) :
    currentNumber (front ++ op.symbol :: entered) = entered := by
  have inside : ∀ c ∈ entered.reverse, (!separatesNumbers c) = true := by
    intro c member
    rw [separatesNumbers_of_isNumeric (numeric c (List.mem_reverse.mp member))]
    rfl
  have ends : separatesNumbers op.symbol = true := by
    rw [separatesNumbers, op.isSymbol_symbol, Bool.true_or, Bool.true_or]
  rw [currentNumber, List.reverse_append, List.reverse_cons, List.append_assoc,
    List.takeWhile_append_of_pos inside, List.singleton_append,
    List.takeWhile_cons_of_neg (by simp [ends]), List.append_nil, List.reverse_reverse]

/-- **An operator goes on from a displayed result**, on the keypad and typed. -/
theorem press_operator (shows : calculator.showsResult = true)
    (finite : calculator.lastResult.isFinite = true) {op : BinaryOperator} {key : Key}
    {first : Text} (enters : key.Enters op first) :
    calculator.press key =
      { calculator with
        expression := plainText calculator.lastResult ++ op.symbol :: first,
        showsResult := false } := by
  have continued : calculator.continueFromResult =
      { calculator with
        expression := plainText calculator.lastResult, showsResult := false } := by
    rw [continueFromResult, if_pos shows]
  cases enters with
  | keypad =>
      obtain ⟨body, shown, literal⟩ := exists_literal_plainText finite
      obtain ⟨⟨⟨c, member, -⟩, -⟩, numeric⟩ := literal.isNumber
      obtain ⟨sign, marked, -⟩ := exists_signed calculator.lastResult body
      have proper : body ≠ [] := List.ne_nil_of_mem member
      have ends : calculator.continueFromResult.expression =
          (sign ++ body.dropLast) ++ [body.getLast proper] := by
        rw [continued, List.append_assoc, List.dropLast_append_getLast]
        exact shown.trans marked
      have digit := BinaryOperator.isSymbol_of_isPlain
        (Lexeme.isPlain_of_isNumeric (numeric _ (List.getLast_mem proper)))
      rw [press, enterOperator_of_concat ends, digit, Bool.false_and, if_neg (by simp), continued]
      rfl
  | typed first =>
      rw [press, enterText, if_pos (by simp [op.isSymbol_symbol]), continued]
      rfl

/-- A piece of a number on the keypad is only ignored as a second point. -/
theorem enterNumber_behind (hidden : calculator.showsResult = false) {front entered piece : Text}
    {op : BinaryOperator} (behind : calculator.expression = front ++ op.symbol :: entered)
    (numeric : ∀ c ∈ entered, Lexeme.isNumeric c = true) (few : (entered ++ piece).count '.' ≤ 1) :
    calculator.enterNumber piece = calculator.append piece := by
  rw [enterNumber, startAfresh_of_hidden hidden]
  apply if_neg
  rw [behind, currentNumber_behind front op numeric, Bool.and_eq_true, decide_eq_true_eq,
    List.contains_iff_mem]
  rintro ⟨rfl, point⟩
  have pointed := List.count_pos_iff.mpr point
  rw [List.count_append, List.count_singleton_self] at few
  omega

theorem enterText_behind (hidden : calculator.showsResult = false) {piece : Text}
    (numeric : ∀ c ∈ piece, Lexeme.isNumeric c = true) :
    calculator.enterText piece = calculator.append piece := by
  have starts : ¬piece.head?.any BinaryOperator.isSymbol = true := by
    cases piece with
    | nil => simp
    | cons c rest =>
        have digit := BinaryOperator.isSymbol_of_isPlain
          (Lexeme.isPlain_of_isNumeric (numeric c List.mem_cons_self))
        simp [digit]
  rw [enterText, if_neg starts, startAfresh_of_hidden hidden]

/-- **A number is added as it is entered**, as long as it has at most one point. -/
theorem pressAll_number {keys : List Key} {number : Text} (spell : Key.Spell keys number)
    (hidden : calculator.showsResult = false) {front : Text} {op : BinaryOperator} (entered : Text)
    (behind : calculator.expression = front ++ op.symbol :: entered)
    (numeric : ∀ c ∈ entered ++ number, Lexeme.isNumeric c = true)
    (few : (entered ++ number).count '.' ≤ 1) :
    calculator.pressAll keys = calculator.append number := by
  -- What has been entered of the number grows with every key.
  have step {key : Key} {piece rest : Text} {keys : List Key} {calculator : Calculator}
      (pressed : calculator.press key = calculator.append piece)
      (others : (calculator.append piece).pressAll keys = (calculator.append piece).append rest) :
      calculator.pressAll (key :: keys) = calculator.append (piece ++ rest) := by
    show (calculator.press key).pressAll keys = _
    rw [pressed, others, append, append, append, List.append_assoc]
  induction spell generalizing calculator entered with
  | nil => simp [pressAll, append]
  | @keypad piece keys rest _ ih =>
      rw [← List.append_assoc] at numeric few
      have before := (List.forall_mem_append.mp numeric).1
      refine step (enterNumber_behind hidden behind (List.forall_mem_append.mp before).1 ?_)
        (ih hidden (entered ++ piece) ?_ numeric few)
      · exact ((List.sublist_append_left _ _).count_le '.').trans few
      · rw [append, behind]
        simp
  | @typed piece keys rest _ ih =>
      rw [← List.append_assoc] at numeric few
      have before := (List.forall_mem_append.mp numeric).1
      refine step (enterText_behind hidden (List.forall_mem_append.mp before).2)
        (ih hidden (entered ++ piece) ?_ numeric few)
      rw [append, behind]
      simp

/-! ## What the expression is read as -/

/-- The expression after a displayed result, an operator and a number. -/
theorem pressAll_continued (shows : calculator.showsResult = true)
    (finite : calculator.lastResult.isFinite = true) {op : BinaryOperator} {key : Key}
    {first : Text} (enters : key.Enters op first) {keys : List Key} {rest : Text}
    (spell : Key.Spell keys rest) {value : Float}
    (literal : Lexeme.Literal (first ++ rest) value) :
    calculator.pressAll (key :: keys) =
      { calculator with
        expression := plainText calculator.lastResult ++ op.symbol :: (first ++ rest),
        showsResult := false } := by
  obtain ⟨⟨-, few⟩, numeric⟩ := literal.isNumber
  have pressed := press_operator shows finite enters
  have entered : (calculator.press key).pressAll keys = (calculator.press key).append rest := by
    rw [pressed]
    exact pressAll_number spell rfl first rfl numeric few
  show (calculator.press key).pressAll keys = _
  rw [entered, pressed, append]
  simp

end Calculator

/-- A text that is read as a tree has the value of the tree. -/
theorem Expression.value_of_postorder {text : Text} {tree : Tree}
    (read : (Token.ofText text >>= Postfix.ofInfix) = .ok tree.postorder) :
    value text = tree.value.mapError .failed := by
  rw [← Postfix.evaluate_postorder false, value, run]
  cases cut : Token.ofText text with
  | error cause =>
      rw [cut] at read
      cases read
  | ok tokens =>
      rw [cut] at read
      replace read : Postfix.ofInfix tokens = .ok tree.postorder := read
      simp only [read]

/-- What an operation on a number in plain notation is read as. -/
theorem Postfix.ofText_continued {x : Float} (finite : x.isFinite = true) (op : BinaryOperator)
    {number : Text} {value : Float} (literal : Lexeme.Literal number value) :
    (Token.ofText (plainText x ++ op.symbol :: number) >>= ofInfix) =
      if Token.maxLength < (plainText x ++ op.symbol :: number).length then
        .error (.tooLong (plainText x ++ op.symbol :: number).length Token.maxLength)
      else .ok (Tree.continued x op value).postorder := by
  have spells : Lexeme.Spells (plainText x ++ op.symbol :: number)
      (Token.signed x ++ [.operator (.binary op), .number value]) := by
    apply Lexeme.spells_plainText finite
    · intro c member
      obtain rfl : op.symbol = c := by simpa using member
      cases op <;> rfl
    · exact .operator op literal.spells
  rw [Token.ofText]
  split
  · rfl
  · have read : Lexeme.scan (plainText x ++ op.symbol :: number) = _ :=
      Lexeme.scan_of_spells spells
    rw [← ofInfix_continued]
    show (Lexeme.scan _ >>= ofInfix) = _
    rw [read]
    rfl

namespace Calculator

variable {calculator : Calculator}

/-- A calculation has the settled value of the expression, unless that is blank. -/
theorem result_of_calculate (visible : Text.isAllBlank calculator.expression = false)
    (detailed : Bool) :
    (calculator.calculate detailed).2.map (Option.map Calculation.result) =
      (Expression.value (Glyph.spellAll calculator.expression)).map
        (fun value => some (Answer.settle value)) := by
  rw [calculate, visible, ← Expression.run_value detailed]
  simp only [Bool.false_eq_true, if_false]
  split
  · rename_i outcome
    rw [outcome]
    rfl
  · rename_i outcome
    rw [outcome]
    rfl

/-- **Continuing from a result.** An operator and a number entered behind a displayed finite result
give the result in plain notation, the operator and the number. This is read as the operation on the
result and the number exactly if it is not too long and not a power of a negative result, of which
the sign is put in front of the whole power. What is calculated is the value of the tree that is
read. -/
theorem calculate_continued (shows : calculator.showsResult = true)
    (finite : calculator.lastResult.isFinite = true) {op : BinaryOperator} {key : Key}
    {first : Text} (enters : key.Enters op first) {keys : List Key} {rest : Text}
    (spell : Key.Spell keys rest) {value : Float}
    (literal : Lexeme.Literal (first ++ rest) value) :
    (calculator.pressAll (key :: keys)).expression =
        plainText calculator.lastResult ++ op.symbol :: (first ++ rest) ∧
      ((Token.ofText (Glyph.spellAll (calculator.pressAll (key :: keys)).expression) >>=
          Postfix.ofInfix) =
            .ok (Tree.binary op (.signed calculator.lastResult) (.number value)).postorder ↔
        (calculator.pressAll (key :: keys)).expression.length ≤ Token.maxLength ∧
          ¬(Magnitude.isNegative calculator.lastResult = true ∧ op = .pow)) ∧
      ((calculator.pressAll (key :: keys)).expression.length ≤ Token.maxLength → ∀ detailed,
        ((calculator.pressAll (key :: keys)).calculate detailed).2.map
            (Option.map Calculation.result) =
          ((if Magnitude.isNegative calculator.lastResult = true ∧ op = .pow then
              Tree.negation (.binary .pow (.number calculator.lastResult.abs) (.number value))
            else .binary op (.number calculator.lastResult) (.number value)).value.mapError
              .failed).map (fun value => some (Answer.settle value))) := by
  have pressed := pressAll_continued shows finite enters spell literal
  rw [pressed]
  generalize first ++ rest = number at literal
  dsimp only
  have entered : ∀ c ∈ plainText calculator.lastResult ++ op.symbol :: number,
      isEntered c = true := by
    obtain ⟨-, numeric⟩ := literal.isNumber
    refine List.forall_mem_append.mpr ⟨(Legible.shown _).entered, fun c member => ?_⟩
    rcases List.mem_cons.mp member with rfl | digit
    · rw [isEntered, op.isSymbol_symbol, Bool.or_true, Bool.true_or]
    · rw [isEntered, Lexeme.isPlain_of_isNumeric (numeric c digit), Bool.true_or, Bool.true_or]
  have read := Postfix.ofText_continued finite op literal
  rw [spellAll_of_isEntered entered, read]
  refine ⟨rfl, ?_, fun fits detailed => ?_⟩
  · split
    · rename_i long
      exact ⟨fun same => (by cases same), fun fits => absurd fits.1 (Nat.not_le.mpr long)⟩
    · rename_i fits
      rw [and_iff_right (Nat.not_lt.mp fits), ← Tree.continued_eq_iff value]
      exact ⟨fun same => Tree.postorder_injective (Except.ok.inj same), fun same => by rw [same]⟩
  · rw [if_neg (Nat.not_lt.mpr fits)] at read
    have visible : Text.isAllBlank (plainText calculator.lastResult ++ op.symbol :: number) =
        false := by
      have symbol : Text.isBlank op.symbol ≠ true := by cases op <;> decide
      exact List.all_eq_false.mpr ⟨op.symbol, by simp, symbol⟩
    rw [result_of_calculate visible]
    dsimp only
    rw [spellAll_of_isEntered entered, Expression.value_of_postorder read, Tree.continued]
    split
    · rfl
    · have operand : (Tree.number calculator.lastResult).value = .ok calculator.lastResult := by
        rw [Tree.value, if_pos finite]
      rw [Tree.value_binary_congr ((Tree.value_signed finite).trans operand.symm)]

/-- The keys 1 - 3 =, with minus two displayed. -/
def negativeResult : Calculator := fresh.pressAll [.text "1-3".toList, .equals false]

/-- Minus two times 1.5, of which the last digit is typed. -/
theorem calculate_continued_product :
    negativeResult.showsResult = true ∧
      (negativeResult.pressAll
        [.operator '*', .number ['1'], .number ['.'], .text ['5']]).expression =
          "-2*1.5".toList ∧
      ((negativeResult.pressAll
        [.operator '*', .number ['1'], .number ['.'], .text ['5']]).calculate true).2.map
          (Option.map Calculation.result) = .ok (some (-3)) := by
  have shows : negativeResult.showsResult = true := by decide +kernel
  have finite : negativeResult.lastResult.isFinite = true := by decide +kernel
  have literal : Lexeme.Literal (['1'] ++ '.' :: ['5']) (ofDigits (['1'] ++ ['5']) 1) :=
    .pointed (List.cons_ne_nil _ _) (List.all_eq_true.mp rfl)
  have enters : (Key.operator '*').Enters .mul [] := .keypad
  obtain ⟨expression, -, calculated⟩ := calculate_continued shows finite enters
    (.keypad ['1'] (.keypad ['.'] (.typed ['5'] .nil))) literal
  refine ⟨shows, expression.trans ?_, (calculated ?_ true).trans ?_⟩
  · decide +kernel
  · rw [expression]
    decide +kernel
  · decide +kernel

/-- A power of minus two is read as the negation of a power of two, on the keypad and typed. -/
theorem postfix_of_negative_power :
    negativeResult.showsResult = true ∧ negativeResult.lastResult = -2 ∧
      ∀ key ∈ [Key.operator '^', Key.text ['^']],
        (Token.ofText (Glyph.spellAll (negativeResult.pressAll [key, .number ['2']]).expression) >>=
            Postfix.ofInfix) =
              .ok (Tree.negation (.binary .pow (.number 2) (.number 2))).postorder ∧
          (Tree.negation (.binary .pow (.number 2) (.number 2))).postorder ≠
            (Tree.binary .pow (.signed (-2)) (.number 2)).postorder := by
  have two : ofDigits ['2'] 0 = 2 := by decide +kernel
  have literal : Lexeme.Literal ['2'] 2 :=
    two ▸ .whole (List.cons_ne_nil _ _) (List.all_eq_true.mp rfl)
  have read := Postfix.ofText_continued (x := -2) (by decide) .pow literal
  have shown : plainText (-2) ++ '^' :: ['2'] = "-2^2".toList := by decide +kernel
  have tree : Tree.continued (-2) .pow 2 = .negation (.binary .pow (.number 2) (.number 2)) := by
    decide +kernel
  have spelt : ∀ key ∈ [Key.operator '^', Key.text ['^']],
      Glyph.spellAll (negativeResult.pressAll [key, .number ['2']]).expression =
        "-2^2".toList := by
    decide +kernel
  refine ⟨by decide +kernel, by decide +kernel, fun key among => ⟨?_, by decide +kernel⟩⟩
  rw [spelt key among, ← shown, ← tree]
  exact read

end Calculator

end Reckoner
