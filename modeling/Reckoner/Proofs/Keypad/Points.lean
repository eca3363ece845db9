import Reckoner.Proofs.Expression.Errors
import Reckoner.Proofs.Expression.Glyph
import Reckoner.Proofs.Expression.Reading
import Reckoner.Proofs.Keypad.Keys

/-!
# Points from the keypad

The point key is ignored while the number at the end of the expression has a point already. However
the keys are mixed, digits and points that stand side by side never have two (`FewPoints`). With
what else the keypad enters, a calculation cannot fail for a character, nor for a number that is
more than a point by itself.
-/

namespace Reckoner

open Calculator (separatesNumbers currentNumber)

/-- Digits and points side by side have at most one point among them. -/
def FewPoints (text : Text) : Prop :=
  ∀ run, run <:+: text → (∀ c ∈ run, Lexeme.isNumeric c = true) → run.count '.' ≤ 1

/-- Digits and points do not end a number. -/
theorem separatesNumbers_of_isNumeric {c : Char} (numeric : Lexeme.isNumeric c = true) :
    separatesNumbers c = false := by
  have notSymbol := BinaryOperator.isSymbol_of_isPlain (Lexeme.isPlain_of_isNumeric numeric)
  have opening : c ≠ '(' := by
    rintro rfl
    cases numeric
  have closing : c ≠ ')' := by
    rintro rfl
    cases numeric
  simp [separatesNumbers, notSymbol, opening, closing]

/-- The digits and points at the end of a text belong to its current number. -/
theorem mem_currentNumber {text behind : Text} (ends : behind <:+ text)
    (numeric : ∀ c ∈ behind, Lexeme.isNumeric c = true) {c : Char} (member : c ∈ behind) :
    c ∈ currentNumber text := by
  have entered : ∀ d ∈ behind.reverse, (!separatesNumbers d) = true := by
    intro d among
    rw [separatesNumbers_of_isNumeric (numeric d (List.mem_reverse.mp among))]
    rfl
  obtain ⟨front, rfl⟩ := ends
  rw [currentNumber, List.reverse_append, List.takeWhile_append_of_pos entered, List.reverse_append,
    List.reverse_reverse]
  exact List.mem_append_right _ member

namespace FewPoints

theorem front {front text : Text} (begins : front <+: text) (few : FewPoints text) :
    FewPoints front := by
  intro run inside
  exact few run (inside.trans begins.isInfix)

/-- **The guard of the point key suffices.** -/
theorem concat {text : Text} {c : Char} (few : FewPoints text)
    (guard : c = '.' → '.' ∉ currentNumber text) : FewPoints (text ++ [c]) := by
  intro run inside numeric
  rcases List.infix_concat_iff.mp inside with ends | before
  · rcases List.suffix_concat_iff.mp ends with rfl | ⟨behind, rfl, within⟩
    · exact Nat.zero_le 1
    · have entered : ∀ d ∈ behind, Lexeme.isNumeric d = true :=
        fun d member => numeric d (List.mem_append_left [c] member)
      rw [List.count_append]
      by_cases point : c = '.'
      · have pointless : '.' ∉ behind := by
          intro member
          exact guard point (mem_currentNumber within entered member)
        rw [List.count_eq_zero.mpr pointless, point]
        exact Nat.le_refl 1
      · rw [List.count_singleton]
        simpa [point] using few behind within.isInfix entered
  · exact few run before numeric

/-- Without a point anything may be added. -/
theorem append {text more : Text} (few : FewPoints text) (pointless : '.' ∉ more) :
    FewPoints (text ++ more) := by
  induction more generalizing text with
  | nil => rwa [List.append_nil]
  | cons c rest ih =>
      rw [List.mem_cons, not_or] at pointless
      have longer : FewPoints (text ++ [c]) :=
        few.concat fun point => absurd point.symm pointless.1
      simpa using ih longer pointless.2

end FewPoints

/-- With few points, only a point by itself is no number. -/
theorem Lexeme.eq_point_of_not_isNumber {run : Text} (proper : run ≠ [])
    (numeric : ∀ c ∈ run, isNumeric c = true) (few : run.count '.' ≤ 1)
    (bad : ¬IsNumber run) : run = ['.'] := by
  have points : ∀ c ∈ run, c = '.' := by
    intro c member
    by_contra other
    refine bad ⟨⟨c, member, ?_⟩, few⟩
    simpa [isNumeric, other] using numeric c member
  have same := List.eq_replicate_of_mem points
  have positive := List.length_pos_iff.mpr proper
  rw [same, List.count_replicate_self] at few
  rw [same, Nat.le_antisymm few positive]
  rfl

/-! ## What the keypad enters -/

/-- A character that the keypad can enter. -/
def isEntered (c : Char) : Bool := Lexeme.isPlain c || BinaryOperator.isSymbol c || c = '('

/-- Nothing that the keypad enters has to be spelt out. -/
theorem spellAll_of_isEntered {expression : Text} (entered : ∀ c ∈ expression, isEntered c = true) :
    Glyph.spellAll expression = expression := by
  refine Glyph.spellAll_of_plain fun c member glyph => ?_
  have enters := entered c member
  rcases glyph with rfl | rfl | rfl
  · exact absurd enters (by decide)
  · exact absurd enters (by decide)
  · exact absurd enters (by decide)

/-- Nothing but what the keypad can enter, and no number with two points. -/
structure Legible (expression : Text) : Prop where
  entered : ∀ c ∈ expression, isEntered c = true
  few : FewPoints expression

namespace Legible

theorem nil : Legible [] where
  entered := by simp
  few := by
    intro run inside _
    rw [List.infix_nil.mp inside]
    exact Nat.zero_le 1

theorem concat {text : Text} {c : Char} (legible : Legible text) (entered : isEntered c = true)
    (guard : c = '.' → '.' ∉ currentNumber text) : Legible (text ++ [c]) where
  entered := List.forall_mem_append.mpr ⟨legible.entered, List.forall_mem_singleton.mpr entered⟩
  few := legible.few.concat guard

theorem append {text more : Text} (legible : Legible text)
    (entered : ∀ c ∈ more, isEntered c = true) (pointless : '.' ∉ more) :
    Legible (text ++ more) where
  entered := List.forall_mem_append.mpr ⟨legible.entered, entered⟩
  few := legible.few.append pointless

theorem front {front text : Text} (begins : front <+: text) (legible : Legible text) :
    Legible front where
  entered := fun c member => legible.entered c (begins.subset member)
  few := legible.few.front begins

/-- A displayed result is legible. -/
theorem shown (x : Float) : Legible (plainText x) := by
  obtain ⟨sign, body, shown, marked, isShown⟩ := Calculator.exists_shown x
  have signed : (∀ c ∈ sign, isEntered c = true) ∧ sign.count '.' = 0 := by
    rcases marked with rfl | rfl
    · exact ⟨List.all_eq_true.mp rfl, rfl⟩
    · exact ⟨List.all_eq_true.mp rfl, rfl⟩
  rw [shown]
  constructor
  · refine List.forall_mem_append.mpr ⟨signed.1, fun c member => ?_⟩
    rw [isEntered, isShown.plain c member, Bool.true_or, Bool.true_or]
  · intro run inside _
    have fewer := inside.sublist.count_le '.'
    rw [List.count_append, signed.2, Nat.zero_add] at fewer
    exact fewer.trans isShown.points

theorem lasting : Calculator.Lasting Legible := ⟨front, shown⟩

/-- Nothing in a legible expression has to be spelt out. -/
theorem spellAll_eq {expression : Text} (legible : Legible expression) :
    Glyph.spellAll expression = expression := spellAll_of_isEntered legible.entered

/-- **What can be wrong with the characters**: a point by itself, a word, or their number. -/
theorem fault {expression : Text} (legible : Legible expression) {cause : SyntaxError}
    (failed : Token.ofText expression = .error cause) :
    (∀ c, cause ≠ .unexpectedCharacter c) ∧
      ∀ literal, cause = .malformedNumber literal → literal = ['.'] := by
  rw [Token.ofText] at failed
  split at failed
  · cases failed
    exact ⟨by simp, by simp⟩
  · obtain ⟨before, run, after, _, rfl, -, fault⟩ := Lexeme.scan_eq_error_iff.mp failed
    cases fault with
    | word => exact ⟨by simp, by simp⟩
    | @sign c _ single bad =>
        -- What the keypad enters is a sign, unless it belongs to a number or a word.
        have isSign : Lexeme.IsSign c := by
          have entered := legible.entered c (by simp)
          simp only [isEntered, Lexeme.isPlain, single.1, single.2, Bool.false_or, Bool.or_eq_true,
            decide_eq_true_eq] at entered
          rcases entered with symbol | opening
          · exact .inr (.inr (.inr (BinaryOperator.isSymbol_iff.mp symbol)))
          · exact .inr (.inl opening)
        exact absurd isSign bad
    | number whole bad =>
        refine ⟨by simp, fun literal same => ?_⟩
        cases same
        exact Lexeme.eq_point_of_not_isNumber whole.proper whole.inside
          (legible.few run ⟨before, after, rfl⟩ whole.inside) bad

end Legible

namespace Calculator

/-! ## Key by key -/

variable {calculator : Calculator} (legible : Legible calculator.expression)

include legible

theorem legible_enterNumber {c : Char} (numeric : Lexeme.isNumeric c = true) :
    Legible (calculator.enterNumber [c]).expression := by
  have fresh := Legible.lasting.startAfresh legible
  rw [enterNumber]
  split
  · exact fresh
  · rename_i allowed
    refine fresh.concat (by simp [isEntered, Lexeme.isPlain, numeric]) ?_
    rintro rfl
    simpa using allowed

theorem legible_enterOperator (op : BinaryOperator) :
    Legible (calculator.enterOperator op.symbol).expression := by
  have base := Legible.lasting.continueFromResult legible
  have entered : isEntered op.symbol = true := by simp [isEntered, op.isSymbol_symbol]
  have other : op.symbol ≠ '.' := by cases op <;> decide
  have longer {front : Text} (begins : front <+: calculator.continueFromResult.expression) :
      Legible (front ++ [op.symbol]) :=
    (base.front begins).concat entered fun point => absurd point other
  rw [enterOperator]
  split
  · split
    · exact longer List.prefix_rfl
    · exact base
  · split
    · exact longer (List.dropLast_prefix _)
    · exact longer List.prefix_rfl

theorem legible_enterFunction (f : Function) :
    Legible (calculator.enterFunction f).expression := by
  have entered : ∀ c ∈ f.name ++ ['('], isEntered c = true :=
    List.all_eq_true.mp (by cases f <;> rfl)
  have pointless : '.' ∉ f.name ++ ['('] := by cases f <;> decide
  exact (Legible.lasting.startAfresh legible).append entered pointless

theorem legible_percent : Legible calculator.percent.expression := by
  have base := Legible.lasting.continueFromResult legible
  rw [percent]
  split
  · exact base
  · exact base.append (List.all_eq_true.mp rfl) (by decide)

/-- **Every key keeps the expression legible.** -/
theorem legible_press {key : Key} (keypad : key.IsKeypad) :
    Legible (calculator.press key).expression := by
  cases keypad with
  | number numeric => exact legible_enterNumber legible numeric
  | operator op => exact legible_enterOperator legible op
  | function f => exact legible_enterFunction legible f
  | percent => exact legible_percent legible
  | backspace => exact Legible.lasting.backspace legible
  | clear => exact Legible.nil
  | equals detailed => exact Legible.lasting.calculate legible detailed

theorem legible_pressAll {keys : List Key} (keypad : ∀ key ∈ keys, key.IsKeypad) :
    Legible (calculator.pressAll keys).expression := by
  induction keys generalizing calculator with
  | nil => exact legible
  | cons key rest ih =>
      obtain ⟨first, others⟩ := List.forall_mem_cons.mp keypad
      exact ih (legible_press legible first) others

omit legible

/-! ## Calculations -/

/-- A calculation fails as the evaluation does. -/
theorem run_of_calculate {detailed : Bool} {cause : ExpressionError}
    (failed : (calculator.calculate detailed).2 = .error cause) :
    (Expression.run detailed (Glyph.spellAll calculator.expression)).2 = .error cause := by
  rcases calculator.calculate_cases detailed with nothing | ⟨first, run, failure⟩ |
    ⟨steps, value, -, success⟩
  · rw [nothing] at failed
    cases failed
  · rw [failure] at failed
    cases failed
    exact run
  · rw [success] at failed
    cases failed

/-- **Points from the keypad.** Whatever keys of the keypad are pressed on a new calculator, no run
of digits and points has two points. A calculation then never fails for a character, and for a
number only if that is a point by itself. -/
theorem points_of_pressAll {keys : List Key} (keypad : ∀ key ∈ keys, key.IsKeypad) :
    (∀ before run after, (fresh.pressAll keys).expression = before ++ run ++ after →
        Lexeme.IsRun Lexeme.isNumeric before run after → run.count '.' ≤ 1) ∧
      ∀ detailed,
        (∀ c, ((fresh.pressAll keys).calculate detailed).2 ≠
          .error (.malformed (.unexpectedCharacter c))) ∧
        ∀ literal, ((fresh.pressAll keys).calculate detailed).2 =
          .error (.malformed (.malformedNumber literal)) → literal = ['.'] := by
  have legible : Legible (fresh.pressAll keys).expression := legible_pressAll Legible.nil keypad
  have fault {detailed : Bool} {cause : SyntaxError}
      (failed : ((fresh.pressAll keys).calculate detailed).2 = .error (.malformed cause))
      (lexical : cause.isLexical = true) :=
    legible.fault (legible.spellAll_eq ▸ Expression.ofText_of_run (run_of_calculate failed) lexical)
  refine ⟨?_, fun detailed => ⟨fun c failed => ?_, fun literal failed => ?_⟩⟩
  · intro before run after whole isRun
    exact legible.few run ⟨before, after, whole.symm⟩ isRun.inside
  · exact (fault failed rfl).1 c rfl
  · exact (fault failed rfl).2 literal rfl

/-- A second point that is ignored, and a number that is only a point. -/
def pointedKeys : List Key :=
  [.number ['2'], .number ['.'], .number ['.'], .number ['5'], .operator '+', .number ['.']]

theorem points_of_pressAll_pointed :
    (∀ key ∈ pointedKeys, key.IsKeypad) ∧
      (fresh.pressAll pointedKeys).expression = "2.5".toList ++ "+.".toList ∧
      "2.5".toList.count '.' ≤ 1 ∧
      ((fresh.pressAll pointedKeys).calculate false).2 =
        .error (.malformed (.malformedNumber ['.'])) ∧
      ∀ c, ((fresh.pressAll pointedKeys).calculate false).2 ≠
        .error (.malformed (.unexpectedCharacter c)) := by
  have keypad : ∀ key ∈ pointedKeys, key.IsKeypad := by
    simp only [pointedKeys, List.mem_cons, List.not_mem_nil, or_false, forall_eq_or_imp, forall_eq]
    exact ⟨.number rfl, .number rfl, .number rfl, .number rfl, .operator .add, .number rfl⟩
  have entered : (fresh.pressAll pointedKeys).expression = [] ++ "2.5".toList ++ "+.".toList := by
    decide
  have whole : Lexeme.IsRun Lexeme.isNumeric [] "2.5".toList "+.".toList :=
    ⟨by decide, List.all_eq_true.mp rfl, by simp, by simp; decide⟩
  obtain ⟨runs, errors⟩ := points_of_pressAll keypad
  exact ⟨keypad, entered, runs _ _ _ entered whole, by decide +kernel, (errors false).1⟩

end Calculator

end Reckoner
