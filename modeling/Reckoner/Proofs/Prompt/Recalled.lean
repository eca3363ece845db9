import Reckoner.Proofs.Keypad.RoundTrip
import Reckoner.Proofs.Prompt.Memory
import Reckoner.Proofs.Prompt.Requests

/-!
# The recalled memory as an expression

A number is shown with a digit and without a blank, which no command is (`Command.parse?_numeral`),
so a line made of it is evaluated. In plain notation it has the value that it shows; with an exponent
it is rejected, since the `e` is read as a word (`Answer.value_text`). So a finite memory that `mr`
puts into the next line is read back unless it is shown with an exponent (`Session.recalled_value`).
-/

namespace Reckoner

namespace Answer

/-! ## The characters of a number -/

/-- A character that a number is shown with. -/
def isShown (c : Char) : Bool := Lexeme.isNumeric c || c = '-' || c = 'e'

theorem isShown_of_isNumeric {c : Char} (numeric : Lexeme.isNumeric c = true) :
    isShown c = true := by
  rw [isShown, numeric]
  rfl

/-- A whole number is written with digits, and perhaps a minus sign. -/
theorem mem_ofInt {power : Int} {c : Char} (member : c ∈ Text.ofInt power) :
    Lexeme.isNumeric c = true ∨ c = '-' := by
  have digits {n : Nat} (among : c ∈ Text.ofNat n) : Lexeme.isNumeric c = true :=
    Lexeme.isNumeric_of_isDigit ((Text.isDigits_ofNat n).all c among)
  cases power with
  | ofNat n => exact .inl (digits member)
  | negSucc n =>
      rcases List.mem_cons.mp member with rfl | among
      · exact .inr rfl
      · exact .inl (digits among)

theorem isBlank_of_isShown {c : Char} (shown : isShown c = true) : Text.isBlank c = false := by
  simp only [isShown, Lexeme.isNumeric, Bool.or_eq_true, decide_eq_true_eq] at shown
  rcases shown with ((digit | rfl) | rfl) | rfl
  · exact Text.isBlank_of_isDigit digit
  · decide
  · decide
  · decide

namespace IsNumeral

variable {text : Text} (numeral : IsNumeral text)

include numeral

theorem shown : ∀ c ∈ text, isShown c = true := by
  obtain ⟨sign, body, exponent, rfl, minus, decimal, power⟩ := numeral
  obtain ⟨value, literal⟩ := decimal.exists_literal
  refine List.forall_mem_append.mpr ⟨List.forall_mem_append.mpr ⟨?_, ?_⟩, ?_⟩
  · rcases minus with rfl | rfl
    · simp
    · exact List.forall_mem_singleton.mpr (by decide)
  · exact fun c member => isShown_of_isNumeric (literal.isNumber.2 c member)
  · rcases power with rfl | ⟨power, rfl⟩
    · simp
    · refine List.forall_mem_cons.mpr ⟨by decide, fun c member => ?_⟩
      rcases mem_ofInt member with numeric | rfl
      · exact isShown_of_isNumeric numeric
      · decide

theorem exists_digit : ∃ c ∈ text, Text.isDigit c = true := by
  obtain ⟨sign, body, exponent, rfl, -, decimal, -⟩ := numeral
  obtain ⟨value, literal⟩ := decimal.exists_literal
  obtain ⟨⟨⟨c, member, digit⟩, -⟩, -⟩ := literal.isNumber
  exact ⟨c, by simp [member], digit⟩

theorem isTrimmed : Text.IsTrimmed text where
  starts := fun c first => isBlank_of_isShown (numeral.shown c (List.mem_of_mem_head? first))
  ends := fun c last => isBlank_of_isShown (numeral.shown c (List.mem_of_mem_getLast? last))

theorem not_isAllBlank : Text.isAllBlank text = false := by
  obtain ⟨c, member, digit⟩ := numeral.exists_digit
  have visible := Text.isBlank_of_isDigit digit
  exact List.all_eq_false.mpr ⟨c, member, by simp [visible]⟩

/-- A number has no display signs. -/
theorem spellAll_eq : Glyph.spellAll text = text := by
  refine Glyph.spellAll_of_plain fun c member glyph => ?_
  have shown := numeral.shown c member
  rcases glyph with rfl | rfl | rfl
  · exact absurd shown (by decide)
  · exact absurd shown (by decide)
  · exact absurd shown (by decide)

end IsNumeral

end Answer

namespace Command

open Text (small)

theorem toLower_of_isDigit {c : Char} (digit : Text.isDigit c = true) : c.toLower = c := by
  have inside : Text.IsAscii c := by
    have most := digit
    simp only [Text.isDigit, Bool.and_eq_true, decide_eq_true_eq, Char.le_def,
      UInt32.le_iff_toNat_le] at most
    exact Nat.lt_of_le_of_lt most.2 (by decide)
  have small : Text.isDigit c = true → c.toLower = c :=
    Text.forall_ascii (P := fun c => Text.isDigit c = true → c.toLower = c) (by decide) inside
  exact small digit

/-- **A number is no command**: it is an expression to evaluate. -/
theorem parse?_numeral {text : Text} (numeral : Answer.IsNumeral text) :
    parse? text = some (.evaluate text false) := by
  have visible : ' ' ∉ small text := by
    intro blank
    obtain ⟨c, member, same⟩ := List.mem_map.mp blank
    obtain rfl := eq_blank_of_toLower same
    exact absurd (numeral.shown ' ' member) (by decide)
  have wordless : ∀ entry ∈ words, small text ≠ entry.1 := by
    have digitless : ∀ entry ∈ words, entry.1.any Text.isDigit = false := by decide
    obtain ⟨c, member, digit⟩ := numeral.exists_digit
    intro entry among same
    have kept : c ∈ small text := List.mem_map.mpr ⟨c, member, toLower_of_isDigit digit⟩
    rw [same] at kept
    exact List.any_eq_false.mp (digitless entry among) c kept digit
  have asks : Asks text (.evaluate text false) := .expression wordless
    (fun opening among starts => visible (blank_of_opening among starts))
    (fun ends => visible (blank_of_closing ends))
  obtain ⟨c, member, -⟩ := numeral.exists_digit
  rw [parse?_eq_some_iff, numeral.isTrimmed.trim_eq]
  exact ⟨List.ne_nil_of_mem member, asks⟩

end Command

/-! ## The value of a number as it is shown -/

namespace Answer

/-- With an exponent, the `e` is a word that is no function. -/
theorem ofText_scientificText {x : Float} (finite : x.isFinite = true) :
    Token.ofText (scientificText x) = .error (.unknownFunction ['e']) := by
  have fits : ¬Token.maxLength < (scientificText x).length := by
    have short := length_scientificText_le finite
    have limit : Token.maxLength = 1024 := rfl
    omega
  obtain ⟨value, magnitude⟩ := Magnitude.ofFloat_of_isFinite finite
  obtain ⟨body, power, decimal, shown⟩ := scientificText_of_finite magnitude
  obtain ⟨number, literal⟩ := decimal.exists_literal
  obtain ⟨sign, marked, minus⟩ := exists_signed x (body ++ ['e'] ++ Text.ofInt power)
  have letterless {c : Char} (numeric : Lexeme.isNumeric c = true ∨ c = '-') :
      Text.isPlainLetter c = false := by
    rcases numeric with numeric | rfl
    · exact Lexeme.not_isPlainLetter_of_isNumeric numeric
    · decide
  have whole : Lexeme.IsRun Text.isPlainLetter (sign ++ body) ['e'] (Text.ofInt power) := by
    refine ⟨List.cons_ne_nil _ _, List.forall_mem_singleton.mpr rfl, fun c last => letterless ?_,
      fun c first => letterless ?_⟩
    · rcases List.mem_append.mp (List.mem_of_mem_getLast? last) with front | back
      · rcases minus with rfl | rfl
        · cases front
        · exact .inr (List.mem_singleton.mp front)
      · exact .inl (literal.isNumber.2 c back)
    · exact mem_ofInt (List.mem_of_mem_head? first)
  have unknown : ∀ f : Function, f.name ≠ ['e'] := by
    intro f
    cases f <;> decide
  have spells : ∃ tokens, Lexeme.Spells (sign ++ body) tokens := by
    rcases minus with rfl | rfl
    · exact ⟨_, literal.spells⟩
    · exact ⟨_, literal.spells_minus⟩
  obtain ⟨tokens, spells⟩ := spells
  have read := Lexeme.scan_of_fault spells (.word whole unknown)
  rw [Token.ofText, if_neg fits, shown, marked, ← List.append_assoc, ← List.append_assoc]
  exact read

/-- **What a number is read as** where it is shown: itself, unless it is shown with an exponent. -/
theorem value_text {x : Float} (finite : x.isFinite = true) :
    Expression.value (text x) =
      if isExtreme x then .error (.malformed (.unknownFunction ['e'])) else .ok x := by
  rw [text]
  split
  · rw [Expression.value, Expression.run, ofText_scientificText finite]
  · obtain ⟨steps, outcome⟩ := Expression.run_plainText finite (ofPlainText?_plainText finite) false
    rw [Expression.value, outcome]

end Answer

/-- A visible text without a value is refused, and the calculator stays as it is. -/
theorem Calculator.calculate_of_error {calculator : Calculator} {cause : ExpressionError}
    (failed : Expression.value (Glyph.spellAll calculator.expression) = .error cause)
    (visible : Text.isAllBlank calculator.expression = false) :
    calculator.calculate false = (calculator, .error cause) := by
  have outcome : Expression.run false (Glyph.spellAll calculator.expression) = ([], .error cause) :=
    Prod.ext (Expression.run_steps _) failed
  rw [calculate, visible, outcome]
  rfl

namespace Session

/-- An expression without a value is answered by the error. -/
theorem evaluate_of_error {expression : Text} {cause : ExpressionError}
    (failed : Expression.value (Glyph.spellAll expression) = .error cause)
    (visible : Text.isAllBlank expression = false) (session : Session) (now : Moment) :
    (session.evaluate now expression false).2 = ⟨expression, .error cause.message, [], false⟩ := by
  have calculated : (session.calculator.setExpression expression).calculate false =
      (session.calculator.setExpression expression, .error cause) :=
    Calculator.calculate_of_error failed visible
  rw [evaluate, calculated]

/-- A line made of a number is evaluated. -/
theorem submit_numeral {text : Text} (numeral : Answer.IsNumeral text) (session : Session)
    (now : Moment) :
    ∃ noted : Session,
      (session.submit now text).2 = .evaluated (noted.evaluate now text false).2 := by
  have asked := Command.parse?_numeral numeral
  obtain ⟨c, member, -⟩ := numeral.exists_digit
  obtain ⟨first, rest, rfl⟩ := List.exists_cons_of_ne_nil (List.ne_nil_of_mem member)
  rw [submit, asked]
  exact ⟨_, rfl⟩

/-- **The recalled memory, submitted as it is.** `mr` puts a finite memory into the next line as it
is shown. As an expression this has the value of the memory, and is answered by that value settled,
exactly if the memory is shown without an exponent. With one it is rejected for its `e`, in every
session. -/
theorem recalled_value {session : Session}
    (finite : session.calculator.memory.isFinite = true) (now : Moment) {line : Text}
    (said : Text.fold (Text.trim line) = "mr".toList) :
    ∃ text, (session.submit now line).2 = .insert text ∧
      (Expression.value (Glyph.spellAll text) = .ok session.calculator.memory ↔
        Answer.isExtreme session.calculator.memory = false) ∧
      (Answer.isExtreme session.calculator.memory = true →
        Expression.value (Glyph.spellAll text) = .error (.malformed (.unknownFunction ['e']))) ∧
      ∀ (later : Session) (moment : Moment),
        (later.submit moment text).2 = .evaluated
          ⟨text, if Answer.isExtreme session.calculator.memory then
              .error (SyntaxError.unknownFunction ['e']).message
            else .ok (Answer.settle session.calculator.memory), [], false⟩ := by
  have numeral := Answer.isNumeral_text finite
  have valued := Answer.value_text finite
  rw [← numeral.spellAll_eq] at valued
  refine ⟨_, session.submit_memoryRecall now said, ?_, ?_, fun later moment => ?_⟩
  · rw [valued]
    cases Answer.isExtreme session.calculator.memory with
    | true => exact ⟨nofun, nofun⟩
    | false => exact ⟨fun _ => rfl, fun _ => rfl⟩
  · intro extreme
    rw [valued, if_pos extreme]
  · obtain ⟨noted, answered⟩ := later.submit_numeral numeral moment
    rw [answered]
    cases extreme : Answer.isExtreme session.calculator.memory with
    | true =>
        rw [extreme, if_pos rfl] at valued
        rw [evaluate_of_error valued numeral.not_isAllBlank]
        rfl
    | false =>
        rw [extreme, if_neg Bool.false_ne_true] at valued
        rw [evaluate_of_value valued]
        rfl

/-- A third, added to the memory with a minus sign. -/
def thirdLines : List (Moment × Text) := [(⟨0, 0⟩, "-1/3".toList), (⟨1, 0⟩, "m+".toList)]

theorem recalled_value_third :
    ((inMemory {} Settings.standard).submitEach thirdLines).calculator.memory.isFinite = true ∧
      ∃ text, (((inMemory {} Settings.standard).submitEach thirdLines).submit ⟨2, 0⟩
          "MR ".toList).2 = .insert text ∧
        Expression.value (Glyph.spellAll text) =
          .ok ((inMemory {} Settings.standard).submitEach thirdLines).calculator.memory := by
  have finite :
      ((inMemory {} Settings.standard).submitEach thirdLines).calculator.memory.isFinite =
        true := by
    decide +kernel
  have everyday : Answer.isExtreme
      ((inMemory {} Settings.standard).submitEach thirdLines).calculator.memory = false := by
    decide +kernel
  have said : Text.fold (Text.trim "MR ".toList) = "mr".toList := by decide
  obtain ⟨text, offered, valued, -⟩ := recalled_value finite ⟨2, 0⟩ said
  exact ⟨finite, text, offered, valued.mpr everyday⟩

/-- More than a thousand million in the memory. -/
def extremeLines : List (Moment × Text) :=
  [(⟨0, 0⟩, "1234567890".toList), (⟨1, 0⟩, "m+".toList)]

/-- The recalled memory has lost its last digits and is rejected. -/
theorem recalled_value_extreme :
    ((inMemory {} Settings.standard).submitEach extremeLines).calculator.memory = 1234567890 ∧
      (((inMemory {} Settings.standard).submitEach extremeLines).submit ⟨2, 0⟩ "mr".toList).2 =
        .insert "1.234568e9".toList ∧
      Expression.value (Glyph.spellAll "1.234568e9".toList) =
        .error (.malformed (.unknownFunction ['e'])) := by
  have memory : ((inMemory {} Settings.standard).submitEach extremeLines).calculator.memory =
      1234567890 := by
    decide +kernel
  refine ⟨memory, ?_, by decide +kernel⟩
  rw [submit_memoryRecall _ _ (by decide), memory]
  exact congrArg Reply.insert (by decide +kernel)

end Session

end Reckoner
