import Mathlib.Data.List.TakeWhile
import Mathlib.Tactic.ByContra
import Reckoner.Proofs.Expression.Lexemes

/-!
# The runs of a text

A text is made of whole runs of digits and points, whole words, and single characters. No character
of one class joins one of another, so texts that do not go on with each other's last run are read
one after the other (`scan_append`), and a whole run is read by itself wherever it stands
(`scan_run`).
-/

namespace Reckoner

namespace Lexeme

/-- A run of characters of one class that is as long as it can be between what stands before it and
what stands behind it. -/
structure IsRun (among : Char → Bool) (before run after : Text) : Prop where
  proper : run ≠ []
  inside : ∀ c ∈ run, among c = true
  starts : ∀ c ∈ before.getLast?, among c = false
  ends : ∀ c ∈ after.head?, among c = false

/-- Digits and points that are a number: at least one digit, and at most one point. -/
def IsNumber (run : Text) : Prop := (∃ c ∈ run, Text.isDigit c = true) ∧ run.count '.' ≤ 1

/-- The ways to write a number, and the value of each: digits by themselves, or a point with digits
on at least one side of it. -/
inductive Literal : Text → Float → Prop where
  | whole {digits : Text} (proper : digits ≠ []) (all : ∀ c ∈ digits, Text.isDigit c = true) :
      Literal digits (ofDigits digits 0)
  | pointed {digits decimals : Text} (proper : digits ++ decimals ≠ [])
      (all : ∀ c ∈ digits ++ decimals, Text.isDigit c = true) :
      Literal (digits ++ '.' :: decimals) (ofDigits (digits ++ decimals) decimals.length)

/-- A character that may stand by itself: white space, a parenthesis or the symbol of an
operator. -/
def IsSign (c : Char) : Prop :=
  Text.isBlank c = true ∨ c = '(' ∨ c = ')' ∨ ∃ op : BinaryOperator, op.symbol = c

/-- A character of no run. -/
def IsSingle (c : Char) : Prop := isNumeric c = false ∧ Text.isPlainLetter c = false

/-! ## Numbers -/

theorem isDigit_point : Text.isDigit '.' = false := by decide

theorem isNumeric_of_isDigit {c : Char} (digit : Text.isDigit c = true) : isNumeric c = true := by
  rw [isNumeric, digit, Bool.true_or]

theorem filter_digits {digits : Text} (all : ∀ c ∈ digits, Text.isDigit c = true) :
    digits.filter Text.isDigit = digits := List.filter_eq_self.mpr all

theorem not_mem_digits {digits : Text} (all : ∀ c ∈ digits, Text.isDigit c = true) :
    '.' ∉ digits := by
  intro point
  have digit := all '.' point
  rw [isDigit_point] at digit
  cases digit

/-- A number is read as it is written. -/
theorem Literal.eq_literalValue {run : Text} {value : Float} (literal : Literal run value) :
    value = literalValue run := by
  cases literal with
  | whole proper all =>
      have pointless : run.dropWhile (· ≠ '.') = [] := by
        rw [List.dropWhile_eq_nil_iff]
        intro c member
        have other : c ≠ '.' := fun same => not_mem_digits all (same ▸ member)
        simpa using other
      rw [literalValue, filter_digits all, pointless]
      rfl
  | @pointed digits decimals proper all =>
      have before : ∀ c ∈ digits, Text.isDigit c = true :=
        fun c member => all c (List.mem_append_left _ member)
      have behind : ∀ c ∈ decimals, Text.isDigit c = true :=
        fun c member => all c (List.mem_append_right _ member)
      have cut : (digits ++ '.' :: decimals).dropWhile (· ≠ '.') = '.' :: decimals := by
        rw [List.dropWhile_append_of_pos, List.dropWhile_cons_of_neg (by simp)]
        intro c member
        have other : c ≠ '.' := fun same => not_mem_digits before (same ▸ member)
        simpa using other
      rw [literalValue, cut, List.filter_append, filter_digits before,
        List.filter_cons_of_neg (by simp [isDigit_point]), filter_digits behind]
      rfl

theorem Literal.isNumber {run : Text} {value : Float} (literal : Literal run value) :
    IsNumber run ∧ ∀ c ∈ run, isNumeric c = true := by
  cases literal with
  | whole proper all =>
      obtain ⟨c, rest, rfl⟩ := List.exists_cons_of_ne_nil proper
      refine ⟨⟨⟨c, List.mem_cons_self, all c List.mem_cons_self⟩, ?_⟩, ?_⟩
      · rw [List.count_eq_zero_of_not_mem (not_mem_digits all)]
        exact Nat.zero_le 1
      · intro d member
        exact isNumeric_of_isDigit (all d member)
  | @pointed digits decimals proper all =>
      have absent := not_mem_digits all
      rw [List.mem_append, not_or] at absent
      obtain ⟨c, rest, split⟩ := List.exists_cons_of_ne_nil proper
      have member : c ∈ digits ++ decimals := split ▸ List.mem_cons_self
      refine ⟨⟨⟨c, ?_, all c member⟩, ?_⟩, ?_⟩
      · rcases List.mem_append.mp member with front | back
        · exact List.mem_append_left _ front
        · exact List.mem_append_right _ (List.mem_cons_of_mem _ back)
      · rw [List.count_append, List.count_cons_self, List.count_eq_zero_of_not_mem absent.1,
          List.count_eq_zero_of_not_mem absent.2]
      · intro d member
        rcases List.mem_append.mp member with front | back
        · exact isNumeric_of_isDigit (all d (List.mem_append_left _ front))
        · rcases List.mem_cons.mp back with rfl | back
          · decide
          · exact isNumeric_of_isDigit (all d (List.mem_append_right _ back))

/-- Every run with a digit and at most one point is written in one of the two ways. -/
theorem exists_literal {run : Text} (numeric : ∀ c ∈ run, isNumeric c = true)
    (number : IsNumber run) : ∃ value, Literal run value := by
  have digit_of {c : Char} (member : c ∈ run) (other : c ≠ '.') : Text.isDigit c = true := by
    have either := numeric c member
    simpa [isNumeric, other] using either
  obtain ⟨⟨c, member, digit⟩, few⟩ := number
  -- The only point parts the digits before it from the decimals.
  by_cases point : '.' ∈ run
  · obtain ⟨digits, decimals, rfl, before⟩ := List.eq_append_cons_of_mem point
    have behind : '.' ∉ decimals := by
      rw [List.count_append, List.count_cons_self] at few
      exact List.count_eq_zero.mp (by omega)
    refine ⟨_, @Literal.pointed digits decimals ?_ ?_⟩
    · intro empty
      rw [List.append_eq_nil_iff] at empty
      rw [empty.1, empty.2] at member
      rw [List.mem_singleton.mp member, isDigit_point] at digit
      cases digit
    · intro d among
      rcases List.mem_append.mp among with front | back
      · exact digit_of (List.mem_append_left _ front) fun same => before (same ▸ front)
      · exact digit_of (List.mem_append_right _ (List.mem_cons_of_mem _ back))
          fun same => behind (same ▸ back)
  · refine ⟨_, .whole (List.ne_nil_of_mem member) ?_⟩
    intro d among
    exact digit_of among fun same => point (same ▸ among)

theorem isLiteral_iff {run : Text} (numeric : ∀ c ∈ run, isNumeric c = true) :
    isLiteral run = true ↔ IsNumber run := by
  have all : run.all isNumeric = true := List.all_eq_true.mpr numeric
  simp [isLiteral, all, IsNumber]

/-! ## Classes of characters -/

/-- The characters of a class join each other and nothing else. -/
def IsClass (among : Char → Bool) : Prop :=
  ∀ a b, among a = true → joins a b = among b ∧ joins b a = among b

theorem not_isPlainLetter_of_isNumeric {c : Char} (numeric : isNumeric c = true) :
    Text.isPlainLetter c = false := by
  simp only [isNumeric, Text.isDigit, Bool.or_eq_true, Bool.and_eq_true, decide_eq_true_eq,
    Char.le_def, UInt32.le_iff_toNat_le] at numeric
  simp only [Text.isPlainLetter, Bool.or_eq_false_iff, Bool.and_eq_false_iff,
    decide_eq_false_iff_not, Char.le_def, UInt32.le_iff_toNat_le]
  have small : '9'.val.toNat < 'A'.val.toNat := by decide
  have large : '9'.val.toNat < 'a'.val.toNat := by decide
  rcases numeric with ⟨-, most⟩ | rfl
  · omega
  · decide

theorem not_isNumeric_of_isPlainLetter {c : Char} (letter : Text.isPlainLetter c = true) :
    isNumeric c = false := by
  by_contra numeric
  rw [not_isPlainLetter_of_isNumeric (by simpa using numeric)] at letter
  cases letter

theorem isClass_isNumeric : IsClass isNumeric := by
  intro a b numeric
  simp [joins, numeric, not_isPlainLetter_of_isNumeric numeric]

theorem isClass_isPlainLetter : IsClass Text.isPlainLetter := by
  intro a b letter
  simp [joins, letter, not_isNumeric_of_isPlainLetter letter]

theorem IsSingle.joins {c : Char} (single : IsSingle c) (d : Char) :
    joins c d = false ∧ joins d c = false := by
  simp [Lexeme.joins, single.1, single.2]

theorem isSingle_of_isBlank {c : Char} (blank : Text.isBlank c = true) : IsSingle c := by
  constructor
  · by_contra numeric
    rw [isBlank_of_isNumeric (by simpa using numeric)] at blank
    cases blank
  · by_contra letter
    rw [isBlank_of_isPlainLetter (by simpa using letter)] at blank
    cases blank

theorem IsClass.isChain {among : Char → Bool} (cls : IsClass among) {run : Text}
    (inside : ∀ c ∈ run, among c = true) : run.IsChain (joins · ·) := by
  induction run with
  | nil => exact List.isChain_nil
  | cons c rest ih =>
      rw [List.isChain_cons]
      refine ⟨fun d next => ?_, ih fun d member => inside d (List.mem_cons_of_mem _ member)⟩
      rw [(cls c d (inside c List.mem_cons_self)).1]
      exact inside d (List.mem_cons_of_mem _ (List.mem_of_mem_head? next))

/-! ## Where two texts meet -/

/-- The characters at the place where two texts meet do not belong to one run. -/
def Apart (first second : Text) : Prop :=
  ∀ a ∈ first.getLast?, ∀ b ∈ second.head?, joins a b = false

theorem Apart.append {first second third : Text} (proper : second ≠ [])
    (apart : Apart second third) : Apart (first ++ second) third := by
  intro a last b next
  rw [List.getLast?_append_of_ne_nil _ proper] at last
  exact apart a last b next

theorem Apart.of_append {first second third : Text} (apart : Apart first (second ++ third)) :
    Apart first second := by
  intro a last b next
  refine apart a last b ?_
  rw [List.head?_append, next]
  rfl

/-- A run is apart from what follows it exactly if that does not go on with its class. -/
theorem IsClass.apart_iff {among : Char → Bool} (cls : IsClass among) {run : Text}
    (proper : run ≠ []) (inside : ∀ c ∈ run, among c = true) (after : Text) :
    Apart run after ↔ ∀ c ∈ after.head?, among c = false := by
  have ends : run.getLast? = some (run.getLast proper) := List.getLast?_eq_some_getLast proper
  have last : among (run.getLast proper) = true := inside _ (List.getLast_mem proper)
  simp only [Apart, ends, Option.mem_some_iff, forall_eq', (cls _ _ last).1]

theorem IsClass.apart_before_iff {among : Char → Bool} (cls : IsClass among) {run : Text}
    (proper : run ≠ []) (inside : ∀ c ∈ run, among c = true) (before : Text) :
    Apart before run ↔ ∀ c ∈ before.getLast?, among c = false := by
  obtain ⟨first, rest, rfl⟩ := List.exists_cons_of_ne_nil proper
  have starts : among first = true := inside first List.mem_cons_self
  simp only [Apart, List.head?_cons, Option.mem_some_iff, forall_eq', (cls _ _ starts).2]

/-! ## Reading from run to run -/

/-- The tokens of a text of any length. -/
def scan (text : Text) : Except SyntaxError (List Token) := Token.ofLexemes (all text)

/-- The tokens of two readings one after the other, or the error of the first that fails. -/
def both (first second : Except SyntaxError (List Token)) : Except SyntaxError (List Token) := do
  let tokens ← first
  let others ← second
  return tokens ++ others

theorem both_ok_nil (second : Except SyntaxError (List Token)) : both (.ok []) second = second := by
  cases second <;> rfl

theorem both_assoc (first second third : Except SyntaxError (List Token)) :
    both (both first second) third = both first (both second third) := by
  cases first <;> cases second <;> cases third <;> simp [both, bind, Except.bind, pure, Except.pure]

theorem both_eq_ok {first second : Except SyntaxError (List Token)} {result : List Token}
    (accepted : both first second = .ok result) :
    ∃ tokens others, first = .ok tokens ∧ second = .ok others ∧ tokens ++ others = result := by
  cases first with
  | error cause => cases accepted
  | ok tokens =>
      cases second with
      | error cause => cases accepted
      | ok others =>
          cases accepted
          exact ⟨tokens, others, rfl, rfl, rfl⟩

theorem ofLexemes_append (first second : List Text) :
    Token.ofLexemes (first ++ second) = both (Token.ofLexemes first) (Token.ofLexemes second) := by
  induction first with
  | nil => exact (both_ok_nil _).symm
  | cons lexeme rest ih =>
      show both (tokens lexeme) (Token.ofLexemes (rest ++ second)) =
        both (both (tokens lexeme) (Token.ofLexemes rest)) (Token.ofLexemes second)
      rw [ih, both_assoc]

/-- **Texts that are apart are read one after the other.** -/
theorem scan_append {first second : Text} (apart : Apart first second) :
    scan (first ++ second) = both (scan first) (scan second) := by
  have cut : all (first ++ second) = all first ++ all second := List.splitBy_append apart
  rw [scan, cut, ofLexemes_append, scan, scan]

theorem scan_lexeme {run : Text} (proper : run ≠ []) (joined : run.IsChain (joins · ·)) :
    scan run = tokens run := by
  have alone : all run = [run] := List.splitBy_of_isChain proper joined
  rw [scan, alone]
  show both (tokens run) (.ok []) = tokens run
  cases tokens run <;> simp [both, bind, Except.bind, pure, Except.pure]

/-- What stands between two texts and is apart from both. -/
theorem scan_between {before run after : Text} (proper : run ≠ [])
    (joined : run.IsChain (joins · ·)) (starts : Apart before run) (ends : Apart run after) :
    scan (before ++ run ++ after) = both (scan before) (both (tokens run) (scan after)) := by
  rw [scan_append (ends.append proper), scan_append starts, scan_lexeme proper joined, both_assoc]

theorem scan_run {among : Char → Bool} (cls : IsClass among) {before run after : Text}
    (whole : IsRun among before run after) :
    scan (before ++ run ++ after) = both (scan before) (both (tokens run) (scan after)) :=
  scan_between whole.proper (cls.isChain whole.inside)
    ((cls.apart_before_iff whole.proper whole.inside before).mpr whole.starts)
    ((cls.apart_iff whole.proper whole.inside after).mpr whole.ends)

theorem scan_single {c : Char} (single : IsSingle c) (before after : Text) :
    scan (before ++ [c] ++ after) = both (scan before) (both (tokens [c]) (scan after)) := by
  refine scan_between (List.cons_ne_nil c []) (List.isChain_singleton c) ?_ ?_
  · intro a _ b same
    cases same
    exact (single.joins a).2
  · intro a same b _
    cases same
    exact (single.joins b).1

/-! ## The tokens of a run -/

theorem tokens_numeric {run : Text} (proper : run ≠ [])
    (numeric : ∀ c ∈ run, isNumeric c = true) : tokens run = (number run).map ([·]) := by
  obtain ⟨c, rest, rfl⟩ := List.exists_cons_of_ne_nil proper
  have first := numeric c List.mem_cons_self
  rw [tokens, if_neg (by simp [isBlank_of_isNumeric first]), if_pos first]

theorem tokens_letters {run : Text} (proper : run ≠ [])
    (letters : ∀ c ∈ run, Text.isPlainLetter c = true) : tokens run = (word run).map ([·]) := by
  obtain ⟨c, rest, rfl⟩ := List.exists_cons_of_ne_nil proper
  have first := letters c List.mem_cons_self
  rw [tokens, if_neg (by simp [isBlank_of_isPlainLetter first]),
    if_neg (by simp [not_isNumeric_of_isPlainLetter first]), if_pos first]

theorem tokens_literal {run : Text} {value : Float} (literal : Literal run value) :
    tokens run = .ok [.number value] := by
  obtain ⟨isNumber, numeric⟩ := literal.isNumber
  obtain ⟨⟨c, member, -⟩, -⟩ := id isNumber
  rw [tokens_numeric (List.ne_nil_of_mem member) numeric, number,
    if_pos ((isLiteral_iff numeric).mpr isNumber), literal.eq_literalValue]
  rfl

theorem tokens_malformed {run : Text} (proper : run ≠ [])
    (numeric : ∀ c ∈ run, isNumeric c = true) (bad : ¬IsNumber run) :
    tokens run = .error (.malformedNumber run) := by
  rw [tokens_numeric proper numeric, number, if_neg (by rwa [isLiteral_iff numeric])]
  rfl

theorem tokens_name (f : Function) : tokens f.name = .ok [.function f] := by
  cases f <;> rfl

theorem tokens_unknown {run : Text} (proper : run ≠ [])
    (letters : ∀ c ∈ run, Text.isPlainLetter c = true) (unknown : ∀ f : Function, f.name ≠ run) :
    tokens run = .error (.unknownFunction run) := by
  have unnamed : Function.ofName? run = none := by
    cases found : Function.ofName? run with
    | none => rfl
    | some f => exact absurd (Function.name_of_ofName? found) (unknown f)
  rw [tokens_letters proper letters, word, unnamed]
  rfl

theorem tokens_symbol (op : BinaryOperator) :
    tokens [op.symbol] = .ok [.operator (.binary op)] := by
  cases op <;> rfl

theorem tokens_stray {c : Char} (single : IsSingle c) (bad : ¬IsSign c) :
    tokens [c] = .error (.unexpectedCharacter c) := by
  simp only [IsSign, not_or, not_exists] at bad
  obtain ⟨visible, no_opening, no_closing, no_symbol⟩ := bad
  have other : BinaryOperator.ofSymbol? c = none := by
    cases found : BinaryOperator.ofSymbol? c with
    | none => rfl
    | some op => exact absurd (BinaryOperator.symbol_of_ofSymbol? found) (no_symbol op)
  rw [tokens, if_neg visible, if_neg (by simp [single.1]), if_neg (by simp [single.2]), sign,
    if_neg no_opening, if_neg no_closing, other]
  rfl

theorem isPlainLetter_of_mem_name {f : Function} {c : Char} (member : c ∈ f.name) :
    Text.isPlainLetter c = true := by
  have all : f.name.all Text.isPlainLetter = true := by cases f <;> decide
  exact List.all_eq_true.mp all c member

theorem name_ne_nil (f : Function) : f.name ≠ [] := by
  cases f <;> decide

end Lexeme

end Reckoner
