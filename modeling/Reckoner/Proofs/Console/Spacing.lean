import Reckoner.Console.Spacing
import Reckoner.Expression.Value
import Reckoner.Proofs.Expression.Glyph
import Reckoner.Proofs.Expression.Reading
import Reckoner.Proofs.Text.Words

/-!
# Expressions as the history shows them

Blanks around operators change no token (`scan_spread`), nor does it matter how much white space
stands between words (`scan_unwords`). Taking white space away can only merge numbers with numbers
and words with words, so it changes nothing where no two of either kind are neighbours
(`Lexeme.Spells.squeeze`). So an expression is shown with the same meaning (`Spacing.scan_format`),
and how it is shown depends on nothing but its visible characters (`Spacing.format_congr`).
-/

namespace Reckoner

/-- Whether two neighbours are kept apart by nothing but white space: two numbers, two functions. -/
def Token.mergesWith : Token → Token → Bool
  | .number _, .number _ => true
  | .function _, .function _ => true
  | _, _ => false

namespace Lexeme

/-! ## Taking white space away -/

theorem squeeze_append_of_visible {run : Text} (visible : ∀ c ∈ run, Text.isBlank c = false)
    (rest : Text) : Text.squeeze (run ++ rest) = run ++ Text.squeeze rest := by
  have whole : Text.squeeze run = run := by
    refine List.filter_eq_self.mpr (fun c member => ?_)
    rw [visible c member]
    rfl
  rw [Text.squeeze_append, whole]

/-- What a text starts with tells what its tokens start with. -/
theorem Spells.starts {text : Text} {tokens : List Token} (spells : Spells text tokens) {c : Char}
    (first : text.head? = some c) :
    (isNumeric c = true → ∃ value others, tokens = .number value :: others) ∧
      (Text.isPlainLetter c = true → ∃ f others, tokens = .function f :: others) := by
  have neither {d : Char} (single : IsSingle d) (same : some d = some c) :
      isNumeric c = false ∧ Text.isPlainLetter c = false := by
    cases same
    exact single
  cases spells with
  | nil => cases first
  | blank blank behind => simp [neither (isSingle_of_isBlank blank) first]
  | opening behind => simp [neither ⟨rfl, rfl⟩ first]
  | closing behind => simp [neither ⟨rfl, rfl⟩ first]
  | operator op behind =>
      have single : IsSingle op.symbol := by cases op <;> exact ⟨rfl, rfl⟩
      simp [neither single first]
  | @number run rest value tokens literal ends behind =>
      obtain ⟨⟨⟨d, member, -⟩, -⟩, numeric⟩ := literal.isNumber
      rw [List.head?_append_of_ne_nil _ (List.ne_nil_of_mem member)] at first
      refine ⟨fun _ => ⟨value, tokens, rfl⟩, fun letter => ?_⟩
      have digit := numeric c (List.mem_of_mem_head? first)
      rw [not_isNumeric_of_isPlainLetter letter] at digit
      cases digit
  | @word f rest tokens ends behind =>
      rw [List.head?_append_of_ne_nil _ (name_ne_nil f)] at first
      refine ⟨fun numeric => ?_, fun _ => ⟨f, tokens, rfl⟩⟩
      have letter := isPlainLetter_of_mem_name (List.mem_of_mem_head? first)
      rw [not_isNumeric_of_isPlainLetter letter] at numeric
      cases numeric

/-- **Where no two neighbours merge, white space may go.** -/
theorem Spells.squeeze {text : Text} {tokens : List Token} (spells : Spells text tokens)
    (apart : tokens.IsChain (fun a b => a.mergesWith b = false)) :
    Spells (Text.squeeze text) tokens := by
  induction spells with
  | nil => exact .nil
  | @blank c rest tokens blank behind ih =>
      have gone : Text.squeeze (c :: rest) = Text.squeeze rest :=
        List.filter_cons_of_neg (by rw [blank]; exact Bool.false_ne_true)
      rw [gone]
      exact ih apart
  | opening behind ih => exact .opening (ih apart.tail)
  | closing behind ih => exact .closing (ih apart.tail)
  | @operator op rest tokens behind ih =>
      have visible : ∀ c ∈ [op.symbol], Text.isBlank c = false := by
        rw [List.forall_mem_singleton]
        cases op <;> rfl
      rw [← List.singleton_append, squeeze_append_of_visible visible]
      exact .operator op (ih apart.tail)
  | @number run rest value tokens literal ends behind ih =>
      have numeric := literal.isNumber.2
      rw [squeeze_append_of_visible (fun c member => isBlank_of_isNumeric (numeric c member))]
      refine .number literal (fun c first => ?_) (ih apart.tail)
      by_contra merged
      obtain ⟨other, others, rfl⟩ := ((ih apart.tail).starts first).1 (by simpa using merged)
      cases (List.isChain_cons_cons.mp apart).1
  | @word f rest tokens ends behind ih =>
      have letters {c : Char} (member : c ∈ f.name) := isPlainLetter_of_mem_name member
      rw [squeeze_append_of_visible (fun c member => isBlank_of_isPlainLetter (letters member))]
      refine .word f (fun c first => ?_) (ih apart.tail)
      by_contra merged
      obtain ⟨other, others, rfl⟩ := ((ih apart.tail).starts first).2 (by simpa using merged)
      cases (List.isChain_cons_cons.mp apart).1

end Lexeme

namespace Glyph

/-! ## White space between words -/

/-- Only white space is spelt as white space. -/
theorem visible_spell {c : Char} (visible : Text.isBlank c = false) :
    ∀ d ∈ spell c, Text.isBlank d = false := by
  have all : (spell c).all (fun d => !Text.isBlank d) = true := by
    by_cases glyph : IsGlyph c
    · rcases glyph with rfl | rfl | rfl
      · decide
      · decide
      · decide
    · rw [spell_of_not_glyph glyph, List.all_cons, visible]
      rfl
  intro d member
  have seen := List.all_eq_true.mp all d member
  rwa [Bool.not_eq_true'] at seen

/-- White space is not spelt, so it may be taken away before or after. -/
theorem spellAll_squeeze (text : Text) :
    spellAll (Text.squeeze text) = Text.squeeze (spellAll text) := by
  induction text with
  | nil => rfl
  | cons c rest ih =>
      rw [spellAll_cons, Text.squeeze_append, ← ih]
      cases blank : Text.isBlank c with
      | true =>
          have gone (others : Text) : Text.squeeze (c :: others) = Text.squeeze others :=
            List.filter_cons_of_neg (by rw [blank]; exact Bool.false_ne_true)
          rw [spell_of_not_glyph (not_isGlyph_of_isBlank blank), gone, gone]
          rfl
      | false =>
          have kept : Text.squeeze (spell c) = spell c := by
            rw [← List.append_nil (spell c), Lexeme.squeeze_append_of_visible (visible_spell blank)]
            rfl
          have whole : Text.squeeze (c :: rest) = c :: Text.squeeze rest := by
            simp [Text.squeeze, blank]
          rw [whole, spellAll_cons, kept]

/-- The readings of words one after the other. -/
def scanEach (words : List Text) : Except SyntaxError (List Token) :=
  words.foldr (fun word behind => Lexeme.both (Lexeme.scan (spellAll word)) behind) (.ok [])

/-- **A text is read word by word.** -/
theorem scan_of_isParted {text : Text} {words : List Text} (parted : Text.IsParted text words) :
    Lexeme.scan (spellAll text) = scanEach words := by
  induction parted with
  | blank blank =>
      rw [Text.isAllBlank, List.all_eq_true] at blank
      rw [spellAll_of_plain (fun c member => not_isGlyph_of_isBlank (blank c member))]
      exact Lexeme.scan_of_spells (Lexeme.spells_of_blanks blank)
  | @word front word rest words before whole apart others ih =>
      rw [Text.isAllBlank, List.all_eq_true] at before
      have parts : Lexeme.Apart (spellAll word) (spellAll rest) := by
        intro a _ b next
        cases rest with
        | nil => cases next
        | cons c later =>
            have blank := apart c rfl
            rw [spellAll_cons, spell_of_not_glyph (not_isGlyph_of_isBlank blank)] at next
            cases next
            exact ((Lexeme.isSingle_of_isBlank blank).joins a).2
      rw [spellAll_append, spellAll_append,
        spellAll_of_plain (fun c member => not_isGlyph_of_isBlank (before c member)),
        Lexeme.scan_append (Lexeme.apart_of_blanks before _).1,
        Lexeme.scan_of_spells (Lexeme.spells_of_blanks before), Lexeme.both_ok_nil,
        Lexeme.scan_append parts, ih]
      rfl

/-- How much white space stands between words makes no difference. -/
theorem scan_unwords (text : Text) :
    Lexeme.scan (spellAll (Text.unwords (Text.words text))) = Lexeme.scan (spellAll text) := by
  rw [scan_of_isParted (Text.isParted_words text),
    scan_of_isParted (Text.isParted_unwords (fun _ => Text.isWord_of_mem_words))]

/-! ## Blanks around operators -/

theorem exists_spell_of_isOperator {c : Char} (operator : Spacing.isOperator c = true) :
    ∃ symbol, spell c = [symbol] ∧ Lexeme.IsSingle symbol := by
  rw [Spacing.isOperator, Bool.or_eq_true, Bool.or_eq_true, decide_eq_true_eq,
    decide_eq_true_eq] at operator
  rcases operator with (symbol | rfl) | rfl
  · obtain ⟨op, found⟩ := Option.isSome_iff_exists.mp symbol
    rw [← BinaryOperator.symbol_of_ofSymbol? found]
    exact ⟨op.symbol, by cases op <;> rfl, by cases op <;> exact ⟨rfl, rfl⟩⟩
  · exact ⟨'*', rfl, rfl, rfl⟩
  · exact ⟨'/', rfl, rfl, rfl⟩

/-- **Blanks around operators** change nothing in how a text is read. -/
theorem scan_spread (before : Text) (previous : Option Char) (text : Text) :
    Lexeme.scan (before ++ spellAll (Spacing.spread previous text)) =
      Lexeme.scan (before ++ spellAll text) := by
  induction text generalizing before previous with
  | nil => rw [Spacing.spread]
  | cons c rest ih =>
      rw [Spacing.spread]
      split
      next spaced =>
        rw [Bool.and_eq_true] at spaced
        obtain ⟨symbol, spelt, single⟩ := exists_spell_of_isOperator spaced.1
        have blank : ∀ d ∈ [' '], Text.isBlank d = true := List.forall_mem_singleton.mpr rfl
        have spread : before ++ spellAll ([' ', c, ' '] ++ Spacing.spread (some c) rest) =
            before ++ [' '] ++
              ([symbol] ++ [' '] ++ spellAll (Spacing.spread (some c) rest)) := by
          rw [spellAll_append, spellAll_cons, spellAll_cons, spelt]
          simp only [List.append_assoc]
          rfl
        rw [spread, Lexeme.scan_blanks (List.cons_ne_nil ' ' []) blank,
          Lexeme.scan_blanks (List.cons_ne_nil ' ' []) blank, ← List.nil_append (spellAll _),
          ih [] (some c), List.nil_append,
          Lexeme.scan_lexeme (List.cons_ne_nil symbol []) (List.isChain_singleton symbol),
          spellAll_cons, spelt, ← List.append_assoc, Lexeme.scan_single single]
      next =>
        rw [spellAll_cons, spellAll_cons, ← List.append_assoc, ← List.append_assoc]
        exact ih (before ++ spell c) (some c)

end Glyph

namespace Spacing

/-! ## The shown expression -/

/-- Blanks around operators leave the visible characters as they are. -/
theorem squeeze_spread (previous : Option Char) (text : Text) :
    Text.squeeze (spread previous text) = Text.squeeze text := by
  induction text generalizing previous with
  | nil => rw [spread]
  | cons c rest ih =>
      have blank : Text.squeeze [' '] = [] := rfl
      have whole : Text.squeeze (c :: rest) =
          Text.squeeze [c] ++ Text.squeeze (spread (some c) rest) := by
        rw [ih (some c), ← Text.squeeze_append, List.singleton_append]
      rw [spread, whole]
      split
      next =>
        have parts : [' ', c, ' '] = [' '] ++ [c] ++ [' '] := rfl
        rw [parts, Text.squeeze_append, Text.squeeze_append, Text.squeeze_append, blank,
          List.append_nil, List.nil_append]
      next => exact Text.squeeze_append [c] _

theorem squeeze_squeeze (text : Text) : Text.squeeze (Text.squeeze text) = Text.squeeze text := by
  rw [Text.squeeze, Text.squeeze, List.filter_filter]
  simp only [Bool.and_self]

/-- The shown expression has the visible characters of the expression. -/
theorem squeeze_format (expression : Text) :
    Text.squeeze (format expression) = Text.squeeze expression := by
  rw [format, Text.squeeze_unwords (fun _ => Text.isWord_of_mem_words), Text.flatten_words,
    squeeze_spread, squeeze_squeeze]

/-- Expressions with the same visible characters are shown alike. -/
theorem format_congr {first second : Text} (same : Text.squeeze first = Text.squeeze second) :
    format first = format second := by
  rw [format, format, same]

/-- The tokens of the shown expression, whatever its length. -/
theorem scan_format (expression : Text) :
    Lexeme.scan (Glyph.spellAll (format expression)) =
      Lexeme.scan (Text.squeeze (Glyph.spellAll expression)) := by
  have spread := Glyph.scan_spread [] none (Text.squeeze expression)
  rw [List.nil_append, List.nil_append] at spread
  rw [format, Glyph.scan_unwords, spread, Glyph.spellAll_squeeze]

/-- **Showing an expression keeps it.** If it is read, no two numbers and no two functions stand
next to each other, and what is shown is not too long, then that is read as the same tokens. In any
case what is shown has the same visible characters in the same order, depends on nothing else, and
is shown as it is. -/
theorem format_keeps (expression : Text) :
    (∀ tokens, Token.ofText (Glyph.spellAll expression) = .ok tokens →
      tokens.IsChain (fun a b => a.mergesWith b = false) →
      (Glyph.spellAll (format expression)).length ≤ Token.maxLength →
        Token.ofText (Glyph.spellAll (format expression)) = .ok tokens) ∧
      Text.squeeze (format expression) = Text.squeeze expression ∧
      (∀ other, Text.squeeze other = Text.squeeze expression →
        format other = format expression) ∧
      format (format expression) = format expression := by
  refine ⟨?_, squeeze_format expression, fun _ => format_congr,
    format_congr (squeeze_format expression)⟩
  intro tokens read apart short
  have spells := Lexeme.scan_eq_ok_iff.mp (Lexeme.scan_of_ofText read)
  rw [Token.ofText, if_neg (Nat.not_lt.mpr short)]
  exact (scan_format expression).trans (Lexeme.scan_of_spells (spells.squeeze apart))

/-- A minus that is a sign, glyphs, and white space in places where none is shown. -/
theorem format_keeps_glyphs :
    Token.ofText (Glyph.spellAll " -2×\tsqrt( π )".toList) =
        .ok [.operator (.binary .sub), .number 2.0, .operator (.binary .mul), .function .sqrt,
          .opening, .number Glyph.pi, .closing] ∧
      format " -2×\tsqrt( π )".toList = "-2 × sqrt(π)".toList ∧
      Token.ofText (Glyph.spellAll "-2 × sqrt(π)".toList) =
        .ok [.operator (.binary .sub), .number 2.0, .operator (.binary .mul), .function .sqrt,
          .opening, .number Glyph.pi, .closing] := by
  have read : Token.ofText (Glyph.spellAll " -2×\tsqrt( π )".toList) =
      .ok [.operator (.binary .sub), .number 2.0, .operator (.binary .mul), .function .sqrt,
        .opening, .number Glyph.pi, .closing] := by decide +kernel
  have shown : format " -2×\tsqrt( π )".toList = "-2 × sqrt(π)".toList := by decide +kernel
  refine ⟨read, shown, ?_⟩
  rw [← shown]
  exact (format_keeps " -2×\tsqrt( π )".toList).1 _ read (by decide) (by decide +kernel)

end Spacing

end Reckoner
