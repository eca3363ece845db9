import Mathlib.Data.List.SplitBy
import Reckoner.Console.Highlight.Scan
import Reckoner.Proofs.Expression.Runs

/-!
# Expressions in colours

The spans of an expression put together are the expression (`text_spans`), and they are cut at both
ends of each maximal run of letters or of digits, points and π, and on both sides of every other
character (`IsClass.spans_run`, `spans_single`). One pass with two flags makes the same spans: what
it has collected is always the run that the text read so far ends in (`Scan.Represents`).
-/

namespace Reckoner.Highlight

variable (surroundings : Style) (palette : Palette)

/-! ## Classes of characters -/

theorem not_isWordy_of_isNumeric {c : Char} (numeric : isNumeric c = true) : isWordy c = false := by
  rw [isNumeric, Bool.or_eq_true, Bool.or_eq_true, decide_eq_true_eq, decide_eq_true_eq] at numeric
  have below {d : Char} (low : d.toNat < 0x41) : isWordy d = false := by
    have letter : Text.isLetter d = false := if_pos low
    rw [isWordy, letter, Bool.false_and]
  rcases numeric with (digit | rfl) | rfl
  · simp only [Text.isDigit, Bool.and_eq_true, decide_eq_true_eq, Char.le_def,
      UInt32.le_iff_toNat_le] at digit
    exact below (Nat.lt_of_le_of_lt digit.2 (by decide))
  · decide
  · rw [isWordy, decide_eq_false (fun differs => differs rfl), Bool.and_false]

theorem not_isNumeric_of_isWordy {c : Char} (wordy : isWordy c = true) : isNumeric c = false := by
  by_contra numeric
  rw [not_isWordy_of_isNumeric (by simpa using numeric)] at wordy
  cases wordy

/-- Operators and their glyphs stand neither in words nor in numbers. -/
theorem apart_of_isOperator {c : Char} (operator : Spacing.isOperator c = true) :
    isWordy c = false ∧ isNumeric c = false := by
  rw [Spacing.isOperator, Bool.or_eq_true, Bool.or_eq_true, decide_eq_true_eq,
    decide_eq_true_eq] at operator
  rcases operator with (symbol | rfl) | rfl
  · obtain ⟨op, found⟩ := Option.isSome_iff_exists.mp symbol
    obtain rfl := BinaryOperator.symbol_of_ofSymbol? found
    cases op <;> decide
  · decide
  · decide

/-- The characters of a class are in one span with each other and with nothing else. -/
def IsClass (among : Char → Bool) : Prop :=
  ∀ a b, among a = true → joins a b = among b ∧ joins b a = among b

theorem isClass_isWordy : IsClass isWordy := by
  intro a b wordy
  simp [joins, wordy, not_isNumeric_of_isWordy wordy]

theorem isClass_isNumeric : IsClass isNumeric := by
  intro a b numeric
  simp [joins, numeric, not_isWordy_of_isNumeric numeric]

/-! ## Where spans are cut -/

theorem spans_nil : spans surroundings palette [] = [] := rfl

/-- Texts that are not joined where they meet are highlighted one after the other. -/
theorem spans_append {first second : Text}
    (apart : ∀ a ∈ first.getLast?, ∀ b ∈ second.head?, joins a b = false) :
    spans surroundings palette (first ++ second) =
      spans surroundings palette first ++ spans surroundings palette second := by
  rw [spans, List.splitBy_append apart, List.map_append, spans, spans]

theorem spans_joined {run : Text} (proper : run ≠ []) (joined : run.IsChain (joins · ·)) :
    spans surroundings palette run = [⟨run, styleOf surroundings palette run⟩] := by
  rw [spans, List.splitBy_of_isChain proper joined, List.map_singleton]

theorem IsClass.isChain {among : Char → Bool} (cls : IsClass among) {run : Text}
    (inside : ∀ c ∈ run, among c = true) : run.IsChain (joins · ·) := by
  apply List.Pairwise.isChain
  apply List.pairwise_of_forall_mem_list
  intro a first b second
  rw [(cls a b (inside a first)).1]
  exact inside b second

/-- **A maximal run is one span**, with what stands before it and what stands behind it highlighted
as they are by themselves. -/
theorem IsClass.spans_run {among : Char → Bool} (cls : IsClass among) {before run after : Text}
    (whole : Lexeme.IsRun among before run after) :
    spans surroundings palette (before ++ run ++ after) =
      spans surroundings palette before ++ [⟨run, styleOf surroundings palette run⟩] ++
        spans surroundings palette after := by
  rw [spans_append, spans_append,
    spans_joined surroundings palette whole.proper (cls.isChain whole.inside)]
  · intro a last b first
    have inside := whole.inside b (List.mem_of_mem_head? first)
    rw [(cls b a inside).2]
    exact whole.starts a last
  · intro a last b first
    rw [List.getLast?_append_of_ne_nil _ whole.proper] at last
    have inside := whole.inside a (List.mem_of_getLast? last)
    rw [(cls a b inside).1]
    exact whole.ends b first

/-- **A character of no run is a span.** -/
theorem spans_single {c : Char} (word : isWordy c = false) (number : isNumeric c = false)
    (before after : Text) :
    spans surroundings palette (before ++ [c] ++ after) =
      spans surroundings palette before ++ [⟨[c], styleOf surroundings palette [c]⟩] ++
        spans surroundings palette after := by
  have alone (d : Char) : joins c d = false ∧ joins d c = false := by simp [joins, word, number]
  rw [spans_append, spans_append,
    spans_joined surroundings palette (List.cons_ne_nil c []) (List.isChain_singleton c)]
  · intro a _ b same
    cases same
    exact (alone a).2
  · intro a last b _
    rw [List.getLast?_append_of_ne_nil _ (List.cons_ne_nil c [])] at last
    cases last
    exact (alone b).1

/-! ## Styles -/

theorem styleOf_word {run : Text} (proper : run ≠ []) (inside : ∀ c ∈ run, isWordy c = true) :
    styleOf surroundings palette run = wordStyle surroundings palette run := by
  obtain ⟨c, rest, rfl⟩ := List.exists_cons_of_ne_nil proper
  exact if_pos (inside c List.mem_cons_self)

theorem styleOf_number {run : Text} (proper : run ≠ []) (inside : ∀ c ∈ run, isNumeric c = true) :
    styleOf surroundings palette run = numberStyle palette := by
  obtain ⟨c, rest, rfl⟩ := List.exists_cons_of_ne_nil proper
  have numeric := inside c List.mem_cons_self
  have word : ¬isWordy c = true := by
    rw [not_isWordy_of_isNumeric numeric]
    exact Bool.false_ne_true
  exact (if_neg word).trans (if_pos numeric)

theorem styleOf_single {c : Char} (word : isWordy c = false) (number : isNumeric c = false) :
    styleOf surroundings palette [c] = signStyle surroundings palette c := by
  simp [styleOf, signStyle, word, number]

/-! ## One pass -/

/-- A run at the end of a text is its last span. -/
theorem spans_word {before run : Text} (whole : Lexeme.IsRun isWordy before run []) :
    spans surroundings palette (before ++ run) =
      spans surroundings palette before ++ [⟨run, wordStyle surroundings palette run⟩] := by
  have cut := isClass_isWordy.spans_run surroundings palette whole
  rwa [spans_nil, List.append_nil, List.append_nil,
    styleOf_word surroundings palette whole.proper whole.inside] at cut

theorem spans_number {before run : Text} (whole : Lexeme.IsRun isNumeric before run []) :
    spans surroundings palette (before ++ run) =
      spans surroundings palette before ++ [⟨run, numberStyle palette⟩] := by
  have cut := isClass_isNumeric.spans_run surroundings palette whole
  rwa [spans_nil, List.append_nil, List.append_nil,
    styleOf_number surroundings palette whole.proper whole.inside] at cut

theorem spans_sign {c : Char} (word : isWordy c = false) (number : isNumeric c = false)
    (before : Text) :
    spans surroundings palette (before ++ [c]) =
      spans surroundings palette before ++ [⟨[c], signStyle surroundings palette c⟩] := by
  have cut := spans_single surroundings palette word number before []
  rwa [spans_nil, List.append_nil, List.append_nil,
    styleOf_single surroundings palette word number] at cut

section Runs

variable {among : Char → Bool} {before run : Text} {c : Char}

theorem isRun_singleton (starts : ∀ d ∈ before.getLast?, among d = false)
    (member : among c = true) : Lexeme.IsRun among before [c] [] where
  proper := List.cons_ne_nil c []
  inside := List.forall_mem_singleton.mpr member
  starts := starts
  ends := fun _ first => nomatch first

theorem isRun_concat (whole : Lexeme.IsRun among before run []) (member : among c = true) :
    Lexeme.IsRun among before (run ++ [c]) [] where
  proper := List.append_ne_nil_of_left_ne_nil whole.proper [c]
  inside := List.forall_mem_append.mpr ⟨whole.inside, List.forall_mem_singleton.mpr member⟩
  starts := whole.starts
  ends := whole.ends

/-- A text ends in a character of the run it ends in. -/
theorem getLast?_of_isRun (whole : Lexeme.IsRun among before run []) :
    ∀ d ∈ (before ++ run).getLast?, among d = true := by
  intro d last
  rw [List.getLast?_append_of_ne_nil _ whole.proper] at last
  exact whole.inside d (List.mem_of_getLast? last)

end Runs

namespace Scan

/-- What a pass stands for behind the text it has read: the spans of what comes before the run that
the text ends in, and that run, if there is one. -/
inductive Represents : Text → Scan → Prop
  | idle {text : Text}
      (apart : ∀ c ∈ text.getLast?, isWordy c = false ∧ isNumeric c = false) :
      Represents text ⟨spans surroundings palette text, [], false, false⟩
  | word {before run : Text} (whole : Lexeme.IsRun isWordy before run []) :
      Represents (before ++ run) ⟨spans surroundings palette before, run, true, false⟩
  | number {before run : Text} (whole : Lexeme.IsRun isNumeric before run []) :
      Represents (before ++ run) ⟨spans surroundings palette before, run, false, true⟩

theorem represents_sign {c : Char} (word : isWordy c = false) (number : isNumeric c = false)
    (text : Text) :
    Represents surroundings palette (text ++ [c])
      ⟨spans surroundings palette text ++ [⟨[c], signStyle surroundings palette c⟩], [], false,
        false⟩ := by
  rw [← spans_sign surroundings palette word number]
  refine .idle (fun d last => ?_)
  rw [List.getLast?_concat] at last
  cases last
  exact ⟨word, number⟩

variable {surroundings palette}

/-- **One more character** keeps what the pass stands for. -/
theorem Represents.step {text : Text} {scan : Scan}
    (represents : Represents surroundings palette text scan) (c : Char) :
    Represents surroundings palette (text ++ [c]) (scan.step surroundings palette c) := by
  rw [Scan.step]
  -- A run goes on with a character of its own class; any other character ends it as a span.
  split
  next word =>
    cases represents with
    | idle apart => exact .word (isRun_singleton (fun d last => (apart d last).1) word)
    | @word before run whole =>
        rw [List.append_assoc]
        exact .word (isRun_concat whole word)
    | @number before run whole =>
        have starts : ∀ d ∈ (before ++ run).getLast?, isWordy d = false :=
          fun d last => not_isWordy_of_isNumeric (getLast?_of_isRun whole d last)
        have begun : Represents surroundings palette (before ++ run ++ [c])
            ⟨spans surroundings palette (before ++ run), [c], true, false⟩ :=
          .word (isRun_singleton starts word)
        rw [spans_number surroundings palette whole] at begun
        exact begun
  next sign =>
    split
    next number =>
      cases represents with
      | idle apart => exact .number (isRun_singleton (fun d last => (apart d last).2) number)
      | @word before run whole =>
          have starts : ∀ d ∈ (before ++ run).getLast?, isNumeric d = false :=
            fun d last => not_isNumeric_of_isWordy (getLast?_of_isRun whole d last)
          have begun : Represents surroundings palette (before ++ run ++ [c])
              ⟨spans surroundings palette (before ++ run), [c], false, true⟩ :=
            .number (isRun_singleton starts number)
          rw [spans_word surroundings palette whole] at begun
          exact begun
      | @number before run whole =>
          rw [List.append_assoc]
          exact .number (isRun_concat whole number)
    next number =>
      have single := represents_sign surroundings palette (Bool.eq_false_iff.mpr sign)
        (Bool.eq_false_iff.mpr number)
      cases represents with
      | idle apart => exact single _
      | @word before run whole =>
          have behind := single (before ++ run)
          rw [spans_word surroundings palette whole] at behind
          exact behind
      | @number before run whole =>
          have behind := single (before ++ run)
          rw [spans_number surroundings palette whole] at behind
          exact behind

/-- At the end the run that was collected becomes the last span. -/
theorem Represents.finish {text : Text} {scan : Scan}
    (represents : Represents surroundings palette text scan) :
    scan.finish surroundings palette = spans surroundings palette text := by
  cases represents with
  | idle apart => rfl
  | word whole => exact (spans_word surroundings palette whole).symm
  | number whole => exact (spans_number surroundings palette whole).symm

theorem represents_foldl (text : Text) :
    Represents surroundings palette text (text.foldl (step surroundings palette) {}) := by
  induction text using List.reverseRecOn with
  | nil => exact .idle (fun _ last => nomatch last)
  | append_singleton text c ih =>
      rw [List.foldl_concat]
      exact ih.step c

/-- **One pass makes the spans.** -/
theorem run_eq_spans (text : Text) :
    run surroundings palette text = spans surroundings palette text :=
  (represents_foldl text).finish

end Scan

/-! ## What a reader sees -/

theorem text_spans (expression : Text) :
    (spans surroundings palette expression).text = expression := by
  rw [StyledLine.text, spans, List.flatMap_map]
  exact List.flatMap_id.trans (List.flatten_splitBy joins expression)

theorem ne_nil_of_mem_spans {expression : Text} :
    ∀ span ∈ spans surroundings palette expression, span.text ≠ [] := by
  intro span member
  obtain ⟨run, among, rfl⟩ := List.mem_map.mp member
  exact List.ne_nil_of_mem_splitBy among

/-- **Highlighting.** One pass makes the spans of an expression. Put together they are the
expression, and none is empty. Each maximal run of letters is one span, in the style of functions if
it names one and of the surroundings if not; so is each maximal run of digits, points and π, in the
style of numbers; every other character is a span of its own, and every operator, glyphs included, is
one in the style of operators. What stands on either side of these is highlighted as by itself. -/
theorem spans_of_runs (expression : Text) :
    Scan.run surroundings palette expression = spans surroundings palette expression ∧
      (spans surroundings palette expression).text = expression ∧
      (∀ span ∈ spans surroundings palette expression, span.text ≠ []) ∧
      (∀ before run after, expression = before ++ run ++ after →
        Lexeme.IsRun isWordy before run after →
          spans surroundings palette expression =
            spans surroundings palette before ++
              [⟨run, if isFunctionName run then functionStyle palette else surroundings⟩] ++
              spans surroundings palette after) ∧
      (∀ before run after, expression = before ++ run ++ after →
        Lexeme.IsRun isNumeric before run after →
          spans surroundings palette expression =
            spans surroundings palette before ++ [⟨run, numberStyle palette⟩] ++
              spans surroundings palette after) ∧
      (∀ before c after, expression = before ++ [c] ++ after → isWordy c = false →
        isNumeric c = false → ∃ style,
          spans surroundings palette expression =
            spans surroundings palette before ++ [⟨[c], style⟩] ++
              spans surroundings palette after) ∧
      (∀ before c after, expression = before ++ [c] ++ after → Spacing.isOperator c = true →
        spans surroundings palette expression =
          spans surroundings palette before ++ [⟨[c], operatorStyle palette⟩] ++
            spans surroundings palette after) := by
  refine ⟨Scan.run_eq_spans expression, text_spans surroundings palette expression,
    ne_nil_of_mem_spans surroundings palette, ?_, ?_, ?_, ?_⟩
  · rintro before run after rfl whole
    have cut := isClass_isWordy.spans_run surroundings palette whole
    rwa [styleOf_word surroundings palette whole.proper whole.inside] at cut
  · rintro before run after rfl whole
    have cut := isClass_isNumeric.spans_run surroundings palette whole
    rwa [styleOf_number surroundings palette whole.proper whole.inside] at cut
  · rintro before c after rfl word number
    exact ⟨_, spans_single surroundings palette word number before after⟩
  · rintro before c after rfl operator
    obtain ⟨word, number⟩ := apart_of_isOperator operator
    have cut := spans_single surroundings palette word number before after
    have style : signStyle surroundings palette c = operatorStyle palette := if_pos operator
    rwa [styleOf_single surroundings palette word number, style] at cut

/-- The name of a function, and a number with a π in it. -/
theorem spans_of_runs_call :
    Lexeme.IsRun isWordy [] "sqrt".toList "(2π)".toList ∧
      Lexeme.IsRun isNumeric "sqrt(".toList "2π".toList [')'] ∧
      spans Style.plain Theme.cyber.palette "sqrt(2π)".toList =
        [⟨"sqrt".toList, functionStyle Theme.cyber.palette⟩] ++
          spans Style.plain Theme.cyber.palette "(2π)".toList ∧
      spans Style.plain Theme.cyber.palette "sqrt(2π)".toList =
        spans Style.plain Theme.cyber.palette "sqrt(".toList ++
          [⟨"2π".toList, numberStyle Theme.cyber.palette⟩] ++
          spans Style.plain Theme.cyber.palette [')'] := by
  have word : Lexeme.IsRun isWordy [] "sqrt".toList "(2π)".toList := by
    refine ⟨List.cons_ne_nil _ _, List.all_eq_true.mp (by decide), nofun, fun _ first => ?_⟩
    cases first
    decide
  have digits : Lexeme.IsRun isNumeric "sqrt(".toList "2π".toList [')'] := by
    refine ⟨List.cons_ne_nil _ _, List.all_eq_true.mp (by decide), fun _ last => ?_,
      fun _ first => ?_⟩
    · cases last
      decide
    · cases first
      decide
  obtain ⟨-, -, -, words, numbers, -, -⟩ :=
    spans_of_runs Style.plain Theme.cyber.palette "sqrt(2π)".toList
  exact ⟨word, digits, words [] _ _ rfl word, numbers _ _ _ rfl digits⟩

example : (spans Style.plain Theme.cyber.palette "sqrt(16)+π".toList).map Span.text =
    ["sqrt".toList, ['('], "16".toList, [')'], ['+'], ['π']] := by decide +kernel

end Reckoner.Highlight
