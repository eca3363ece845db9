import Reckoner.Proofs.Expression.Runs

/-!
# What a text is read as

* A text is accepted exactly if every run and every character of it is in order, wherever it stands
  (`Lexeme.Sound`);
* its tokens are those of its runs and symbols, in order (`Lexeme.Spells`);
* otherwise the error names the leftmost run or character that is not (`Lexeme.FirstFault`).

White space parts what it stands between and does nothing else (`Lexeme.scan_blanks`).
-/

namespace Reckoner

namespace Lexeme

/-- Whatever stands anywhere in the text is in order. -/
structure Sound (text : Text) : Prop where
  numbers : ∀ before run after, text = before ++ run ++ after →
    IsRun isNumeric before run after → IsNumber run
  words : ∀ before run after, text = before ++ run ++ after →
    IsRun Text.isPlainLetter before run after → ∃ f : Function, f.name = run
  signs : ∀ c ∈ text, IsSingle c → IsSign c

/-- The tokens of a text: one for each run of digits and points, for each word and for each symbol,
in order. White space has none. -/
inductive Spells : Text → List Token → Prop where
  | nil : Spells [] []
  | blank {c : Char} {rest : Text} {tokens : List Token} (blank : Text.isBlank c = true)
      (behind : Spells rest tokens) : Spells (c :: rest) tokens
  | opening {rest : Text} {tokens : List Token} (behind : Spells rest tokens) :
      Spells ('(' :: rest) (.opening :: tokens)
  | closing {rest : Text} {tokens : List Token} (behind : Spells rest tokens) :
      Spells (')' :: rest) (.closing :: tokens)
  | operator (op : BinaryOperator) {rest : Text} {tokens : List Token}
      (behind : Spells rest tokens) :
      Spells (op.symbol :: rest) (.operator (.binary op) :: tokens)
  | number {run rest : Text} {value : Float} {tokens : List Token} (literal : Literal run value)
      (ends : ∀ c ∈ rest.head?, isNumeric c = false) (behind : Spells rest tokens) :
      Spells (run ++ rest) (.number value :: tokens)
  | word (f : Function) {rest : Text} {tokens : List Token}
      (ends : ∀ c ∈ rest.head?, Text.isPlainLetter c = false) (behind : Spells rest tokens) :
      Spells (f.name ++ rest) (.function f :: tokens)

/-- A run or a character that is no token and no white space, and the error that names it. -/
inductive Fault (before : Text) : Text → Text → SyntaxError → Prop where
  | number {run after : Text} (whole : IsRun isNumeric before run after) (bad : ¬IsNumber run) :
      Fault before run after (.malformedNumber run)
  | word {run after : Text} (whole : IsRun Text.isPlainLetter before run after)
      (unknown : ∀ f : Function, f.name ≠ run) : Fault before run after (.unknownFunction run)
  | sign {c : Char} {after : Text} (single : IsSingle c) (bad : ¬IsSign c) :
      Fault before [c] after (.unexpectedCharacter c)

/-- The leftmost fault of a text: what stands before it is in order and spells tokens. -/
def FirstFault (text : Text) (cause : SyntaxError) : Prop :=
  ∃ before run after tokens, text = before ++ run ++ after ∧ Spells before tokens ∧
    Fault before run after cause

/-! ## Tokens in order -/

/-- **The tokens that a text spells are the ones that are read.** -/
theorem scan_of_spells {text : Text} {tokens : List Token} (spells : Spells text tokens) :
    scan text = .ok tokens := by
  induction spells with
  | nil => rfl
  | @blank c rest _ blank _ ih =>
      have read := scan_single (isSingle_of_isBlank blank) [] rest
      rw [tokens_of_isBlank blank, ih] at read
      exact read
  | @opening rest _ _ ih =>
      have read := scan_single (c := '(') ⟨rfl, rfl⟩ [] rest
      rw [ih] at read
      exact read
  | @closing rest _ _ ih =>
      have read := scan_single (c := ')') ⟨rfl, rfl⟩ [] rest
      rw [ih] at read
      exact read
  | @operator op rest _ _ ih =>
      have single : IsSingle op.symbol := by cases op <;> exact ⟨rfl, rfl⟩
      have read := scan_single single [] rest
      rw [tokens_symbol, ih] at read
      exact read
  | @number run rest value _ literal ends _ ih =>
      obtain ⟨⟨⟨c, member, -⟩, -⟩, numeric⟩ := literal.isNumber
      have whole : IsRun isNumeric [] run rest :=
        ⟨List.ne_nil_of_mem member, numeric, by simp, ends⟩
      have read := scan_run isClass_isNumeric whole
      rw [tokens_literal literal, ih] at read
      exact read
  | @word f rest _ ends _ ih =>
      have whole : IsRun Text.isPlainLetter [] f.name rest :=
        ⟨name_ne_nil f, fun c member => isPlainLetter_of_mem_name member, by simp, ends⟩
      have read := scan_run isClass_isPlainLetter whole
      rw [tokens_name, ih] at read
      exact read

/-- A fault is rejected with its error. -/
theorem scan_of_fault {before run after : Text} {tokens : List Token} {cause : SyntaxError}
    (spells : Spells before tokens) (fault : Fault before run after cause) :
    scan (before ++ run ++ after) = .error cause := by
  cases fault with
  | number whole bad =>
      rw [scan_run isClass_isNumeric whole, scan_of_spells spells,
        tokens_malformed whole.proper whole.inside bad]
      rfl
  | word whole unknown =>
      rw [scan_run isClass_isPlainLetter whole, scan_of_spells spells,
        tokens_unknown whole.proper whole.inside unknown]
      rfl
  | sign single bad =>
      rw [scan_single single, scan_of_spells spells, tokens_stray single bad]
      rfl

/-- What stands at the front of a text: a run of digits and points, a word, or one character. -/
inductive IsLexeme : Text → Prop where
  | number {run : Text} (proper : run ≠ []) (inside : ∀ c ∈ run, isNumeric c = true) : IsLexeme run
  | word {run : Text} (proper : run ≠ []) (inside : ∀ c ∈ run, Text.isPlainLetter c = true) :
      IsLexeme run
  | sign {c : Char} (single : IsSingle c) : IsLexeme [c]

/-- The longest run of a class at the front of a text. -/
theorem exists_run {among : Char → Bool} (cls : IsClass among) {c : Char}
    (starts : among c = true) (rest : Text) :
    ∃ run after, c :: rest = run ++ after ∧ run ≠ [] ∧ (∀ d ∈ run, among d = true) ∧
      Apart run after := by
  have proper : (c :: rest).takeWhile among ≠ [] := by
    rw [List.takeWhile_cons_of_pos starts]
    exact List.cons_ne_nil c _
  have inside : ∀ d ∈ (c :: rest).takeWhile among, among d = true :=
    fun d member => List.mem_takeWhile_imp member
  refine ⟨_, _, (List.takeWhile_append_dropWhile (p := among)).symm, proper, inside, ?_⟩
  rw [cls.apart_iff proper inside]
  intro d next
  have stopped := List.head?_dropWhile_not among (c :: rest)
  rw [next] at stopped
  simpa using stopped

theorem exists_lexeme {text : Text} (proper : text ≠ []) :
    ∃ first rest, text = first ++ rest ∧ IsLexeme first ∧ first ≠ [] ∧ Apart first rest := by
  obtain ⟨c, rest, rfl⟩ := List.exists_cons_of_ne_nil proper
  by_cases numeric : isNumeric c = true
  · obtain ⟨run, after, whole, proper, inside, apart⟩ := exists_run isClass_isNumeric numeric rest
    exact ⟨run, after, whole, .number proper inside, proper, apart⟩
  · by_cases letter : Text.isPlainLetter c = true
    · obtain ⟨run, after, whole, proper, inside, apart⟩ :=
        exists_run isClass_isPlainLetter letter rest
      exact ⟨run, after, whole, .word proper inside, proper, apart⟩
    · have single : IsSingle c := ⟨by simpa using numeric, by simpa using letter⟩
      refine ⟨[c], rest, rfl, .sign single, List.cons_ne_nil c [], ?_⟩
      intro a same d _
      cases same
      exact (single.joins d).1

theorem Spells.sign {c : Char} (isSign : IsSign c) :
    ∃ here, ∀ rest tokens, Spells rest tokens → Spells (c :: rest) (here ++ tokens) := by
  rcases isSign with blank | rfl | rfl | ⟨op, rfl⟩
  · exact ⟨[], fun _ _ behind => .blank blank behind⟩
  · exact ⟨[.opening], fun _ _ behind => .opening behind⟩
  · exact ⟨[.closing], fun _ _ behind => .closing behind⟩
  · exact ⟨[.operator (.binary op)], fun _ _ behind => .operator op behind⟩

/-- A lexeme spells its token in front of whatever is apart from it, or it is a fault there. -/
theorem IsLexeme.spells_or_fault {first : Text} (lexeme : IsLexeme first) :
    (∃ here, ∀ rest tokens, Apart first rest → Spells rest tokens →
        Spells (first ++ rest) (here ++ tokens)) ∨
      ∃ cause, ∀ rest, Apart first rest → Fault [] first rest cause := by
  cases lexeme with
  | number proper inside =>
      by_cases isNumber : IsNumber first
      · left
        obtain ⟨value, literal⟩ := exists_literal inside isNumber
        refine ⟨[.number value], fun rest tokens apart behind => ?_⟩
        exact .number literal ((isClass_isNumeric.apart_iff proper inside rest).mp apart) behind
      · right
        refine ⟨_, fun rest apart => .number ⟨proper, inside, by simp, ?_⟩ isNumber⟩
        exact (isClass_isNumeric.apart_iff proper inside rest).mp apart
  | word proper inside =>
      have ends (rest : Text) := isClass_isPlainLetter.apart_iff proper inside rest
      by_cases known : ∃ f : Function, f.name = first
      · left
        obtain ⟨f, rfl⟩ := known
        exact ⟨[.function f], fun rest tokens apart behind => .word f ((ends rest).mp apart) behind⟩
      · right
        rw [not_exists] at known
        exact ⟨_, fun rest apart => .word ⟨proper, inside, by simp, (ends rest).mp apart⟩ known⟩
  | @sign c single =>
      by_cases isSign : IsSign c
      · left
        obtain ⟨here, spells⟩ := Spells.sign isSign
        exact ⟨here, fun rest tokens _ behind => spells rest tokens behind⟩
      · right
        exact ⟨_, fun rest _ => .sign single isSign⟩

theorem IsRun.prepend {among : Char → Bool} (cls : IsClass among) {first before run after : Text}
    (apart : Apart first (before ++ (run ++ after)))
    (whole : IsRun among before run after) : IsRun among (first ++ before) run after := by
  refine ⟨whole.proper, whole.inside, ?_, whole.ends⟩
  intro c last
  -- With nothing between them, the run stands right behind the first text.
  by_cases empty : before = []
  · subst empty
    have meets : Apart first run := @Apart.of_append first run after apart
    rw [List.append_nil] at last
    exact (cls.apart_before_iff whole.proper whole.inside first).mp meets c last
  · rw [List.getLast?_append_of_ne_nil _ empty] at last
    exact whole.starts c last

/-- A fault behind a lexeme is a fault of the whole text. -/
theorem Fault.prepend {first before run after : Text} {cause : SyntaxError}
    (apart : Apart first (before ++ (run ++ after))) (fault : Fault before run after cause) :
    Fault (first ++ before) run after cause := by
  cases fault with
  | number whole bad => exact .number (whole.prepend isClass_isNumeric apart) bad
  | word whole unknown => exact .word (whole.prepend isClass_isPlainLetter apart) unknown
  | sign single bad => exact .sign single bad

/-- **Every text spells tokens or has a first fault.** -/
theorem spells_or_firstFault (text : Text) :
    (∃ tokens, Spells text tokens) ∨ ∃ cause, FirstFault text cause := by
  -- Lexeme by lexeme; a fault behind the first lexeme is first only if that lexeme is in order.
  induction size : text.length using Nat.strongRecOn generalizing text with
  | ind length ih =>
      by_cases empty : text = []
      · subst empty
        exact .inl ⟨[], .nil⟩
      · obtain ⟨first, rest, rfl, lexeme, proper, apart⟩ := exists_lexeme empty
        have shorter : rest.length < length := by
          have := List.length_pos_iff.mpr proper
          rw [← size, List.length_append]
          omega
        rcases lexeme.spells_or_fault with ⟨here, spells⟩ | ⟨cause, fault⟩
        · rcases ih rest.length shorter rest rfl with ⟨tokens, behind⟩ |
            ⟨cause, before, run, after, tokens, rfl, behind, fault⟩
          · exact .inl ⟨_, spells rest tokens apart behind⟩
          · right
            rw [List.append_assoc] at apart
            refine ⟨cause, first ++ before, run, after, here ++ tokens, ?_,
              spells before tokens apart.of_append behind, fault.prepend apart⟩
            simp only [List.append_assoc]
        · exact .inr ⟨cause, [], first, rest, [], rfl, .nil, fault rest apart⟩

theorem scan_eq_ok_iff {text : Text} {tokens : List Token} :
    scan text = .ok tokens ↔ Spells text tokens := by
  constructor
  · intro accepted
    rcases spells_or_firstFault text with ⟨others, spells⟩ |
      ⟨cause, before, run, after, found, rfl, spells, fault⟩
    · rw [scan_of_spells spells] at accepted
      cases accepted
      exact spells
    · rw [scan_of_fault spells fault] at accepted
      cases accepted
  · exact scan_of_spells

/-- What is accepted within the limit of length is accepted. -/
theorem scan_of_ofText {text : Text} {tokens : List Token} (read : Token.ofText text = .ok tokens) :
    scan text = .ok tokens := by
  rw [Token.ofText] at read
  split at read
  · cases read
  · exact read

theorem scan_eq_error_iff {text : Text} {cause : SyntaxError} :
    scan text = .error cause ↔ FirstFault text cause := by
  constructor
  · intro rejected
    rcases spells_or_firstFault text with ⟨tokens, spells⟩ | ⟨other, firstFault⟩
    · rw [scan_of_spells spells] at rejected
      cases rejected
    · obtain ⟨before, run, after, tokens, rfl, spells, fault⟩ := id firstFault
      rw [scan_of_fault spells fault] at rejected
      cases rejected
      exact firstFault
  · rintro ⟨before, run, after, tokens, rfl, spells, fault⟩
    exact scan_of_fault spells fault

/-! ## Texts in order -/

/-- The middle of an accepted text is accepted. -/
theorem tokens_of_both {first third : Except SyntaxError (List Token)} {run : Text}
    {result : List Token} (accepted : both first (both (tokens run) third) = .ok result) :
    ∃ here, tokens run = .ok here := by
  obtain ⟨_, _, _, behind, _⟩ := both_eq_ok accepted
  obtain ⟨here, _, read, _, _⟩ := both_eq_ok behind
  exact ⟨here, read⟩

theorem sound_of_scan {text : Text} {result : List Token} (accepted : scan text = .ok result) :
    Sound text where
  numbers := by
    rintro before run after rfl whole
    rw [scan_run isClass_isNumeric whole] at accepted
    obtain ⟨here, read⟩ := tokens_of_both accepted
    by_contra bad
    rw [tokens_malformed whole.proper whole.inside bad] at read
    cases read
  words := by
    rintro before run after rfl whole
    rw [scan_run isClass_isPlainLetter whole] at accepted
    obtain ⟨here, read⟩ := tokens_of_both accepted
    by_contra unknown
    rw [tokens_unknown whole.proper whole.inside (not_exists.mp unknown)] at read
    cases read
  signs := by
    intro c member single
    obtain ⟨before, after, rfl⟩ := List.append_of_mem member
    rw [← List.singleton_append, ← List.append_assoc, scan_single single] at accepted
    obtain ⟨here, read⟩ := tokens_of_both accepted
    by_contra bad
    rw [tokens_stray single bad] at read
    cases read

/-- A first fault is something that is not in order. -/
theorem FirstFault.not_sound {text : Text} {cause : SyntaxError}
    (firstFault : FirstFault text cause) : ¬Sound text := by
  obtain ⟨before, run, after, tokens, rfl, -, fault⟩ := firstFault
  intro sound
  cases fault with
  | number whole bad => exact bad (sound.numbers before run after rfl whole)
  | word whole unknown =>
      obtain ⟨f, known⟩ := sound.words before run after rfl whole
      exact unknown f known
  | @sign c _ single bad => exact bad (sound.signs c (by simp) single)

theorem scan_accepts_iff {text : Text} : (∃ tokens, scan text = .ok tokens) ↔ Sound text := by
  constructor
  · rintro ⟨tokens, accepted⟩
    exact sound_of_scan accepted
  · intro sound
    rcases spells_or_firstFault text with ⟨tokens, spells⟩ | ⟨cause, firstFault⟩
    · exact ⟨tokens, scan_of_spells spells⟩
    · exact absurd sound firstFault.not_sound

/-! ## White space -/

theorem spells_of_blanks {blanks : Text} (blank : ∀ c ∈ blanks, Text.isBlank c = true) :
    Spells blanks [] := by
  induction blanks with
  | nil => exact .nil
  | cons c rest ih =>
      refine .blank (blank c List.mem_cons_self) (ih fun d member => ?_)
      exact blank d (List.mem_cons_of_mem _ member)

theorem apart_of_blanks {blanks : Text} (blank : ∀ c ∈ blanks, Text.isBlank c = true)
    (other : Text) : Apart blanks other ∧ Apart other blanks := by
  constructor
  · intro a last b _
    exact ((isSingle_of_isBlank (blank a (List.mem_of_getLast? last))).joins b).1
  · intro a _ b next
    exact ((isSingle_of_isBlank (blank b (List.mem_of_mem_head? next))).joins a).2

/-- **White space parts what stands before it from what stands behind it**, and does nothing
else. -/
theorem scan_blanks {first blanks second : Text} (proper : blanks ≠ [])
    (blank : ∀ c ∈ blanks, Text.isBlank c = true) :
    scan (first ++ blanks ++ second) = both (scan first) (scan second) := by
  obtain ⟨ends, -⟩ := apart_of_blanks blank second
  obtain ⟨-, starts⟩ := apart_of_blanks blank first
  rw [scan_append (ends.append proper), scan_append starts, scan_of_spells (spells_of_blanks blank),
    both_assoc, both_ok_nil]

end Lexeme

namespace Token

/-- **What a text is read as.** A text within the limit of length is accepted exactly if all its
runs and characters are in order; its tokens are those it spells, and otherwise the error is that
of its first fault. White space is read as a parting of what it stands between, so it changes
nothing where two lexemes meet and splits a run in which it stands. A longer text is rejected,
whatever it holds. -/
theorem ofText_iff (text : Text) :
    (text.length ≤ maxLength →
      ((∃ tokens, ofText text = .ok tokens) ↔ Lexeme.Sound text) ∧
      (∀ tokens, ofText text = .ok tokens ↔ Lexeme.Spells text tokens) ∧
      (∀ cause, ofText text = .error cause ↔ Lexeme.FirstFault text cause) ∧
      ∀ first blanks second, text = first ++ blanks ++ second → blanks ≠ [] →
        (∀ c ∈ blanks, Text.isBlank c = true) →
          ofText text = Lexeme.both (ofText first) (ofText second) ∧
          (Lexeme.Apart first second → ofText text = ofText (first ++ second))) ∧
    (maxLength < text.length → ofText text = .error (.tooLong text.length maxLength)) := by
  have within {short : Text} (fits : short.length ≤ maxLength) :
      ofText short = Lexeme.scan short := by
    rw [ofText, if_neg (Nat.not_lt.mpr fits), Lexeme.scan]
  constructor
  · intro fits
    rw [within fits]
    refine ⟨Lexeme.scan_accepts_iff, fun tokens => Lexeme.scan_eq_ok_iff,
      fun cause => Lexeme.scan_eq_error_iff, ?_⟩
    rintro first blanks second rfl proper blank
    rw [List.length_append, List.length_append] at fits
    have parted := @Lexeme.scan_blanks first blanks second proper blank
    rw [within (by omega : first.length ≤ maxLength), within (by omega : second.length ≤ maxLength)]
    refine ⟨parted, fun apart => ?_⟩
    rw [within (by rw [List.length_append]; omega), Lexeme.scan_append apart, parted]
  · intro long
    rw [ofText, if_pos long]

/-- In `1. 5 +` the first blank splits a number and the second stands between two lexemes. -/
theorem ofText_split_number :
    "1. 5 +".toList.length ≤ maxLength ∧
      ((∃ tokens, ofText "1. 5 +".toList = .ok tokens) ↔ Lexeme.Sound "1. 5 +".toList) ∧
      (∀ tokens, ofText "1. 5 +".toList = .ok tokens ↔ Lexeme.Spells "1. 5 +".toList tokens) ∧
      (∀ cause, ofText "1. 5 +".toList = .error cause ↔
        Lexeme.FirstFault "1. 5 +".toList cause) ∧
      ofText "1. 5 +".toList = Lexeme.both (ofText "1.".toList) (ofText "5 +".toList) ∧
      ofText "1. 5 +".toList = ofText "1. 5+".toList ∧
      maxLength < (Text.copies 1025 'x').length ∧
      ofText (Text.copies 1025 'x') = .error (.tooLong 1025 maxLength) := by
  have fits : "1. 5 +".toList.length ≤ maxLength := by decide
  have count : (Text.copies 1025 'x').length = 1025 := List.length_replicate
  have long : maxLength < (Text.copies 1025 'x').length := by
    rw [count]
    decide
  have blank : ∀ c ∈ [' '], Text.isBlank c = true := List.all_eq_true.mp (by decide)
  obtain ⟨sound, spells, fault, spaced⟩ := (ofText_iff "1. 5 +".toList).1 fits
  have inside := (spaced "1.".toList [' '] "5 +".toList rfl (List.cons_ne_nil _ _) blank).1
  have between := (spaced "1. 5".toList [' '] "+".toList rfl (List.cons_ne_nil _ _) blank).2
  have rejected := (ofText_iff (Text.copies 1025 'x')).2 long
  rw [count] at rejected
  refine ⟨fits, sound, spells, fault, inside, between ?_, long, rejected⟩
  intro a last b next
  cases last
  cases next
  decide

end Token

end Reckoner
