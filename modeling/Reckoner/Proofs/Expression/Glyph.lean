import Reckoner.Expression.Value
import Reckoner.Proofs.Expression.Lexemes

/-!
# Glyphs and the tokens they stand for

Glyphs are spelt out before a text is cut into lexemes. The tokens are those of the glyphs
themselves as long as no π touches a number or another π: its digits would join theirs
(`joins_edge`), which leaves fewer lexemes than there were.
-/

namespace Reckoner.Glyph

/-! ## Tokens of glyphs -/

/-- The number π. -/
def pi : Float := 3.141592653589793

/-- The tokens of a lexeme that may be a glyph. -/
def tokens (lexeme : Text) : Except SyntaxError (List Token) :=
  if lexeme = ['×'] then .ok [.operator (.binary .mul)]
  else if lexeme = ['÷'] then .ok [.operator (.binary .div)]
  else if lexeme = ['π'] then .ok [.number pi]
  else Lexeme.tokens lexeme

/-- The tokens of a text with glyphs, each of which stands for a token of its own. -/
def ofText (text : Text) : Except SyntaxError (List Token) :=
  if Token.maxLength < text.length then .error (.tooLong text.length Token.maxLength)
  else Lexeme.readAll tokens (Lexeme.all text)

/-! ## Neighbours -/

/-- The character at both ends of what a character stands for. -/
def edge (c : Char) : Char :=
  if c = '×' then '*' else if c = '÷' then '/' else if c = 'π' then '3' else c

/-- Whether a character of a number or a π stands here. -/
def isNumeric (c : Char) : Bool := Lexeme.isNumeric c || c = 'π'

/-- Whether two neighbours would make one number once π is spelt out. -/
def touches (a b : Char) : Bool := (a = 'π' && isNumeric b) || (isNumeric a && b = 'π')

/-- A text in which no π touches a number or another π. -/
def Apart (text : Text) : Prop := text.IsChain (fun a b => touches a b = false)

instance (text : Text) : Decidable (Apart text) :=
  inferInstanceAs (Decidable (text.IsChain _))

/-- The characters that are spelt out. -/
def IsGlyph (c : Char) : Prop := c = '×' ∨ c = '÷' ∨ c = 'π'

theorem spell_of_not_glyph {c : Char} (plain : ¬IsGlyph c) : spell c = [c] := by
  simp only [IsGlyph, not_or] at plain
  rw [spell, if_neg plain.1, if_neg plain.2.1, if_neg plain.2.2]

theorem edge_of_not_glyph {c : Char} (plain : ¬IsGlyph c) : edge c = c := by
  simp only [IsGlyph, not_or] at plain
  rw [edge, if_neg plain.1, if_neg plain.2.1, if_neg plain.2.2]

theorem not_isGlyph_of_isBlank {c : Char} (blank : Text.isBlank c = true) : ¬IsGlyph c := by
  rintro (rfl | rfl | rfl)
  · revert blank
    decide
  · revert blank
    decide
  · revert blank
    decide

theorem isChain_spell (c : Char) : (spell c).IsChain (Lexeme.joins · ·) := by
  rcases em (IsGlyph c) with (rfl | rfl | rfl) | plain
  · decide
  · decide
  · decide
  · rw [spell_of_not_glyph plain]
    exact List.isChain_singleton c

theorem getLast?_spell (c : Char) : (spell c).getLast? = some (edge c) := by
  rcases em (IsGlyph c) with (rfl | rfl | rfl) | plain
  · decide
  · decide
  · decide
  · rw [spell_of_not_glyph plain, edge_of_not_glyph plain]
    rfl

theorem exists_spell_eq_cons (c : Char) : ∃ rest, spell c = edge c :: rest := by
  rcases em (IsGlyph c) with (rfl | rfl | rfl) | plain
  · exact ⟨[], rfl⟩
  · exact ⟨[], rfl⟩
  · exact ⟨_, rfl⟩
  · rw [spell_of_not_glyph plain, edge_of_not_glyph plain]
    exact ⟨[], rfl⟩

theorem isBlank_edge (c : Char) : Text.isBlank (edge c) = Text.isBlank c := by
  rcases em (IsGlyph c) with (rfl | rfl | rfl) | plain
  · decide
  · decide
  · decide
  · rw [edge_of_not_glyph plain]

theorem isPlainLetter_edge (c : Char) : Text.isPlainLetter (edge c) = Text.isPlainLetter c := by
  rcases em (IsGlyph c) with (rfl | rfl | rfl) | plain
  · decide
  · decide
  · decide
  · rw [edge_of_not_glyph plain]

theorem isNumeric_edge (c : Char) : Lexeme.isNumeric (edge c) = isNumeric c := by
  rcases em (IsGlyph c) with (rfl | rfl | rfl) | plain
  · decide
  · decide
  · decide
  · have circle : c ≠ 'π' := fun same => plain (.inr (.inr same))
    rw [edge_of_not_glyph plain, isNumeric, decide_eq_false circle, Bool.or_false]

/-- **Spelling joins what was joined before, and a π to what touches it.** -/
theorem joins_edge (a b : Char) :
    Lexeme.joins (edge a) (edge b) = (Lexeme.joins a b || touches a b) := by
  rw [Lexeme.joins, isNumeric_edge, isNumeric_edge, isPlainLetter_edge, isPlainLetter_edge,
    Lexeme.joins, touches]
  unfold isNumeric
  cases Lexeme.isNumeric a <;> cases Lexeme.isNumeric b <;> cases decide (a = 'π') <;>
    cases decide (b = 'π') <;> simp

/-- A glyph joins nothing before it is spelt out. -/
theorem joins_glyph {c : Char} (glyph : IsGlyph c) (d : Char) :
    Lexeme.joins c d = false ∧ Lexeme.joins d c = false := by
  have numeric : Lexeme.isNumeric c = false := by
    rcases glyph with rfl | rfl | rfl <;> decide
  have letter : Text.isPlainLetter c = false := by
    rcases glyph with rfl | rfl | rfl <;> decide
  simp [Lexeme.joins, numeric, letter]

theorem joins_of_touches {a b : Char} (touching : touches a b = true) :
    Lexeme.joins a b = false := by
  rw [touches, Bool.or_eq_true, Bool.and_eq_true, Bool.and_eq_true] at touching
  rcases touching with ⟨same, _⟩ | ⟨_, same⟩
  · exact (joins_glyph (.inr (.inr (of_decide_eq_true same))) b).1
  · exact (joins_glyph (.inr (.inr (of_decide_eq_true same))) a).2

/-! ## Lexemes of a spelt text -/

theorem spellAll_cons (c : Char) (rest : Text) : spellAll (c :: rest) = spell c ++ spellAll rest :=
  List.flatMap_cons

theorem spellAll_append (first second : Text) :
    spellAll (first ++ second) = spellAll first ++ spellAll second := List.flatMap_append

theorem exists_spellAll_eq_cons (c : Char) (rest : Text) :
    ∃ later, spellAll (c :: rest) = edge c :: later := by
  obtain ⟨behind, spelt⟩ := exists_spell_eq_cons c
  rw [spellAll_cons, spelt]
  exact ⟨behind ++ spellAll rest, rfl⟩

/-- Only π is longer when it is spelt out. -/
theorem length_spellAll (text : Text) :
    (spellAll text).length = text.length + 16 * text.count 'π' := by
  induction text with
  | nil => rfl
  | cons c rest ih =>
      rw [spellAll_cons, List.length_append, ih, List.length_cons]
      rcases em (IsGlyph c) with (rfl | rfl | rfl) | plain
      · rw [List.count_cons_of_ne (by decide), show (spell '×').length = 1 from rfl]
        omega
      · rw [List.count_cons_of_ne (by decide), show (spell '÷').length = 1 from rfl]
        omega
      · rw [List.count_cons_self, show (spell 'π').length = 17 from rfl]
        omega
      · have circle : c ≠ 'π' := fun same => plain (.inr (.inr same))
        rw [List.count_cons_of_ne circle, spell_of_not_glyph plain, List.length_singleton]
        omega

theorem isSpace_spell (c : Char) : Lexeme.isSpace (spell c) = Text.isBlank c := by
  obtain ⟨rest, spelt⟩ := exists_spell_eq_cons c
  rw [spelt, ← isBlank_edge]
  rfl

section Neighbours

variable {a b : Char} (rest : Text)

theorem all_spellAll_of_joins (meets : Lexeme.joins (edge a) (edge b) = true) :
    Lexeme.all (spellAll (a :: b :: rest)) =
      (Lexeme.all (spellAll (b :: rest))).modifyHead (spell a ++ ·) := by
  obtain ⟨behind, start⟩ := exists_spellAll_eq_cons b rest
  rw [spellAll_cons, start]
  exact Lexeme.all_append_of_joins (isChain_spell a) (getLast?_spell a) meets

theorem all_spellAll_of_not_joins (apart : Lexeme.joins (edge a) (edge b) = false) :
    Lexeme.all (spellAll (a :: b :: rest)) = spell a :: Lexeme.all (spellAll (b :: rest)) := by
  obtain ⟨behind, start⟩ := exists_spellAll_eq_cons b rest
  rw [spellAll_cons, start]
  exact Lexeme.all_append_of_not_joins (isChain_spell a) (getLast?_spell a) (by simpa using apart)

theorem words_spellAll_of_joins (meets : Lexeme.joins (edge a) (edge b) = true) :
    Lexeme.words (spellAll (a :: b :: rest)) = Lexeme.words (spellAll (b :: rest)) := by
  obtain ⟨behind, start⟩ := exists_spellAll_eq_cons b rest
  have visible : Lexeme.isSpace (spell a) = false := by
    rw [isSpace_spell, ← isBlank_edge]
    exact (Lexeme.isBlank_of_joins meets).1
  rw [spellAll_cons, start]
  exact Lexeme.words_append_of_joins (isChain_spell a) visible (getLast?_spell a) meets

theorem words_spellAll_of_not_joins (apart : Lexeme.joins (edge a) (edge b) = false) :
    Lexeme.words (spellAll (a :: b :: rest)) =
      Lexeme.words (spellAll (b :: rest)) + if Text.isBlank a then 0 else 1 := by
  obtain ⟨behind, start⟩ := exists_spellAll_eq_cons b rest
  rw [spellAll_cons, start, ← isSpace_spell]
  exact Lexeme.words_append_of_not_joins (isChain_spell a) (getLast?_spell a)
    (by simpa using apart)

end Neighbours

/-- A text of one character is one lexeme, spelt out or not. -/
theorem all_spellAll_singleton (c : Char) : Lexeme.all (spellAll [c]) = [spell c] := by
  rw [spellAll_cons, Lexeme.all_append_of_not_joins (isChain_spell c) (getLast?_spell c)
    (by simp [spellAll])]
  rfl

/-- **Without touching, the lexemes are spelt one by one.** -/
theorem all_spellAll {text : Text} (apart : Apart text) :
    Lexeme.all (spellAll text) = (Lexeme.all text).map spellAll := by
  induction text with
  | nil => rfl
  | cons a rest ih =>
      cases rest with
      | nil =>
          rw [all_spellAll_singleton]
          show [spell a] = [spell a ++ []]
          rw [List.append_nil]
      | cons b rest =>
          obtain ⟨distant, later⟩ := List.isChain_cons_cons.mp apart
          have meeting := joins_edge a b
          rw [distant, Bool.or_false] at meeting
          cases joined : Lexeme.joins a b with
          | true =>
              obtain ⟨first, others, split⟩ := Lexeme.exists_all_cons b rest
              rw [all_spellAll_of_joins rest (meeting.trans joined), ih later,
                Lexeme.all_cons_of_joins joined, split]
              simp [spellAll_cons]
          | false =>
              rw [all_spellAll_of_not_joins rest (meeting.trans joined), ih later,
                Lexeme.all_cons_of_not_joins joined]
              simp [spellAll]

/-- **Where a π touches something, a lexeme is lost**, and none is gained anywhere. -/
theorem words_spellAll (text : Text) :
    Lexeme.words (spellAll text) ≤ Lexeme.words text ∧
      (¬Apart text → Lexeme.words (spellAll text) < Lexeme.words text) := by
  induction text with
  | nil => exact ⟨Nat.le_refl _, fun touching => absurd List.isChain_nil touching⟩
  | cons a rest ih =>
      cases rest with
      | nil =>
          refine ⟨?_, fun touching => absurd (List.isChain_singleton a) touching⟩
          rw [Lexeme.words, all_spellAll_singleton, List.countP_singleton, isSpace_spell]
          exact Nat.le_of_eq List.countP_singleton.symm
      | cons b rest =>
          obtain ⟨fewer, lost⟩ := ih
          have meeting := joins_edge a b
          cases touching : touches a b with
          | true =>
              -- The two are joined once they are spelt, and were two lexemes before.
              rw [touching, Bool.or_true] at meeting
              have visible := (Lexeme.isBlank_of_joins meeting).1
              rw [isBlank_edge] at visible
              rw [words_spellAll_of_joins rest meeting,
                Lexeme.words_cons_of_not_joins (joins_of_touches touching), visible]
              simp only [Bool.false_eq_true, if_false]
              omega
          | false =>
              rw [touching, Bool.or_false] at meeting
              have behind : ¬Apart (a :: b :: rest) → ¬Apart (b :: rest) := by
                intro merged apart
                exact merged (List.isChain_cons_cons.mpr ⟨touching, apart⟩)
              cases joined : Lexeme.joins a b with
              | true =>
                  rw [words_spellAll_of_joins rest (meeting.trans joined),
                    Lexeme.words_cons_of_joins joined]
                  exact ⟨fewer, fun merged => lost (behind merged)⟩
              | false =>
                  rw [words_spellAll_of_not_joins rest (meeting.trans joined),
                    Lexeme.words_cons_of_not_joins joined]
                  exact ⟨Nat.add_le_add_right fewer _,
                    fun merged => Nat.add_lt_add_right (lost (behind merged)) _⟩

/-! ## Tokens of a spelt text -/

theorem spellAll_of_plain {text : Text} (plain : ∀ c ∈ text, ¬IsGlyph c) :
    spellAll text = text := by
  induction text with
  | nil => rfl
  | cons c rest ih =>
      rw [spellAll_cons, ih fun d member => plain d (List.mem_cons_of_mem _ member),
        spell_of_not_glyph (plain c List.mem_cons_self)]
      rfl

/-- A lexeme means what its spelling means. -/
theorem tokens_spellAll {text lexeme : Text} (among : lexeme ∈ Lexeme.all text) :
    Lexeme.tokens (spellAll lexeme) = tokens lexeme := by
  by_cases glyph : ∃ c ∈ lexeme, IsGlyph c
  · obtain ⟨c, inside, glyph⟩ := glyph
    rw [Lexeme.eq_singleton_of_mem (joins_glyph glyph) among inside]
    rcases glyph with rfl | rfl | rfl
    · decide +kernel
    · decide +kernel
    · decide +kernel
  · have plain : ∀ c ∈ lexeme, ¬IsGlyph c := fun c inside same => glyph ⟨c, inside, same⟩
    have differs {c : Char} (same : IsGlyph c) : lexeme ≠ [c] := by
      rintro rfl
      exact glyph ⟨c, List.mem_cons_self, same⟩
    rw [spellAll_of_plain plain, tokens, if_neg (differs (.inl rfl)),
      if_neg (differs (.inr (.inl rfl))), if_neg (differs (.inr (.inr rfl)))]

theorem length_tokens (lexeme : Text) (result : List Token) (accepted : tokens lexeme = .ok result) :
    result.length = if Lexeme.isSpace lexeme then 0 else 1 := by
  unfold tokens at accepted
  split at accepted
  · rename_i same
    cases accepted
    rw [same]
    rfl
  · split at accepted
    · rename_i same
      cases accepted
      rw [same]
      rfl
    · split at accepted
      · rename_i same
        cases accepted
        rw [same]
        rfl
      · exact Lexeme.length_tokens accepted

theorem tokens_eq_error {lexeme : Text} {cause : SyntaxError}
    (failed : tokens lexeme = .error cause) : Lexeme.tokens lexeme = .error cause := by
  unfold tokens at failed
  split at failed
  · cases failed
  · split at failed
    · cases failed
    · split at failed
      · cases failed
      · exact failed

/-- Touching cannot go unnoticed in an accepted text, since tokens are as many as lexemes. -/
theorem apart_of_accepted {text : Text} {result : List Token}
    (spelt : Lexeme.readAll Lexeme.tokens (Lexeme.all (spellAll text)) = .ok result)
    (whole : Lexeme.readAll tokens (Lexeme.all text) = .ok result) : Apart text := by
  have fewer := Lexeme.length_of_readAll (fun _ _ => Lexeme.length_tokens) spelt
  have count := Lexeme.length_of_readAll length_tokens whole
  by_contra touching
  have lost := (words_spellAll text).2 touching
  rw [Lexeme.words, Lexeme.words, ← fewer, ← count] at lost
  exact Nat.lt_irrefl _ lost

/-- Readings of two texts that fail alike fail at the same lexeme. -/
theorem rejected_of_errors {text : Text} {cause : SyntaxError}
    (spelt : Lexeme.readAll Lexeme.tokens (Lexeme.all (spellAll text)) = .error cause)
    (whole : Lexeme.readAll tokens (Lexeme.all text) = .error cause) :
    Lexeme.rejected? Lexeme.tokens (Lexeme.all (spellAll text)) = some (Lexeme.source cause) ∧
      Lexeme.rejected? tokens (Lexeme.all text) = some (Lexeme.source cause) := by
  obtain ⟨fault, first, failed⟩ := Lexeme.readAll_eq_error_iff.mp spelt
  obtain ⟨other, second, rejected⟩ := Lexeme.readAll_eq_error_iff.mp whole
  have same := Lexeme.eq_source_of_error (List.mem_of_find?_eq_some first) failed
  have alike := Lexeme.eq_source_of_error (List.mem_of_find?_eq_some second)
    (tokens_eq_error rejected)
  exact ⟨same ▸ first, alike ▸ second⟩

/-- A text is never rejected for its length once it is cut into lexemes. -/
theorem ne_tooLong {text : Text} {length limit : Nat} :
    Lexeme.readAll tokens (Lexeme.all text) ≠ .error (.tooLong length limit) := by
  intro long
  obtain ⟨fault, first, rejected⟩ := Lexeme.readAll_eq_error_iff.mp long
  have failed := tokens_eq_error rejected
  rw [Lexeme.eq_source_of_error (List.mem_of_find?_eq_some first) failed] at failed
  cases failed

/-- The limit of length is applied to the spelt text. -/
theorem ofText_spellAll_of_long {text : Text}
    (long : Token.maxLength < text.length + 16 * text.count 'π') :
    Token.ofText (spellAll text) =
      .error (.tooLong (text.length + 16 * text.count 'π') Token.maxLength) := by
  rw [Token.ofText, length_spellAll, if_pos long]

theorem ofText_spellAll_of_fits {text : Text}
    (fits : text.length + 16 * text.count 'π' ≤ Token.maxLength) :
    Token.ofText (spellAll text) =
      Lexeme.readAll Lexeme.tokens (Lexeme.all (spellAll text)) := by
  rw [Token.ofText, length_spellAll, if_neg (Nat.not_lt.mpr fits), Lexeme.ofLexemes_eq_readAll]

/-- **When spelling keeps the tokens.** For a text within the limit of length, spelling the glyphs
first gives the tokens of the glyphs, or their error, exactly if the spelt text is within the limit
as well and no π touches a number or another π, or both readings reject the same lexeme first. -/
theorem ofText_spellAll_iff {text : Text} (short : text.length ≤ Token.maxLength) :
    Token.ofText (spellAll text) = ofText text ↔
      text.length + 16 * text.count 'π' ≤ Token.maxLength ∧
        (Apart text ∨ ∃ fault,
          Lexeme.rejected? Lexeme.tokens (Lexeme.all (spellAll text)) = some fault ∧
          Lexeme.rejected? tokens (Lexeme.all text) = some fault) := by
  rw [ofText, if_neg (Nat.not_lt.mpr short)]
  by_cases fits : text.length + 16 * text.count 'π' ≤ Token.maxLength
  · rw [ofText_spellAll_of_fits fits]
    constructor
    · intro same
      refine ⟨fits, ?_⟩
      cases whole : Lexeme.readAll tokens (Lexeme.all text) with
      | ok result =>
          left
          exact apart_of_accepted (same.trans whole) whole
      | error cause =>
          right
          exact ⟨_, rejected_of_errors (same.trans whole) whole⟩
    · rintro ⟨-, apart | ⟨fault, spelt, whole⟩⟩
      · rw [all_spellAll apart]
        exact Lexeme.readAll_map spellAll fun lexeme among => tokens_spellAll among
      · -- The lexeme both reject is no glyph, so it fails with one and the same error.
        have refused := List.find?_some whole
        cases failed : tokens fault with
        | ok result => simp [failed, Except.isOk, Except.toBool] at refused
        | error cause =>
            rw [Lexeme.readAll_eq_error_iff.mpr ⟨fault, spelt, tokens_eq_error failed⟩,
              Lexeme.readAll_eq_error_iff.mpr ⟨fault, whole, failed⟩]
  · rw [ofText_spellAll_of_long (Nat.not_le.mp fits)]
    constructor
    · intro same
      exact absurd same.symm ne_tooLong
    · rintro ⟨fitting, -⟩
      exact absurd fitting fits

theorem ofText_spellAll_product :
    "2×π".toList.length ≤ Token.maxLength ∧
      Token.ofText (spellAll "2×π".toList) = ofText "2×π".toList := by
  have short : "2×π".toList.length ≤ Token.maxLength := by decide
  exact ⟨short, (ofText_spellAll_iff short).mpr ⟨by decide, .inl (by decide)⟩⟩

/-- In `2π` the two numbers become one. -/
theorem ofText_spellAll_merged :
    Token.ofText (spellAll "2π".toList) = .ok [.number 23.141592653589793] ∧
      ofText "2π".toList = .ok [.number 2.0, .number pi] ∧
      Token.ofText (spellAll "2π".toList) ≠ ofText "2π".toList := by
  have merged : Token.ofText (spellAll "2π".toList) = .ok [.number 23.141592653589793] := by
    decide +kernel
  have apart : ofText "2π".toList = .ok [.number 2.0, .number pi] := by decide +kernel
  refine ⟨merged, apart, ?_⟩
  rw [merged, apart]
  simp

end Reckoner.Glyph
