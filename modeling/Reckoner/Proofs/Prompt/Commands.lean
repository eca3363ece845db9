import Mathlib.Data.List.Basic
import Reckoner.Command
import Reckoner.Proofs.Expression.Glyph
import Reckoner.Proofs.Expression.Reading
import Reckoner.Proofs.Expression.Sentence
import Reckoner.Proofs.Text.Blanks

/-!
# Expressions are no commands

A text that is read as tokens holds no capital letter, so folding does not change it
(`fold_of_accepted`), and every whole word in it is the name of a function (`word_of_accepted`).
Each command has a whole word that is none, so such a text asks for its evaluation and for nothing
else (`ofLine_of_accepted`).
-/

namespace Reckoner

/-! ## What an accepted text is made of -/

/-- The characters of tokens and between them. -/
theorem Lexeme.Spells.char {text : Text} {tokens : List Token} (spells : Spells text tokens)
    {c : Char} (member : c ∈ text) :
    isNumeric c = true ∨ (∃ f : Function, c ∈ f.name) ∨ IsSign c := by
  induction spells with
  | nil => cases member
  | blank blank _ ih =>
      rcases List.mem_cons.mp member with rfl | behind
      · exact .inr (.inr (.inl blank))
      · exact ih behind
  | opening _ ih =>
      rcases List.mem_cons.mp member with rfl | behind
      · exact .inr (.inr (.inr (.inl rfl)))
      · exact ih behind
  | closing _ ih =>
      rcases List.mem_cons.mp member with rfl | behind
      · exact .inr (.inr (.inr (.inr (.inl rfl))))
      · exact ih behind
  | operator op _ ih =>
      rcases List.mem_cons.mp member with rfl | behind
      · exact .inr (.inr (.inr (.inr (.inr ⟨op, rfl⟩))))
      · exact ih behind
  | number literal _ _ ih =>
      rcases List.mem_append.mp member with inside | behind
      · exact .inl (literal.isNumber.2 c inside)
      · exact ih behind
  | word f _ _ ih =>
      rcases List.mem_append.mp member with inside | behind
      · exact .inr (.inl ⟨f, inside⟩)
      · exact ih behind

namespace Text

theorem isBlank_of_code {c : Char} {code : Nat} (same : c.toNat = code) :
    isBlank c = blankRanges.contains code := by
  rw [isBlank, same]

/-- White space has no case. -/
theorem foldChar_of_isBlank {c : Char} (blank : isBlank c = true) : foldChar c = [c] := by
  have small : ¬('A' ≤ c ∧ c ≤ 'Z') := by
    rintro ⟨least, most⟩
    rw [Char.le_def, UInt32.le_iff_toNat_le] at least most
    -- Capital letters are visible.
    rw [isBlank_of_visible (Nat.lt_of_lt_of_le (by decide) least)
      (Nat.lt_of_le_of_lt most (by decide))] at blank
    cases blank
  have kelvin : c.toNat ≠ 0x212A := by
    intro same
    rw [isBlank_of_code same] at blank
    revert blank
    decide
  have dotted : c.toNat ≠ 0x130 := by
    intro same
    rw [isBlank_of_code same] at blank
    revert blank
    decide
  rw [foldChar, if_neg (by simpa using small), if_neg kelvin, if_neg dotted]

theorem foldChar_of_isNumeric {c : Char} (numeric : Lexeme.isNumeric c = true) :
    foldChar c = [c] := by
  simp only [Lexeme.isNumeric, isDigit, Bool.or_eq_true, Bool.and_eq_true, decide_eq_true_eq,
    Char.le_def, UInt32.le_iff_toNat_le] at numeric
  rcases numeric with ⟨-, most⟩ | rfl
  · have least : '9'.val.toNat < 'A'.val.toNat := by decide
    have code : c.val.toNat < 0x41 := Nat.lt_of_le_of_lt most least
    have small : ¬('A' ≤ c ∧ c ≤ 'Z') := by
      rintro ⟨capital, -⟩
      rw [Char.le_def, UInt32.le_iff_toNat_le] at capital
      omega
    have kelvin : c.toNat ≠ 0x212A := by
      show c.val.toNat ≠ 0x212A
      omega
    have dotted : c.toNat ≠ 0x130 := by
      show c.val.toNat ≠ 0x130
      omega
    rw [foldChar, if_neg (by simpa using small), if_neg kelvin, if_neg dotted]
  · rfl

theorem foldChar_of_mem_name {f : Function} {c : Char} (member : c ∈ f.name) :
    foldChar c = [c] := by
  have all : f.name.all (fun c => foldChar c = [c]) = true := by cases f <;> decide
  exact of_decide_eq_true (List.all_eq_true.mp all c member)

theorem foldChar_of_isSign {c : Char} (sign : Lexeme.IsSign c) : foldChar c = [c] := by
  rcases sign with blank | rfl | rfl | ⟨op, rfl⟩
  · exact foldChar_of_isBlank blank
  · rfl
  · rfl
  · cases op <;> rfl

end Text

/-! ## Runs and the glyphs around them -/

namespace Glyph

theorem head?_spellAll (text : Text) : (spellAll text).head? = text.head?.map edge := by
  cases text with
  | nil => rfl
  | cons c rest =>
      obtain ⟨later, spelt⟩ := exists_spellAll_eq_cons c rest
      rw [spelt]
      rfl

theorem getLast?_spellAll (text : Text) : (spellAll text).getLast? = text.getLast?.map edge := by
  rcases List.eq_nil_or_concat text with rfl | ⟨front, c, rfl⟩
  · rfl
  · have alone : spellAll [c] = spell c := List.flatMap_singleton _ c
    have proper : spell c ≠ [] := by
      obtain ⟨rest, spelt⟩ := exists_spell_eq_cons c
      rw [spelt]
      exact List.cons_ne_nil _ rest
    rw [List.concat_eq_append, spellAll_append, alone, List.getLast?_append_of_ne_nil _ proper,
      getLast?_spell, List.getLast?_concat]
    rfl

theorem not_isGlyph_of_isPlainLetter {c : Char} (letter : Text.isPlainLetter c = true) :
    ¬IsGlyph c := by
  rintro (rfl | rfl | rfl)
  · revert letter
    decide
  · revert letter
    decide
  · revert letter
    decide

/-- A whole word stays one when the glyphs around it are spelt out. -/
theorem isRun_spellAll {before run after : Text}
    (whole : Lexeme.IsRun Text.isPlainLetter before run after) :
    Lexeme.IsRun Text.isPlainLetter (spellAll before) run (spellAll after) where
  proper := whole.proper
  inside := whole.inside
  starts := by
    intro c last
    rw [getLast?_spellAll] at last
    obtain ⟨d, among, rfl⟩ := Option.map_eq_some_iff.mp last
    rw [isPlainLetter_edge]
    exact whole.starts d among
  ends := by
    intro c first
    rw [head?_spellAll] at first
    obtain ⟨d, among, rfl⟩ := Option.map_eq_some_iff.mp first
    rw [isPlainLetter_edge]
    exact whole.ends d among

end Glyph

namespace Expression

/-- A text that is read as tokens once its glyphs are spelt out. -/
def IsAccepted (text : Text) : Prop := ∃ tokens, Lexeme.scan (Glyph.spellAll text) = .ok tokens

theorem isAccepted_of_value {text : Text} {result : Float}
    (valued : value (Glyph.spellAll text) = .ok result) : IsAccepted text := by
  obtain ⟨tokens, _, read, _⟩ := ordered_of_value valued
  exact ⟨tokens, Lexeme.scan_of_ofText read⟩

/-- White space by itself has no value. -/
theorem not_isAllBlank_of_value {text : Text} {result : Float}
    (valued : value (Glyph.spellAll text) = .ok result) : Text.isAllBlank text = false := by
  by_contra blank
  rw [Bool.not_eq_false, Text.isAllBlank, List.all_eq_true] at blank
  have kept : Glyph.spellAll text = text :=
    Glyph.spellAll_of_plain fun c member => Glyph.not_isGlyph_of_isBlank (blank c member)
  obtain ⟨tokens, ordered, read, converted, evaluated⟩ := ordered_of_value valued
  have scanned := Lexeme.scan_of_ofText read
  rw [kept, Lexeme.scan_of_spells (Lexeme.spells_of_blanks blank)] at scanned
  cases scanned
  cases converted
  cases evaluated

/-- **Every whole word of an accepted text is the name of a function.** -/
theorem word_of_accepted {before run after : Text} (accepted : IsAccepted (before ++ run ++ after))
    (whole : Lexeme.IsRun Text.isPlainLetter before run after) : ∃ f : Function, f.name = run := by
  obtain ⟨tokens, read⟩ := accepted
  have kept : Glyph.spellAll run = run :=
    Glyph.spellAll_of_plain fun c member =>
      Glyph.not_isGlyph_of_isPlainLetter (whole.inside c member)
  rw [Glyph.spellAll_append, Glyph.spellAll_append, kept] at read
  exact (Lexeme.sound_of_scan read).words _ run _ rfl (Glyph.isRun_spellAll whole)

/-- **An accepted text is its own lower case.** -/
theorem fold_of_accepted {text : Text} (accepted : IsAccepted text) : Text.fold text = text := by
  obtain ⟨tokens, read⟩ := accepted
  have spells := Lexeme.scan_eq_ok_iff.mp read
  have kept : ∀ c ∈ text, Text.foldChar c = [c] := by
    intro c member
    by_cases glyph : Glyph.IsGlyph c
    · rcases glyph with rfl | rfl | rfl
      · rfl
      · rfl
      · rfl
    · have among : c ∈ Glyph.spellAll text := by
        refine List.mem_flatMap.mpr ⟨c, member, ?_⟩
        rw [Glyph.spell_of_not_glyph glyph]
        exact List.mem_singleton.mpr rfl
      rcases spells.char among with numeric | ⟨f, inside⟩ | sign
      · exact Text.foldChar_of_isNumeric numeric
      · exact Text.foldChar_of_mem_name inside
      · exact Text.foldChar_of_isSign sign
  rw [Text.fold, List.flatMap_congr kept, List.flatMap_singleton']

/-- White space around a text is not needed for its tokens. -/
theorem isAccepted_trim {text : Text} (accepted : IsAccepted text) :
    IsAccepted (Text.trim text) := by
  obtain ⟨tokens, read⟩ := accepted
  obtain ⟨front, back, whole, before, behind⟩ := Text.exists_trim text
  have spelt {blanks : Text} (blank : ∀ c ∈ blanks, Text.isBlank c = true) :
      Glyph.spellAll blanks = blanks :=
    Glyph.spellAll_of_plain fun c member => Glyph.not_isGlyph_of_isBlank (blank c member)
  rw [whole, Glyph.spellAll_append, Glyph.spellAll_append, spelt before, spelt behind,
    Lexeme.scan_append (Lexeme.apart_of_blanks behind _).2] at read
  obtain ⟨others, _, read, -, -⟩ := Lexeme.both_eq_ok read
  rw [Lexeme.scan_append (Lexeme.apart_of_blanks before _).1] at read
  obtain ⟨_, inner, -, read, -⟩ := Lexeme.both_eq_ok read
  exact ⟨inner, read⟩

end Expression

/-! ## Commands -/

namespace Command

open Expression

/-- A command of a single word is found by its word. -/
theorem lookup_of_mem_words {word : Text} {command : Command} (member : (word, command) ∈ words) :
    words.lookup word = some command := by
  simp only [words, List.mem_cons, Prod.mk.injEq, List.not_mem_nil, or_false] at member
  rcases member with ⟨rfl, rfl⟩ | ⟨rfl, rfl⟩ | ⟨rfl, rfl⟩ | ⟨rfl, rfl⟩ | ⟨rfl, rfl⟩ | ⟨rfl, rfl⟩ |
    ⟨rfl, rfl⟩ | ⟨rfl, rfl⟩ | ⟨rfl, rfl⟩ | ⟨rfl, rfl⟩ | ⟨rfl, rfl⟩ <;> rfl

theorem mem_words_of_lookup {word : Text} {command : Command}
    (found : words.lookup word = some command) : (word, command) ∈ words := by
  obtain ⟨before, after, split, -⟩ := List.lookup_eq_some_iff.mp found
  rw [split]
  exact List.mem_append_right before List.mem_cons_self

/-- No command of a single word is read as tokens. -/
theorem not_isAccepted_of_mem_words {entry : Text × Command} (member : entry ∈ words) :
    ¬IsAccepted entry.1 := by
  have rejected : ∀ entry ∈ words, (Lexeme.scan (Glyph.spellAll entry.1)).toBool = false := by
    decide +kernel
  rintro ⟨tokens, read⟩
  have refused := rejected entry member
  rw [read] at refused
  cases refused

/-- A word that calls no function. -/
structure IsForeign (word : Text) : Prop where
  proper : word ≠ []
  letters : ∀ c ∈ word, Text.isPlainLetter c = true
  unknown : ∀ f : Function, f.name ≠ word

theorem isForeign_of_argument :
    ∀ word ∈ ["theme".toList, "export".toList, "details".toList], IsForeign word := by
  intro word member
  refine ⟨?_, List.all_eq_true.mp ?_, fun f => ?_⟩
  · revert word
    decide
  · revert word
    decide
  · cases f <;> revert word <;> decide

/-- An accepted text does not start with a word that takes an argument. -/
theorem after?_of_accepted {word line : Text} (foreign : IsForeign word)
    (accepted : IsAccepted line) : after? (word ++ [' ']) line = none := by
  rw [after?, fold_of_accepted accepted, if_neg]
  intro starts
  -- The blank behind the word makes it a whole word of the line.
  obtain ⟨rest, rfl⟩ := List.isPrefixOf_iff_prefix.mp starts
  rw [List.append_assoc, ← List.nil_append word] at accepted
  have parted : ∀ c ∈ ([' '] ++ rest).head?, Text.isPlainLetter c = false := by
    intro c first
    cases first
    decide
  obtain ⟨f, known⟩ := word_of_accepted accepted ⟨foreign.proper, foreign.letters, by simp, parted⟩
  exact foreign.unknown f known

/-- An accepted text does not end with a word that takes an argument. -/
theorem before?_of_accepted {word line : Text} (foreign : IsForeign word)
    (accepted : IsAccepted line) : before? (' ' :: word) line = none := by
  rw [before?, fold_of_accepted accepted, if_neg]
  intro ends
  obtain ⟨front, rfl⟩ := List.isSuffixOf_iff_suffix.mp ends
  rw [List.append_cons, ← List.append_nil (front ++ [' '] ++ word)] at accepted
  have parted : ∀ c ∈ (front ++ [' ']).getLast?, Text.isPlainLetter c = false := by
    intro c last
    rw [List.getLast?_concat] at last
    cases last
    decide
  obtain ⟨f, known⟩ := word_of_accepted accepted ⟨foreign.proper, foreign.letters, parted, by simp⟩
  exact foreign.unknown f known

/-- **A line that is read as tokens asks for its evaluation**, and is no other command. -/
theorem ofLine_of_accepted {line : Text} (accepted : IsAccepted line) :
    ofLine line = .evaluate line false := by
  have single : words.lookup (Text.fold line) = none := by
    rw [fold_of_accepted accepted, List.lookup_eq_none_iff]
    intro entry member
    rw [bne_iff_ne]
    rintro rfl
    exact not_isAccepted_of_mem_words member accepted
  have foreign := isForeign_of_argument
  have theme : after? "theme ".toList line = none :=
    after?_of_accepted (foreign "theme".toList (by simp)) accepted
  have exported : after? "export ".toList line = none :=
    after?_of_accepted (foreign "export".toList (by simp)) accepted
  have first : after? "details ".toList line = none :=
    after?_of_accepted (foreign "details".toList (by simp)) accepted
  have last : before? " details".toList line = none :=
    before?_of_accepted (foreign "details".toList (by simp)) accepted
  rw [ofLine, single, theme, exported, first, last]

/-- A line that has a value asks for its evaluation, without the white space around it. -/
theorem parse?_of_value {line : Text} {result : Float}
    (valued : value (Glyph.spellAll line) = .ok result) :
    parse? line = some (.evaluate (Text.trim line) false) := by
  have accepted := isAccepted_of_value valued
  have proper : Text.trim line ≠ [] := by
    rw [Ne, Text.trim_eq_nil_iff, not_isAllBlank_of_value valued]
    exact Bool.false_ne_true
  rw [parse?]
  show (if Text.trim line = [] then none else some (ofLine (Text.trim line))) = _
  rw [if_neg proper, ofLine_of_accepted (isAccepted_trim accepted)]

end Command

end Reckoner
