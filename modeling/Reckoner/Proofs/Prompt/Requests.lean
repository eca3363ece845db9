import Reckoner.Command.Sliced
import Reckoner.Proofs.Prompt.Commands
import Reckoner.Proofs.Text.Case
import Reckoner.Session

/-!
# What a line asks for

A line asks for the command whose keywords it holds, in any case, and for its own evaluation if it
holds none (`Command.Asks`). Reading it by bytes comes to the same, whatever lower case makes of the
characters outside ASCII: no cut misses (`Command.ofSlices?_eq`). What comes with a command is a part
of the line without white space around it, and empty for a bare `details` only (`Asks.argument`), so
a session never evaluates white space.
-/

namespace Reckoner

namespace Command

open Text (small LowerCase IsKeyword IsTrimmed)

/-! ## Keywords -/

theorem isKeyword_of_mem_words {entry : Text × Command} (member : entry ∈ words) :
    IsKeyword entry.1 := by
  have all : ∀ entry ∈ words, IsKeyword entry.1 := by decide
  exact all entry member

theorem isKeyword_of_mem_openings {opening : Opening} (member : opening ∈ openings) :
    IsKeyword opening.word := by
  have all : ∀ opening ∈ openings, IsKeyword opening.word := by decide
  exact all opening member

theorem isKeyword_closing : IsKeyword closing := by decide

/-- The bytes in front of an argument are those of the word. -/
theorem length_word_of_mem_openings :
    ∀ opening ∈ openings, opening.word.length = opening.bytes := by decide

/-- A keyword beside an argument is told by its blank from the command words. -/
theorem wordless_of_blank {line : Text} (blank : ' ' ∈ small line) :
    ∀ entry ∈ words, small line ≠ entry.1 := by
  have all : ∀ entry ∈ words, ' ' ∉ entry.1 := by decide
  intro entry member same
  rw [same] at blank
  exact all entry member blank

theorem blank_of_opening {opening : Opening} (member : opening ∈ openings) {line : Text}
    (starts : opening.word <+: small line) : ' ' ∈ small line := by
  have all : ∀ opening ∈ openings, ' ' ∈ opening.word := by decide
  exact starts.subset (all opening member)

theorem blank_of_closing {line : Text} (ends : closing <:+ small line) : ' ' ∈ small line :=
  ends.subset (by decide)

/-! ## Requests -/

/-- What a line without white space around it asks for. -/
inductive Asks : Text → Command → Prop where
  /-- A command word, in any case. -/
  | word {line word : Text} {command : Command} (entry : (word, command) ∈ words)
      (same : small line = word) : Asks line command
  /-- A word that comes before an argument, in any case, and the argument. -/
  | opening {front argument : Text} {opening : Opening} (entry : opening ∈ openings)
      (same : small front = opening.word) :
      Asks (front ++ argument) (opening.command (Text.trim argument))
  /-- An expression and the word that comes behind it, in any case. -/
  | closing {expression back : Text} (same : small back = closing)
      (unopened : ∀ opening ∈ openings, ¬opening.word <+: small (expression ++ back)) :
      Asks (expression ++ back) (.evaluate (Text.trim expression) true)
  /-- Any other line. -/
  | expression {line : Text} (wordless : ∀ entry ∈ words, small line ≠ entry.1)
      (unopened : ∀ opening ∈ openings, ¬opening.word <+: small line)
      (unclosed : ¬Command.closing <:+ small line) : Asks line (.evaluate line false)

/-! ## Reading by bytes -/

theorem eq_blank_of_toLower {c : Char} (same : c.toLower = ' ') : c = ' ' := by
  have inside : Text.IsAscii c := Text.isAscii_of_toLower (by rw [same]; decide)
  exact Text.forall_ascii (P := fun c => c.toLower = ' ' → c = ' ') (by decide) inside same

/-- The cut behind a word before an argument leaves the argument. -/
theorem cutAt?_opening {opening : Opening} (entry : opening ∈ openings) {front : Text}
    (same : small front = opening.word) (argument : Text) :
    Text.cutAt? opening.bytes (front ++ argument) = some (front, argument) := by
  have bytes : Text.byteLength front = opening.bytes := by
    rw [Text.byteLength_of_small same (isKeyword_of_mem_openings entry).ascii,
      length_word_of_mem_openings _ entry]
  rw [← bytes, Text.cutAt?_append]

/-- The cut in front of the closing word leaves the blank of it to the expression. -/
theorem cutBefore?_closing (expression : Text) {back : Text} (same : small back = closing) :
    ∃ word, Text.cutBefore? closingBytes (expression ++ back) = some (expression ++ [' '], word) := by
  obtain ⟨c, word, rfl, first, others⟩ := List.map_eq_cons_iff.mp same
  obtain rfl := eq_blank_of_toLower first
  have bytes : Text.byteLength word = closingBytes :=
    Text.byteLength_of_small others fun c member =>
      isKeyword_closing.ascii c (List.mem_cons_of_mem _ member)
  refine ⟨word, ?_⟩
  rw [← bytes, List.append_cons]
  exact Text.cutBefore?_append (expression ++ [' ']) word

/-- Reading by bytes gives a command that the line asks for: every cut falls between two characters
of the line. -/
theorem exists_ofSlices? {line lowered : Text} (lower : LowerCase line lowered) :
    ∃ command, ofSlices? lowered line = some command ∧ Asks line command := by
  unfold ofSlices?
  cases found : words.lookup lowered with
  | some command =>
      have entry := mem_words_of_lookup found
      exact ⟨command, rfl, .word entry ((lower.eq_iff (isKeyword_of_mem_words entry)).mp rfl)⟩
  | none =>
      have wordless : ∀ entry ∈ words, small line ≠ entry.1 := by
        rintro ⟨word, command⟩ member same
        rw [(lower.eq_iff (isKeyword_of_mem_words member)).mpr same,
          lookup_of_mem_words member] at found
        cases found
      cases search : openings.find? (fun opening => opening.word.isPrefixOf lowered) with
      | some opening =>
          have entry := List.mem_of_find?_eq_some search
          have keyword := isKeyword_of_mem_openings entry
          have opens : opening.word.isPrefixOf lowered = true := by
            simpa using List.find?_some search
          have starts := List.isPrefixOf_iff_prefix.mp opens
          obtain ⟨front, argument, rfl, same⟩ :=
            Text.starts_small_iff.mp ((lower.starts_iff keyword).mp starts)
          refine ⟨opening.command (Text.trim argument), ?_, .opening entry same⟩
          dsimp only
          rw [cutAt?_opening entry same, Option.map_some]
      | none =>
          have unopened : ∀ opening ∈ openings, ¬opening.word <+: small line := by
            intro opening member starts
            have missed := List.find?_eq_none.mp search opening member
            rw [List.isPrefixOf_iff_prefix] at missed
            exact missed ((lower.starts_iff (isKeyword_of_mem_openings member)).mpr starts)
          dsimp only
          split
          · rename_i last
            have ends := (lower.ends_iff isKeyword_closing).mp (List.isSuffixOf_iff_suffix.mp last)
            obtain ⟨expression, back, rfl, same⟩ := Text.ends_small_iff.mp ends
            refine ⟨.evaluate (Text.trim expression) true, ?_, .closing same unopened⟩
            obtain ⟨word, cut⟩ := cutBefore?_closing expression same
            rw [cut, Option.map_some, Text.trim_concat (by decide)]
          · rename_i last
            refine ⟨.evaluate line false, rfl, .expression wordless unopened fun ends => last ?_⟩
            exact List.isSuffixOf_iff_suffix.mpr ((lower.ends_iff isKeyword_closing).mpr ends)

/-! ## Reading by characters -/

theorem after?_of_starts {word front : Text} (rest : Text) (keyword : IsKeyword word)
    (same : small front = word) : after? word (front ++ rest) = some (Text.trim rest) := by
  have starts : word <+: Text.fold (front ++ rest) :=
    ((Text.lowerCase_fold _).starts_iff keyword).mpr
      (Text.starts_small_iff.mpr ⟨front, rest, rfl, same⟩)
  have length : front.length = word.length := by rw [← same, small, List.length_map]
  rw [after?, if_pos (List.isPrefixOf_iff_prefix.mpr starts), ← length, List.drop_left]

theorem after?_eq_none {word line : Text} (keyword : IsKeyword word)
    (unopened : ¬word <+: small line) : after? word line = none := by
  rw [after?, if_neg]
  intro starts
  exact unopened (((Text.lowerCase_fold line).starts_iff keyword).mp
    (List.isPrefixOf_iff_prefix.mp starts))

theorem before?_of_ends {word front back : Text} (keyword : IsKeyword word)
    (same : small back = word) : before? word (front ++ back) = some (Text.trim front) := by
  have ends : word <:+ Text.fold (front ++ back) :=
    ((Text.lowerCase_fold _).ends_iff keyword).mpr
      (Text.ends_small_iff.mpr ⟨front, back, rfl, same⟩)
  have length : back.length = word.length := by rw [← same, small, List.length_map]
  rw [before?, if_pos (List.isSuffixOf_iff_suffix.mpr ends), ← length, List.length_append,
    Nat.add_sub_cancel, List.take_left]

theorem before?_eq_none {word line : Text} (keyword : IsKeyword word)
    (unclosed : ¬word <:+ small line) : before? word line = none := by
  rw [before?, if_neg]
  intro ends
  exact unclosed (((Text.lowerCase_fold line).ends_iff keyword).mp
    (List.isSuffixOf_iff_suffix.mp ends))

theorem lookup_eq_none {line : Text} (wordless : ∀ entry ∈ words, small line ≠ entry.1) :
    words.lookup (Text.fold line) = none := by
  rw [List.lookup_eq_none_iff]
  intro entry member
  rw [bne_iff_ne]
  intro same
  exact wordless entry member
    (((Text.lowerCase_fold line).eq_iff (isKeyword_of_mem_words member)).mp same)

/-- A line without a word before an argument is an expression, perhaps with the closing word. -/
theorem ofLine_of_unopened {line : Text} (wordless : ∀ entry ∈ words, small line ≠ entry.1)
    (unopened : ∀ opening ∈ openings, ¬opening.word <+: small line) :
    ofLine line =
      (before? closing line).elim (.evaluate line false)
        fun expression => .evaluate expression true := by
  have missed (opening : Opening) (member : opening ∈ openings) :
      after? opening.word line = none :=
    after?_eq_none (isKeyword_of_mem_openings member) (unopened opening member)
  have unnamed : after? "theme ".toList line = none := missed naming (by simp [openings])
  have unexported : after? "export ".toList line = none := missed exporting (by simp [openings])
  have undetailed : after? "details ".toList line = none := missed detailing (by simp [openings])
  have same : before? " details".toList line = before? closing line := rfl
  rw [ofLine, lookup_eq_none wordless, unnamed, unexported, undetailed, same]
  cases before? closing line with
  | none => rfl
  | some expression => rfl

/-- A line is read as what it asks for. -/
theorem ofLine_of_asks {line : Text} {command : Command} (asks : Asks line command) :
    ofLine line = command := by
  cases asks with
  | @word _ word _ entry same =>
      have folded : Text.fold line = word :=
        ((Text.lowerCase_fold line).eq_iff (isKeyword_of_mem_words entry)).mpr same
      rw [ofLine, folded, lookup_of_mem_words entry]
  | @opening front argument opening entry same =>
      have starts : opening.word <+: small (front ++ argument) :=
        Text.starts_small_iff.mpr ⟨front, argument, rfl, same⟩
      have single := lookup_eq_none (wordless_of_blank (blank_of_opening entry starts))
      have found := after?_of_starts argument (isKeyword_of_mem_openings entry) same
      have themes := isKeyword_of_mem_openings (show naming ∈ openings by simp [openings])
      have exports := isKeyword_of_mem_openings (show exporting ∈ openings by simp [openings])
      -- Two of the words before an argument differ in their first letter.
      have other {c d : Char} {first second : Text} (differ : c ≠ d)
          (is : c :: first <+: small (front ++ argument)) :
          ¬d :: second <+: small (front ++ argument) := by
        rintro ⟨_, whole⟩
        rw [← whole] at is
        exact differ (List.cons_prefix_cons.mp is).1
      rw [ofLine, single]
      simp only [openings, List.mem_cons, List.not_mem_nil, or_false] at entry
      rcases entry with rfl | rfl | rfl
      · have named : after? "theme ".toList (front ++ argument) = _ := found
        rw [named]
        rfl
      · have unnamed : after? "theme ".toList (front ++ argument) = none :=
          after?_eq_none themes (other (by decide) starts)
        have exported : after? "export ".toList (front ++ argument) = _ := found
        rw [unnamed, exported]
        rfl
      · have unnamed : after? "theme ".toList (front ++ argument) = none :=
          after?_eq_none themes (other (by decide) starts)
        have unexported : after? "export ".toList (front ++ argument) = none :=
          after?_eq_none exports (other (by decide) starts)
        have detailed : after? "details ".toList (front ++ argument) = _ := found
        rw [unnamed, unexported, detailed]
        rfl
  | @closing expression back same unopened =>
      have ends : closing <:+ small (expression ++ back) :=
        Text.ends_small_iff.mpr ⟨expression, back, rfl, same⟩
      rw [ofLine_of_unopened (wordless_of_blank (blank_of_closing ends)) unopened,
        before?_of_ends isKeyword_closing same, Option.elim_some]
  | expression wordless unopened unclosed =>
      rw [ofLine_of_unopened wordless unopened, before?_eq_none isKeyword_closing unclosed,
        Option.elim_none]

/-- **Every line asks for the command that it is read as**, and for no other. -/
theorem asks_iff {line : Text} {command : Command} : Asks line command ↔ ofLine line = command := by
  refine ⟨ofLine_of_asks, ?_⟩
  rintro rfl
  obtain ⟨command, -, asks⟩ := exists_ofSlices? (Text.lowerCase_fold line)
  rwa [ofLine_of_asks asks]

/-- **No cut misses**: reading a line by bytes gives its command, whatever its lower case is. -/
theorem ofSlices?_eq {line lowered : Text} (lower : LowerCase line lowered) :
    ofSlices? lowered line = some (ofLine line) := by
  obtain ⟨command, read, asks⟩ := exists_ofSlices? lower
  rw [read, ofLine_of_asks asks]

/-! ## Arguments -/

/-- What comes with a command: the name of a theme, a path or an expression. -/
def argument? : Command → Option Text
  | .theme (some name) => some name
  | .exportTo path => some path
  | .evaluate expression _ => some expression
  | _ => none

/-- A bare word for an evaluation in steps is the only command word with an argument, an empty
one. -/
theorem argument?_of_mem_words {word argument : Text} {command : Command}
    (entry : (word, command) ∈ words) (given : command.argument? = some argument) :
    argument = [] ∧ word = "details".toList := by
  simp only [words, List.mem_cons, Prod.mk.injEq, List.not_mem_nil, or_false] at entry
  rcases entry with ⟨-, rfl⟩ | ⟨-, rfl⟩ | ⟨-, rfl⟩ | ⟨-, rfl⟩ | ⟨-, rfl⟩ | ⟨-, rfl⟩ | ⟨-, rfl⟩ |
    ⟨-, rfl⟩ | ⟨-, rfl⟩ | ⟨-, rfl⟩ | ⟨rfl, rfl⟩ <;> cases given
  exact ⟨rfl, rfl⟩

theorem argument?_opening {opening : Opening} (entry : opening ∈ openings) (argument : Text) :
    (opening.command argument).argument? = some argument := by
  simp only [openings, List.mem_cons, List.not_mem_nil, or_false] at entry
  rcases entry with rfl | rfl | rfl <;> rfl

/-- In any case, a word before an argument ends in a blank. -/
theorem exists_front_of_opening {opening : Opening} (entry : opening ∈ openings) {front : Text}
    (same : small front = opening.word) : ∃ word, front = word ++ [' '] := by
  have all : ∀ opening ∈ openings, opening.word.getLast? = some ' ' := by decide
  have last := all opening entry
  rw [← same, small, List.getLast?_map, Option.map_eq_some_iff] at last
  obtain ⟨c, among, lowered⟩ := last
  obtain rfl := eq_blank_of_toLower lowered
  exact List.getLast?_eq_some_iff.mp among

/-- **What comes with a command** is a part of the line as it stands there, without white space
around it, and empty only after a bare word for an evaluation in steps. -/
theorem Asks.argument {line : Text} (trimmed : IsTrimmed line) (visible : line ≠ [])
    {command : Command} (asks : Asks line command) {argument : Text}
    (given : command.argument? = some argument) :
    argument <:+: line ∧ IsTrimmed argument ∧ (argument = [] ↔ small line = "details".toList) := by
  have bare {line : Text} (blank : ' ' ∈ small line) : small line ≠ "details".toList := by
    intro same
    rw [same] at blank
    exact absurd blank (by decide)
  cases asks with
  | word entry same =>
      obtain ⟨rfl, rfl⟩ := argument?_of_mem_words entry given
      exact ⟨List.nil_infix, ⟨by simp, by simp⟩, by simp [same]⟩
  | @opening front argument opening entry same =>
      rw [argument?_opening entry] at given
      cases given
      have starts : opening.word <+: small (front ++ argument) :=
        Text.starts_small_iff.mpr ⟨front, argument, rfl, same⟩
      -- The keyword ends in a blank, so the line cannot end right behind it.
      obtain ⟨word, rfl⟩ := exists_front_of_opening entry same
      rw [List.append_assoc, List.singleton_append] at trimmed
      refine ⟨(Text.isInfix_trim argument).trans (List.suffix_append _ argument).isInfix,
        Text.isTrimmed_trim argument, ?_⟩
      rw [Text.trim_eq_nil_iff, trimmed.not_isAllBlank_behind (by decide)]
      exact iff_of_false Bool.false_ne_true (bare (blank_of_opening entry starts))
  | @closing expression back same unopened =>
      cases given
      have ends : Command.closing <:+ small (expression ++ back) :=
        Text.ends_small_iff.mpr ⟨expression, back, rfl, same⟩
      obtain ⟨c, word, rfl, first, -⟩ := List.map_eq_cons_iff.mp same
      obtain rfl := eq_blank_of_toLower first
      refine ⟨(Text.isInfix_trim expression).trans (List.prefix_append expression _).isInfix,
        Text.isTrimmed_trim expression, ?_⟩
      rw [Text.trim_eq_nil_iff, trimmed.not_isAllBlank_before (by decide)]
      exact iff_of_false Bool.false_ne_true (bare (blank_of_closing ends))
  | expression wordless unopened unclosed =>
      cases given
      refine ⟨List.infix_refl line, trimmed, by simp [visible], ?_⟩
      intro same
      exact absurd same (wordless ("details".toList, .evaluate [] true) (by simp [words]))

theorem parse?_eq_some_iff {line : Text} {command : Command} :
    parse? line = some command ↔ Text.trim line ≠ [] ∧ Asks (Text.trim line) command := by
  rw [asks_iff]
  by_cases blank : Text.trim line = []
  · simp [parse?, blank]
  · simp [parse?, blank]

theorem parseSlices?_eq {line lowered : Text} (lower : LowerCase (Text.trim line) lowered) :
    parseSlices? lowered line = some (parse? line) := by
  by_cases blank : Text.trim line = []
  · simp [parseSlices?, parse?, blank]
  · simp [parseSlices?, parse?, blank, ofSlices?_eq lower]

/-- What comes with the command of a line is a part of the line. -/
theorem argument_of_parse? {line argument : Text} {command : Command}
    (asked : parse? line = some command) (given : command.argument? = some argument) :
    argument <:+: line ∧ IsTrimmed argument ∧
      (argument = [] ↔ small (Text.trim line) = "details".toList) := by
  obtain ⟨visible, asks⟩ := parse?_eq_some_iff.mp asked
  obtain ⟨inside, trimmed, bare⟩ := asks.argument (Text.isTrimmed_trim line) visible given
  exact ⟨inside.trans (Text.isInfix_trim line), trimmed, bare⟩

end Command

/-- Where something is visible there is something to calculate. -/
theorem Calculator.calculate_ne_none {calculator : Calculator}
    (visible : Text.isAllBlank calculator.expression = false) (detailed : Bool) :
    (calculator.calculate detailed).2 ≠ .ok none := by
  rw [calculate, if_neg (Bool.eq_false_iff.mp visible)]
  split
  · intro failed
    cases failed
  · intro failed
    cases failed

open Command in
/-- **What a line asks for.** Whatever its lower case makes of characters outside ASCII, a line is
read by bytes without a cut inside a character, and as the command that it asks for. What comes with
the command is a part of the line, without white space around it, and empty only for a bare word
that asks for steps. That is refused, and no other evaluation that a session is asked for finds
nothing to calculate. -/
theorem Session.request_of_line (line : Text) {lowered : Text}
    (lower : Text.LowerCase (Text.trim line) lowered) :
    parseSlices? lowered line = some (parse? line) ∧
      (∀ command, parse? line = some command ↔
        Text.trim line ≠ [] ∧ Asks (Text.trim line) command) ∧
      (∀ command argument, parse? line = some command → command.argument? = some argument →
        argument <:+: line ∧ Text.IsTrimmed argument ∧
          (argument = [] ↔ Text.small (Text.trim line) = "details".toList)) ∧
      ∀ expression detailed, parse? line = some (.evaluate expression detailed) →
        ∀ (session : Session) (now : Moment),
          if expression = [] then
            (session.submit now line).2 = .failed missingExpressionMessage
          else
            ((session.calculator.setExpression expression).calculate detailed).2 ≠ .ok none := by
  refine ⟨parseSlices?_eq lower, fun command => parse?_eq_some_iff,
    fun command argument => argument_of_parse?, ?_⟩
  intro expression detailed asked session now
  split
  · rename_i bare
    subst bare
    rw [submit, asked]
    rfl
  · rename_i proper
    obtain ⟨-, trimmed, -⟩ := argument_of_parse? asked rfl
    apply Calculator.calculate_ne_none
    show Text.isAllBlank expression = false
    rw [Bool.eq_false_iff, ne_eq, ← Text.trim_eq_nil_iff, trimmed.trim_eq]
    exact proper

/-- A Kelvin sign, which has three bytes where its lower case has one, and a capital with a dot,
which has two bytes where its lower case has three. -/
def foreignLine : Text :=
  [' ', Char.ofNat 0x212A, '×', Char.ofNat 0x130] ++ " DeTails ".toList

theorem Session.request_of_line_foreign :
    Text.LowerCase (Text.trim foreignLine) (Text.fold (Text.trim foreignLine)) ∧
      Command.parseSlices? (Text.fold (Text.trim foreignLine)) foreignLine =
        some (some (.evaluate [Char.ofNat 0x212A, '×', Char.ofNat 0x130] true)) := by
  have lower := Text.lowerCase_fold (Text.trim foreignLine)
  obtain ⟨read, -, -, -⟩ := Session.request_of_line foreignLine lower
  refine ⟨lower, ?_⟩
  rw [read]
  decide

end Reckoner
