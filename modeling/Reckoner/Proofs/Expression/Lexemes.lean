import Mathlib.Data.List.SplitBy
import Reckoner.Expression.Token
import Reckoner.Proofs.Text.Blanks

/-!
# Lexemes

A text that starts with a run of joined characters has this run in its first lexeme, together with
what joins its end (`all_append_of_joins`). Lexemes are read one by one: reading gives one token for
every lexeme that is not white space, or the error of the first one that is rejected.
-/

namespace Reckoner

namespace Lexeme

theorem isBlank_of_isNumeric {c : Char} (numeric : isNumeric c = true) :
    Text.isBlank c = false := by
  rw [isNumeric, Bool.or_eq_true, decide_eq_true_eq] at numeric
  rcases numeric with digit | rfl
  · exact Text.isBlank_of_isDigit digit
  · decide

theorem isBlank_of_isPlainLetter {c : Char} (letter : Text.isPlainLetter c = true) :
    Text.isBlank c = false := by
  simp only [Text.isPlainLetter, Bool.or_eq_true, Bool.and_eq_true, decide_eq_true_eq,
    Char.le_def, UInt32.le_iff_toNat_le] at letter
  rcases letter with ⟨least, most⟩ | ⟨least, most⟩
  · exact Text.isBlank_of_visible (Nat.lt_of_lt_of_le (by decide) least)
      (Nat.lt_of_le_of_lt most (by decide))
  · exact Text.isBlank_of_visible (Nat.lt_of_lt_of_le (by decide) least)
      (Nat.lt_of_le_of_lt most (by decide))

/-- White space joins nothing. -/
theorem isBlank_of_joins {a b : Char} (joined : joins a b = true) :
    Text.isBlank a = false ∧ Text.isBlank b = false := by
  rw [joins, Bool.or_eq_true, Bool.and_eq_true, Bool.and_eq_true] at joined
  rcases joined with ⟨first, second⟩ | ⟨first, second⟩
  · exact ⟨isBlank_of_isNumeric first, isBlank_of_isNumeric second⟩
  · exact ⟨isBlank_of_isPlainLetter first, isBlank_of_isPlainLetter second⟩

/-! ## Cutting a text -/

theorem exists_all_cons (c : Char) (rest : Text) :
    ∃ first later, all (c :: rest) = (c :: first) :: later := by
  obtain ⟨whole, proper, -, -⟩ := List.splitBy_eq_iff.mp (rfl : all (c :: rest) = _)
  rcases split : all (c :: rest) with _ | ⟨_ | ⟨head, first⟩, later⟩
  · rw [split] at whole
    cases whole
  · rw [split] at proper
    exact absurd List.mem_cons_self proper
  · rw [split] at whole
    cases whole
    exact ⟨first, later, rfl⟩

/-- A run that does not join what follows is a lexeme. -/
theorem all_append_of_not_joins {run rest : Text} {last : Char} (joined : run.IsChain (joins · ·))
    (ends : run.getLast? = some last) (apart : ∀ first ∈ rest.head?, joins last first = false) :
    all (run ++ rest) = run :: all rest := by
  have proper : run ≠ [] := by
    rintro rfl
    cases ends
  have cut := List.splitBy_append (r := joins) (l := run) (m := rest) (by simpa [ends] using apart)
  rw [all, cut, List.splitBy_of_isChain proper joined]
  rfl

/-- A run that joins what follows belongs to the lexeme that starts there. -/
theorem all_append_of_joins {run rest : Text} {last first : Char}
    (joined : run.IsChain (joins · ·)) (ends : run.getLast? = some last)
    (meets : joins last first = true) :
    all (run ++ first :: rest) = (all (first :: rest)).modifyHead (run ++ ·) := by
  obtain ⟨behind, later, split⟩ := exists_all_cons first rest
  rw [split, List.modifyHead_cons]
  obtain ⟨whole, proper, inner, borders⟩ := List.splitBy_eq_iff.mp split
  -- Only the start of the first lexeme changes, so every border stays what it was.
  refine List.splitBy_eq_iff.mpr ⟨?_, ?_, ?_, ?_⟩
  · rw [whole]
    simp
  · simp only [List.mem_cons, not_or] at proper ⊢
    exact ⟨by simp, proper.2⟩
  · intro lexeme member
    rcases List.mem_cons.mp member with rfl | member
    · rw [List.isChain_append]
      refine ⟨joined, inner _ List.mem_cons_self, ?_⟩
      simp [ends, meets]
    · exact inner lexeme (List.mem_cons_of_mem _ member)
  · rw [List.isChain_cons] at borders ⊢
    refine ⟨?_, borders.2⟩
    intro next member
    obtain ⟨_, proper, apart⟩ := borders.1 next member
    refine ⟨by simp, proper, ?_⟩
    rwa [List.getLast_append_of_ne_nil]

theorem all_cons_of_joins {a b : Char} (meets : joins a b = true) (rest : Text) :
    all (a :: b :: rest) = (all (b :: rest)).modifyHead (a :: ·) :=
  all_append_of_joins (List.isChain_singleton a) rfl meets

theorem all_cons_of_not_joins {a b : Char} (apart : joins a b = false) (rest : Text) :
    all (a :: b :: rest) = [a] :: all (b :: rest) :=
  all_append_of_not_joins (List.isChain_singleton a) rfl (by simpa using apart)

/-- A character that joins nothing is a lexeme by itself. -/
theorem eq_singleton_of_mem {text lexeme : Text} {c : Char}
    (alone : ∀ d, joins c d = false ∧ joins d c = false) (among : lexeme ∈ all text)
    (inside : c ∈ lexeme) : lexeme = [c] := by
  have joined := List.isChain_of_mem_splitBy among
  obtain ⟨before, after, rfl⟩ := List.append_of_mem inside
  obtain ⟨-, behind, border⟩ := List.isChain_append.mp joined
  have first : before = [] := by
    cases last : before.getLast? with
    | none => exact List.getLast?_eq_none_iff.mp last
    | some d =>
        have meets := border d last c rfl
        simp [(alone d).2] at meets
  have final : after = [] := by
    cases after with
    | nil => rfl
    | cons d later =>
        have meets := (List.isChain_cons_cons.mp behind).1
        simp [(alone d).1] at meets
  rw [first, final]
  rfl

/-! ## The token of a lexeme -/

theorem tokens_of_isBlank {c : Char} (blank : Text.isBlank c = true) (rest : Text) :
    tokens (c :: rest) = .ok [] := by
  rw [tokens, if_pos blank]

/-- A lexeme that is not white space is a number, a word, or a sign that joins nothing. -/
theorem exists_token {c : Char} (visible : Text.isBlank c = false) (rest : Text) :
    ∃ outcome : Except SyntaxError Token, tokens (c :: rest) = outcome.map ([·]) ∧
      (outcome = number (c :: rest) ∨ outcome = word (c :: rest) ∨
        outcome = sign c ∧ ∀ d, joins c d = false ∧ joins d c = false) := by
  rw [tokens, if_neg (by simp [visible])]
  cases numeric : isNumeric c with
  | true => exact ⟨_, rfl, .inl rfl⟩
  | false =>
      cases letter : Text.isPlainLetter c with
      | true => exact ⟨_, rfl, .inr (.inl rfl)⟩
      | false =>
          refine ⟨_, rfl, .inr (.inr ⟨rfl, fun d => ?_⟩)⟩
          simp [joins, numeric, letter]

theorem number_eq_ok {lexeme : Text} {token : Token} (accepted : number lexeme = .ok token) :
    token = .number (literalValue lexeme) := by
  rw [number] at accepted
  split at accepted
  · cases accepted
    rfl
  · cases accepted

theorem number_eq_error {lexeme : Text} {cause : SyntaxError}
    (failed : number lexeme = .error cause) : cause = .malformedNumber lexeme := by
  rw [number] at failed
  split at failed
  · cases failed
  · cases failed
    rfl

theorem word_eq_ok {lexeme : Text} {token : Token} (accepted : word lexeme = .ok token) :
    ∃ f, token = .function f := by
  rw [word] at accepted
  split at accepted
  · cases accepted
    exact ⟨_, rfl⟩
  · cases accepted

theorem word_eq_error {lexeme : Text} {cause : SyntaxError} (failed : word lexeme = .error cause) :
    cause = .unknownFunction lexeme := by
  rw [word] at failed
  split at failed
  · cases failed
  · cases failed
    rfl

theorem sign_eq_ok {c : Char} {token : Token} (accepted : sign c = .ok token) :
    token = .opening ∨ token = .closing ∨ ∃ op, token = .operator (.binary op) := by
  rw [sign] at accepted
  split at accepted
  · cases accepted
    exact .inl rfl
  · split at accepted
    · cases accepted
      exact .inr (.inl rfl)
    · split at accepted
      · cases accepted
        exact .inr (.inr ⟨_, rfl⟩)
      · cases accepted

theorem sign_eq_error {c : Char} {cause : SyntaxError} (failed : sign c = .error cause) :
    cause = .unexpectedCharacter c := by
  rw [sign] at failed
  split at failed
  · cases failed
  · split at failed
    · cases failed
    · split at failed
      · cases failed
      · cases failed
        rfl

/-- The lexeme that an error is about. -/
def source : SyntaxError → Text
  | .malformedNumber literal => literal
  | .unknownFunction name => name
  | .unexpectedCharacter c => [c]
  | _ => []

/-- The error of a lexeme tells which lexeme it is. -/
theorem eq_source_of_error {text lexeme : Text} {cause : SyntaxError} (among : lexeme ∈ all text)
    (failed : tokens lexeme = .error cause) : lexeme = source cause := by
  cases lexeme with
  | nil => cases failed
  | cons c rest =>
      cases blank : Text.isBlank c with
      | true =>
          rw [tokens_of_isBlank blank] at failed
          cases failed
      | false =>
          obtain ⟨outcome, read, cases⟩ := exists_token blank rest
          rw [read] at failed
          cases outcome with
          | ok token => cases failed
          | error first =>
              cases failed
              rcases cases with number | word | ⟨sign, alone⟩
              · rw [number_eq_error number.symm, source]
              · rw [word_eq_error word.symm, source]
              · rw [sign_eq_error sign.symm, source]
                exact eq_singleton_of_mem alone among List.mem_cons_self

/-! ## Reading lexemes -/

/-- Whether a lexeme is white space. -/
def isSpace (lexeme : Text) : Bool := lexeme.head?.all Text.isBlank

/-- The tokens of lexemes that are read in some way, up to the first lexeme that is rejected. -/
def readAll (read : Text → Except SyntaxError (List Token)) :
    List Text → Except SyntaxError (List Token)
  | [] => .ok []
  | lexeme :: rest => do
    let first ← read lexeme
    let others ← readAll read rest
    return first ++ others

/-- The first lexeme that is rejected. -/
def rejected? (read : Text → Except SyntaxError (List Token)) (lexemes : List Text) :
    Option Text :=
  lexemes.find? (fun lexeme => !(read lexeme).isOk)

variable {read other : Text → Except SyntaxError (List Token)}

theorem ofLexemes_eq_readAll (lexemes : List Text) :
    Token.ofLexemes lexemes = readAll tokens lexemes := by
  induction lexemes with
  | nil => rfl
  | cons lexeme rest ih => rw [Token.ofLexemes, readAll, ih]

theorem readAll_map (spell : Text → Text) {lexemes : List Text}
    (same : ∀ lexeme ∈ lexemes, read (spell lexeme) = other lexeme) :
    readAll read (lexemes.map spell) = readAll other lexemes := by
  induction lexemes with
  | nil => rfl
  | cons lexeme rest ih =>
      have behind := ih fun next member => same next (List.mem_cons_of_mem _ member)
      rw [List.map_cons, readAll, readAll, same lexeme List.mem_cons_self, behind]

theorem readAll_cons_of_ok {lexeme : Text} {first : List Token} (head : read lexeme = .ok first)
    (rest : List Text) : readAll read (lexeme :: rest) = (first ++ ·) <$> readAll read rest := by
  rw [readAll, head]
  rfl

theorem readAll_cons_of_error {lexeme : Text} {cause : SyntaxError}
    (head : read lexeme = .error cause) (rest : List Text) :
    readAll read (lexeme :: rest) = .error cause := by
  rw [readAll, head]
  rfl

/-- **Reading fails at the first rejected lexeme**, with its error. -/
theorem readAll_eq_error_iff {lexemes : List Text} {cause : SyntaxError} :
    readAll read lexemes = .error cause ↔
      ∃ fault, rejected? read lexemes = some fault ∧ read fault = .error cause := by
  induction lexemes with
  | nil => simp [readAll, rejected?]
  | cons lexeme rest ih =>
      cases head : read lexeme with
      | error first =>
          rw [readAll_cons_of_error head, rejected?,
            List.find?_cons_of_pos (by simp [head, Except.isOk, Except.toBool])]
          simp [head]
      | ok first =>
          rw [readAll_cons_of_ok head, rejected?,
            List.find?_cons_of_neg (by simp [head, Except.isOk, Except.toBool]), ← rejected?, ← ih]
          cases readAll read rest <;> simp

/-- Tokens that were read are as many as the lexemes that are not white space. -/
theorem length_of_readAll {lexemes : List Text} {result : List Token}
    (each : ∀ lexeme first, read lexeme = .ok first →
      first.length = if isSpace lexeme then 0 else 1)
    (accepted : readAll read lexemes = .ok result) :
    result.length = lexemes.countP (fun lexeme => !isSpace lexeme) := by
  induction lexemes generalizing result with
  | nil =>
      cases accepted
      rfl
  | cons lexeme rest ih =>
      cases head : read lexeme with
      | error cause =>
          rw [readAll_cons_of_error head] at accepted
          cases accepted
      | ok first =>
          rw [readAll_cons_of_ok head] at accepted
          cases behind : readAll read rest with
          | error cause =>
              rw [behind] at accepted
              cases accepted
          | ok others =>
              rw [behind] at accepted
              cases accepted
              rw [List.length_append, each lexeme first head, ih behind, List.countP_cons]
              cases isSpace lexeme with
              | true => simp
              | false => exact Nat.add_comm _ _

/-! ## Counting lexemes -/

/-- The count of the lexemes of a text that are not white space. -/
def words (text : Text) : Nat := (all text).countP (fun lexeme => !isSpace lexeme)

theorem words_append_of_not_joins {run rest : Text} {last : Char}
    (joined : run.IsChain (joins · ·)) (ends : run.getLast? = some last)
    (apart : ∀ first ∈ rest.head?, joins last first = false) :
    words (run ++ rest) = words rest + if isSpace run then 0 else 1 := by
  rw [words, all_append_of_not_joins joined ends apart, List.countP_cons, words]
  cases isSpace run <;> rfl

theorem words_append_of_joins {run rest : Text} {last first : Char}
    (joined : run.IsChain (joins · ·)) (visible : isSpace run = false)
    (ends : run.getLast? = some last) (meets : joins last first = true) :
    words (run ++ first :: rest) = words (first :: rest) := by
  obtain ⟨behind, later, split⟩ := exists_all_cons first rest
  have seen : isSpace (first :: behind) = false := (isBlank_of_joins meets).2
  have longer : isSpace (run ++ first :: behind) = false := by
    cases run with
    | nil => cases ends
    | cons head _ => exact visible
  rw [words, all_append_of_joins joined ends meets, words, split, List.modifyHead_cons,
    List.countP_cons, List.countP_cons, seen, longer]

theorem words_cons_of_joins {a b : Char} (meets : joins a b = true) (rest : Text) :
    words (a :: b :: rest) = words (b :: rest) :=
  words_append_of_joins (List.isChain_singleton a) (isBlank_of_joins meets).1 rfl meets

theorem words_cons_of_not_joins {a b : Char} (apart : joins a b = false) (rest : Text) :
    words (a :: b :: rest) = words (b :: rest) + if Text.isBlank a then 0 else 1 :=
  words_append_of_not_joins (List.isChain_singleton a) rfl (by simpa using apart)

/-- A lexeme that is accepted stands for one token, white space for none. -/
theorem length_tokens {lexeme : Text} {result : List Token}
    (accepted : tokens lexeme = .ok result) :
    result.length = if isSpace lexeme then 0 else 1 := by
  cases lexeme with
  | nil =>
      cases accepted
      rfl
  | cons c rest =>
      show result.length = if Text.isBlank c then 0 else 1
      cases blank : Text.isBlank c with
      | true =>
          rw [tokens_of_isBlank blank] at accepted
          cases accepted
          rfl
      | false =>
          obtain ⟨outcome, read, -⟩ := exists_token blank rest
          rw [read] at accepted
          cases outcome with
          | error cause => cases accepted
          | ok token =>
              cases accepted
              rfl

end Lexeme

end Reckoner
