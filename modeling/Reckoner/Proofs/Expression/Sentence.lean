import Reckoner.Expression.Value
import Reckoner.Proofs.Expression.Conversion
import Reckoner.Proofs.Expression.Lexemes
import Reckoner.Proofs.Expression.Operands

/-!
# Sentences among the accepted texts

Tokens are a sentence exactly if their parentheses match and no operand is missing or surplus
(`sentence_iff_orderly`): such tokens can be read by recursive descent, one kind of phrase at a
time. The evaluation accepts more than sentences, since it only counts values: in an accepted text
the missing operands are as many as the surplus ones, and they need not be zero.
-/

namespace Reckoner

/-- Tokens without a defect, given whether an operand is expected and the count of open groups. -/
structure Orderly (expecting : Bool) (depth : Nat) (tokens : List Token) : Prop where
  brackets : Brackets.fault? depth tokens = none
  missing : Operands.missing expecting tokens = 0
  surplus : Operands.surplus expecting tokens = 0
  infix_only : .operator .neg ∉ tokens

namespace Orderly

variable {expecting : Bool} {depth : Nat} {rest : List Token}

/-- A token is in order if an operand may stand or end where it does, and the rest is. -/
theorem cons_iff {token : Token} {inner : Nat}
    (brackets : Brackets.fault? depth (token :: rest) = Brackets.fault? inner rest)
    (infix_token : token ≠ .operator .neg) :
    Orderly expecting depth (token :: rest) ↔
      (if expecting then token.followsOperand else token.startsOperand) = false ∧
        Orderly token.expectsOperand inner rest := by
  constructor
  · rintro ⟨closed, missing, surplus, infix_only⟩
    rw [Operands.missing] at missing
    rw [Operands.surplus] at surplus
    refine ⟨?_, brackets ▸ closed, Nat.eq_zero_of_add_eq_zero_left missing,
      Nat.eq_zero_of_add_eq_zero_left surplus, List.not_mem_of_not_mem_cons infix_only⟩
    cases expecting with
    | false => simpa using Nat.eq_zero_of_add_eq_zero_right surplus
    | true => simpa using Nat.eq_zero_of_add_eq_zero_right missing
  · rintro ⟨fits, closed, missing, surplus, infix_only⟩
    refine ⟨brackets.trans closed, ?_, ?_, by simp [infix_token.symm, infix_only]⟩
    · rw [Operands.missing, missing]
      cases expecting with
      | false => rfl
      | true => simpa using fits
    · rw [Operands.surplus, surplus]
      cases expecting with
      | false => simpa using fits
      | true => rfl

theorem nil_iff : Orderly expecting depth [] ↔ expecting = false ∧ depth = 0 := by
  constructor
  · rintro ⟨closed, missing, -, -⟩
    cases depth with
    | zero => exact ⟨by simpa [Operands.missing] using missing, rfl⟩
    | succ outer => cases closed
  · rintro ⟨rfl, rfl⟩
    exact ⟨rfl, rfl, rfl, List.not_mem_nil⟩

theorem number_iff (value : Float) :
    Orderly expecting depth (.number value :: rest) ↔
      expecting = true ∧ Orderly false depth rest := by
  rw [cons_iff (Brackets.fault?_number depth value rest) (by simp)]
  cases expecting <;> simp [Token.followsOperand, Token.startsOperand, Token.expectsOperand]

theorem opening_iff :
    Orderly expecting depth (.opening :: rest) ↔
      expecting = true ∧ Orderly true (depth + 1) rest := by
  rw [cons_iff (Brackets.fault?_opening depth rest) (by simp)]
  cases expecting <;> simp [Token.followsOperand, Token.startsOperand, Token.expectsOperand]

theorem call_iff (f : Function) :
    Orderly expecting depth (.function f :: .opening :: rest) ↔
      expecting = true ∧ Orderly true (depth + 1) rest := by
  have same := (Brackets.fault?_call depth f rest).trans (Brackets.fault?_opening depth rest).symm
  rw [cons_iff same (by simp), show (Token.function f).expectsOperand = true from rfl, opening_iff]
  cases expecting <;> simp [Token.followsOperand, Token.startsOperand]

/-- A function is called at once. -/
theorem called {f : Function} (orderly : Orderly expecting depth (.function f :: rest)) :
    ∃ after, rest = .opening :: after := by
  by_contra bare
  have fault := Brackets.fault?_function depth f rest (fun after same => bare ⟨after, same⟩)
  rw [orderly.brackets] at fault
  cases fault

theorem closing_iff :
    Orderly expecting depth (.closing :: rest) ↔
      expecting = false ∧ ∃ outer, depth = outer + 1 ∧ Orderly false outer rest := by
  cases depth with
  | zero =>
      constructor
      · intro orderly
        cases orderly.brackets
      · rintro ⟨_, outer, opened, _⟩
        cases opened
  | succ outer =>
      rw [@cons_iff _ _ _ .closing outer rfl (by simp)]
      cases expecting <;> simp [Token.followsOperand, Token.startsOperand, Token.expectsOperand]

/-- A plus or a minus may stand anywhere, another operator only behind an operand. -/
theorem operator_iff (op : BinaryOperator) :
    Orderly expecting depth (.operator (.binary op) :: rest) ↔
      (expecting = true → op.isAdditive = true) ∧ Orderly true depth rest := by
  rw [cons_iff (Brackets.fault?_operator depth _ rest) (by simp)]
  cases expecting <;> simp [Token.followsOperand, Token.startsOperand, Token.expectsOperand]

theorem infix_iff (op : BinaryOperator) :
    Orderly false depth (.operator (.binary op) :: rest) ↔ Orderly true depth rest := by
  simp [operator_iff]

theorem sign_iff {op : BinaryOperator} (additive : op.isAdditive = true) :
    Orderly true depth (.operator (.binary op) :: rest) ↔ Orderly true depth rest := by
  simp [operator_iff, additive]

/-- Behind an operand the tokens end, its group ends, or an operator follows. -/
theorem behind_operand (orderly : Orderly false depth rest) :
    rest = [] ∧ depth = 0 ∨
      (∃ outer after, depth = outer + 1 ∧ rest = .closing :: after ∧ Orderly false outer after) ∨
      ∃ op after, rest = .operator (.binary op) :: after ∧ Orderly true depth after := by
  rcases rest with _ | ⟨token, after⟩
  · exact .inl ⟨rfl, (nil_iff.mp orderly).2⟩
  · cases token with
    | number value => cases ((number_iff value).mp orderly).1
    | opening => cases (opening_iff.mp orderly).1
    | function f =>
        obtain ⟨inside, rfl⟩ := orderly.called
        cases ((call_iff f).mp orderly).1
    | closing =>
        obtain ⟨_, outer, opened, behind⟩ := closing_iff.mp orderly
        exact .inr (.inl ⟨outer, after, opened, rfl, behind⟩)
    | operator op =>
        cases op with
        | neg => exact absurd List.mem_cons_self orderly.infix_only
        | binary op => exact .inr (.inr ⟨op, after, rfl, ((operator_iff op).mp orderly).2⟩)

/-- An operand is a number, a group, a call, or signed. -/
theorem operand {tokens : List Token} (orderly : Orderly true depth tokens) :
    (∃ value rest, tokens = .number value :: rest ∧ Orderly false depth rest) ∨
      (∃ rest, tokens = .opening :: rest ∧ Orderly true (depth + 1) rest) ∨
      (∃ f rest, tokens = .function f :: .opening :: rest ∧ Orderly true (depth + 1) rest) ∨
      ∃ op rest, op.isAdditive = true ∧ tokens = .operator (.binary op) :: rest ∧
        Orderly true depth rest := by
  rcases tokens with _ | ⟨token, rest⟩
  · cases (nil_iff.mp orderly).1
  · cases token with
    | number value => exact .inl ⟨value, rest, rfl, ((number_iff value).mp orderly).2⟩
    | opening => exact .inr (.inl ⟨rest, rfl, (opening_iff.mp orderly).2⟩)
    | function f =>
        obtain ⟨inside, rfl⟩ := orderly.called
        exact .inr (.inr (.inl ⟨f, inside, rfl, ((call_iff f).mp orderly).2⟩))
    | closing => cases (closing_iff.mp orderly).1
    | operator op =>
        cases op with
        | neg => exact absurd List.mem_cons_self orderly.infix_only
        | binary op =>
            obtain ⟨sign, behind⟩ := (operator_iff op).mp orderly
            exact .inr (.inr (.inr ⟨op, rest, sign rfl, rfl, behind⟩))

end Orderly

/-! ## Reading by recursive descent -/

/-- The tokens do not go on with an operator of the phrase. -/
def Ends (kind : PhraseKind) (tokens : List Token) : Prop :=
  ∀ op after, tokens = .operator (.binary op) :: after →
    (Operator.binary op).precedence < kind.level

/-- A phrase of the kind stands in front and takes in all it can; the rest is in order. -/
def Reads (kind : PhraseKind) (depth : Nat) (tokens : List Token) : Prop :=
  ∃ first rest tree, tokens = first ++ rest ∧ Phrase kind first tree ∧ Orderly false depth rest ∧
    Ends kind rest

/-- A chain of operands goes on as long as its operators do. -/
theorem reads_chain {kind inner : PhraseKind} {bound : Nat}
    (next : inner.level = kind.level + 1)
    (join : ∀ op first second firstTree secondTree, (Operator.binary op).precedence = kind.level →
      Phrase kind first firstTree → Phrase inner second secondTree →
      Phrase kind (first ++ [.operator (.binary op)] ++ second) (.binary op firstTree secondTree))
    (each : ∀ depth tokens, tokens.length ≤ bound → Orderly true depth tokens →
      Reads inner depth tokens)
    {depth : Nat} {first rest : List Token} {tree : Tree} (phrase : Phrase kind first tree)
    (orderly : Orderly false depth rest) (ends : Ends inner rest) (short : rest.length ≤ bound) :
    Reads kind depth (first ++ rest) := by
  -- The chain grows to the left, so the phrase read so far is general and the rest gets shorter.
  induction size : rest.length using Nat.strongRecOn generalizing first rest tree with
  | ind length ih =>
      by_cases goes : ∃ op after, rest = .operator (.binary op) :: after ∧
          (Operator.binary op).precedence = kind.level
      · obtain ⟨op, after, rfl, level⟩ := goes
        rw [List.length_cons] at size short
        have behind := ((Orderly.operator_iff op).mp orderly).2
        obtain ⟨second, left, other, rfl, operand, remains, stops⟩ :=
          each depth after (by omega) behind
        rw [List.length_append] at size short
        have joined := join op _ _ _ _ level phrase operand
        have read := ih left.length (by omega) joined remains stops (by omega) rfl
        simpa using read
      · refine ⟨first, rest, tree, rfl, phrase, orderly, ?_⟩
        intro op after same
        have looser := ends op after same
        have other : (Operator.binary op).precedence ≠ kind.level :=
          fun level => goes ⟨op, after, same, level⟩
        omega

/-- An atom may be the base of a power, whose exponent is signed. -/
theorem reads_power {depth : Nat} {first rest : List Token} {tree : Tree}
    (atom : Phrase .atom first tree) (orderly : Orderly false depth rest)
    (exponent : ∀ after, after.length < rest.length → Orderly true depth after →
      Reads .signed depth after) :
    Reads .signed depth (first ++ rest) := by
  by_cases raised : ∃ after, rest = .operator (.binary .pow) :: after
  · obtain ⟨after, rfl⟩ := raised
    have behind := ((Orderly.operator_iff .pow).mp orderly).2
    obtain ⟨second, left, other, rfl, operand, remains, stops⟩ :=
      exponent after (by simp) behind
    refine ⟨_, left, _, ?_, .unsigned (.power atom operand), remains, stops⟩
    simp
  · refine ⟨first, rest, tree, rfl, .unsigned (.atom atom), orderly, ?_⟩
    intro op after same
    cases op with
    | pow => exact absurd ⟨after, same⟩ raised
    | add => decide
    | sub => decide
    | mul => decide
    | div => decide

/-- A sum stops at the end of the tokens or of its group. -/
theorem Ends.stop {depth : Nat} {rest : List Token} (ends : Ends .sum rest)
    (orderly : Orderly false depth rest) :
    rest = [] ∧ depth = 0 ∨
      ∃ outer after, depth = outer + 1 ∧ rest = .closing :: after ∧ Orderly false outer after := by
  rcases orderly.behind_operand with finished | closed | ⟨op, after, rfl, -⟩
  · exact .inl finished
  · exact .inr closed
  · have loosest := ends op after rfl
    cases op <;> exact absurd loosest (by decide)

/-- What is read inside parentheses reaches to the closing one. -/
theorem Reads.enclosed {depth : Nat} {tokens : List Token}
    (inside : Reads .sum (depth + 1) tokens) :
    ∃ first rest tree, tokens = first ++ .closing :: rest ∧ Phrase .sum first tree ∧
      Orderly false depth rest := by
  obtain ⟨first, rest, tree, rfl, phrase, orderly, ends⟩ := inside
  rcases ends.stop orderly with ⟨-, opened⟩ | ⟨outer, after, opened, rfl, behind⟩
  · cases opened
  · cases opened
    exact ⟨first, after, tree, rfl, phrase, behind⟩

/-- Signs are read one by one, and then the power that they stand before. -/
theorem reads_signed {depth : Nat} {tokens : List Token} (orderly : Orderly true depth tokens)
    (smaller : ∀ depth shorter, shorter.length < tokens.length → Orderly true depth shorter →
      Reads .signed depth shorter ∧ Reads .sum depth shorter) :
    Reads .signed depth tokens := by
  rcases orderly.operand with ⟨value, rest, rfl, behind⟩ | ⟨inside, rfl, opened⟩ |
    ⟨f, inside, rfl, opened⟩ | ⟨op, rest, sign, rfl, behind⟩
  · refine reads_power (.number value) behind fun after less expecting => ?_
    exact (smaller depth after (Nat.lt_succ_of_lt less) expecting).1
  · obtain ⟨first, rest, tree, rfl, phrase, behind⟩ :=
      (smaller (depth + 1) inside (Nat.lt_succ_self _) opened).2.enclosed
    have shorter : rest.length < (first ++ .closing :: rest).length + 1 := by
      rw [List.length_append, List.length_cons]
      omega
    have read := reads_power (.group phrase) behind fun after less expecting =>
      (smaller depth after (Nat.lt_trans less shorter) expecting).1
    simpa using read
  · obtain ⟨first, rest, tree, rfl, phrase, behind⟩ :=
      (smaller (depth + 1) inside (Nat.lt_succ_of_lt (Nat.lt_succ_self _)) opened).2.enclosed
    have shorter : rest.length < (first ++ .closing :: rest).length + 2 := by
      rw [List.length_append, List.length_cons]
      omega
    have read := reads_power (.call f phrase) behind fun after less expecting =>
      (smaller depth after (Nat.lt_trans less shorter) expecting).1
    simpa using read
  · obtain ⟨first, left, tree, rfl, phrase, remains, stops⟩ :=
      (smaller depth rest (Nat.lt_succ_self _) behind).1
    cases op with
    | add => exact ⟨_, left, _, rfl, .plus phrase, remains, stops⟩
    | sub => exact ⟨_, left, _, rfl, .minus phrase, remains, stops⟩
    | mul => cases sign
    | div => cases sign
    | pow => cases sign

/-- **Tokens in order can be read**, as a signed power and as a sum. -/
theorem reads_of_orderly (bound : Nat) (depth : Nat) (tokens : List Token)
    (short : tokens.length ≤ bound) (orderly : Orderly true depth tokens) :
    Reads .signed depth tokens ∧ Reads .sum depth tokens := by
  -- Every phrase inside is shorter, but a sum may be as long as its first operand.
  induction bound generalizing depth tokens with
  | zero =>
      rw [List.length_eq_zero_iff.mp (Nat.le_zero.mp short)] at orderly
      cases (Orderly.nil_iff.mp orderly).1
  | succ bound ih =>
      have signed : ∀ depth tokens, tokens.length ≤ bound + 1 → Orderly true depth tokens →
          Reads .signed depth tokens := by
        intro depth tokens short orderly
        refine reads_signed orderly fun inner shorter less expecting => ?_
        exact ih inner shorter (by omega) expecting
      have product : ∀ depth tokens, tokens.length ≤ bound + 1 → Orderly true depth tokens →
          Reads .product depth tokens := by
        intro depth tokens short orderly
        obtain ⟨first, rest, tree, rfl, phrase, remains, ends⟩ := signed depth tokens short orderly
        rw [List.length_append] at short
        refine reads_chain rfl ?_ signed (.factor phrase) remains ends (by omega)
        intro op _ _ _ _ level left right
        exact .multiply (op.isMultiplicative_of_precedence level) left right
      obtain ⟨first, rest, tree, rfl, phrase, remains, ends⟩ := product depth tokens short orderly
      refine ⟨signed depth _ short orderly, ?_⟩
      rw [List.length_append] at short
      refine reads_chain rfl ?_ product (.term phrase) remains ends (by omega)
      intro op _ _ _ _ level left right
      exact .add (op.isAdditive_of_precedence level) left right

/-- A phrase in front of the tokens brings no defect. -/
theorem Phrase.orderly_append {kind : PhraseKind} {tokens : List Token} {tree : Tree}
    (phrase : Phrase kind tokens tree) {depth : Nat} {rest : List Token} :
    Orderly true depth (tokens ++ rest) ↔ Orderly false depth rest := by
  induction phrase generalizing depth rest with
  | number value => simp [Orderly.number_iff]
  | group inside ih => simp [Orderly.opening_iff, ih, Orderly.closing_iff]
  | call f inside ih => simp [Orderly.call_iff, ih, Orderly.closing_iff]
  | atom whole ih => exact ih
  | power left right left_ih right_ih =>
      rw [List.append_assoc, List.append_assoc, left_ih, List.singleton_append,
        Orderly.infix_iff, right_ih]
  | unsigned whole ih => exact ih
  | minus operand ih =>
      rw [List.append_assoc, List.singleton_append, Orderly.sign_iff rfl, ih]
  | plus operand ih =>
      rw [List.append_assoc, List.singleton_append, Orderly.sign_iff rfl, ih]
  | factor whole ih => exact ih
  | multiply multiplicative left right left_ih right_ih =>
      rw [List.append_assoc, List.append_assoc, left_ih, List.singleton_append,
        Orderly.infix_iff, right_ih]
  | term whole ih => exact ih
  | add additive left right left_ih right_ih =>
      rw [List.append_assoc, List.append_assoc, left_ih, List.singleton_append,
        Orderly.infix_iff, right_ih]

/-- **Sentences are the tokens without a defect.** -/
theorem sentence_iff_orderly {tokens : List Token} :
    (∃ tree, Phrase .sum tokens tree) ↔ Orderly true 0 tokens := by
  constructor
  · rintro ⟨tree, sentence⟩
    rw [← List.append_nil tokens, sentence.orderly_append]
    exact Orderly.nil_iff.mpr ⟨rfl, rfl⟩
  · intro orderly
    obtain ⟨first, rest, tree, rfl, phrase, remains, ends⟩ :=
      (reads_of_orderly tokens.length 0 tokens (Nat.le_refl _) orderly).2
    rcases ends.stop remains with ⟨rfl, -⟩ | ⟨outer, after, opened, -, -⟩
    · exact ⟨tree, (List.append_nil first).symm ▸ phrase⟩
    · cases opened

/-! ## Accepted texts -/

/-- A minus is read as an operator; the conversion decides whether it is a sign. -/
theorem Lexeme.infix_only {lexeme : Text} {tokens : List Token}
    (read : Lexeme.tokens lexeme = .ok tokens) : .operator .neg ∉ tokens := by
  cases lexeme with
  | nil =>
      cases read
      exact List.not_mem_nil
  | cons c rest =>
      cases blank : Text.isBlank c with
      | true =>
          rw [tokens_of_isBlank blank] at read
          cases read
          exact List.not_mem_nil
      | false =>
          obtain ⟨outcome, made, cases⟩ := exists_token blank rest
          rw [made] at read
          cases outcome with
          | error cause => cases read
          | ok token =>
              cases read
              rw [List.mem_singleton]
              rintro rfl
              rcases cases with number | word | ⟨sign, -⟩
              · cases number_eq_ok number.symm
              · obtain ⟨f, same⟩ := word_eq_ok word.symm
                cases same
              · rcases sign_eq_ok sign.symm with same | same | ⟨op, same⟩ <;> cases same

namespace Token

theorem infix_only_ofLexemes {lexemes : List Text} {tokens : List Token}
    (read : ofLexemes lexemes = .ok tokens) : .operator .neg ∉ tokens := by
  induction lexemes generalizing tokens with
  | nil =>
      cases read
      exact List.not_mem_nil
  | cons lexeme rest ih =>
      rw [ofLexemes] at read
      cases first : Lexeme.tokens lexeme with
      | error cause =>
          rw [first] at read
          cases read
      | ok here =>
          cases behind : ofLexemes rest with
          | error cause =>
              rw [first, behind] at read
              cases read
          | ok others =>
              rw [first, behind] at read
              cases read
              rw [List.mem_append, not_or]
              exact ⟨Lexeme.infix_only first, ih behind⟩

theorem infix_only_ofText {text : Text} {tokens : List Token} (read : ofText text = .ok tokens) :
    .operator .neg ∉ tokens := by
  rw [ofText] at read
  split at read
  · cases read
  · exact infix_only_ofLexemes read

end Token

namespace Expression

/-- A text has a value if its tokens can be put into a postfix order that has it. -/
theorem ordered_of_value {text : Text} {result : Float} (accepted : value text = .ok result) :
    ∃ tokens ordered, Token.ofText text = .ok tokens ∧ Postfix.ofInfix tokens = .ok ordered ∧
      (Postfix.evaluateOn [] ordered).2 = .ok result := by
  unfold value run at accepted
  cases read : Token.ofText text with
  | error cause => simp [read] at accepted
  | ok tokens =>
      cases converted : Postfix.ofInfix tokens with
      | error cause => simp [read, converted] at accepted
      | ok ordered =>
          rw [read] at accepted
          simp only [converted] at accepted
          exact ⟨tokens, ordered, rfl, converted, accepted⟩

/-- **What the evaluation accepts.** The missing operands of an accepted text are as many as the
surplus ones, and its tokens are a sentence exactly if there are none. -/
theorem defects_of_value {text : Text} {result : Float} (accepted : value text = .ok result) :
    ∃ tokens, Token.ofText text = .ok tokens ∧
      Operands.missing true tokens = Operands.surplus true tokens ∧
      ((∃ tree, Phrase .sum tokens tree) ↔ Operands.missing true tokens = 0) := by
  obtain ⟨tokens, ordered, read, converted, evaluated⟩ := ordered_of_value accepted
  have cancel : Operands.missing true tokens = Operands.surplus true tokens := by
    obtain ⟨tree, rfl, _⟩ := Postfix.leaves_singleton_iff.mp (Postfix.result_eq_ok_iff.mp evaluated)
    have balanced := Operands.balance_shunt converted
    rw [Operands.balance_postorder] at balanced
    simp only [Operands.pending, List.flatMap_nil, Operands.balance, Bool.toNat_true] at balanced
    omega
  have matched : Brackets.fault? 0 tokens = none := by
    have caused := Postfix.cause?_shunt [] true tokens
    rw [show Postfix.shunt [] true tokens = .ok ordered from converted] at caused
    exact caused.symm
  refine ⟨tokens, read, cancel, ?_⟩
  rw [sentence_iff_orderly]
  constructor
  · intro orderly
    exact orderly.missing
  · intro complete
    exact ⟨matched, complete, cancel ▸ complete, Token.infix_only_ofText read⟩

theorem defects_of_product :
    value "2*3".toList = .ok 6 ∧ ∃ tokens, Token.ofText "2*3".toList = .ok tokens ∧
      Operands.missing true tokens = Operands.surplus true tokens ∧
      ((∃ tree, Phrase .sum tokens tree) ↔ Operands.missing true tokens = 0) := by
  have accepted : value "2*3".toList = .ok 6 := by decide +kernel
  exact ⟨accepted, defects_of_value accepted⟩

/-- In `2(*3)` the surplus group makes up for the operand that is missing in it. -/
theorem value_without_sentence :
    value "2(*3)".toList = .ok 6 ∧ ∃ tokens, Token.ofText "2(*3)".toList = .ok tokens ∧
      ∀ tree, ¬Phrase .sum tokens tree := by
  refine ⟨by decide +kernel, [.number (Lexeme.literalValue ['2']), .opening,
    .operator (.binary .mul), .number (Lexeme.literalValue ['3']), .closing],
    by decide +kernel, ?_⟩
  intro tree sentence
  cases (sentence_iff_orderly.mp ⟨tree, sentence⟩).missing

end Expression

end Reckoner
