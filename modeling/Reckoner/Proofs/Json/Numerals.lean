import Reckoner.Json.Reader
import Reckoner.Json.Writer
import Reckoner.Proofs.Decimal.Digits

/-!
# Numerals

Numerals as JSON has them (`IsProper`) are read from each of their texts (`read?_of_spells`), one of
which is written for them. Such numerals are those of integers and those of finite doubles
(`isProper_ofFloat?`): the digits of a double never start with a zero, as its shortest decimal is no
zero (`Dyadic.shortest_pos`). Integers of 64 bits are got back from their numerals, with a sign and
without one (`int64?_ofInt`, `nat64?_ofNat`).
-/

namespace Reckoner.Json.Numeral

/-- A numeral as JSON has it: no zero leads other digits, and at least one digit stands on each
side of the point and after the sign of the exponent. -/
structure IsProper (numeral : Numeral) : Prop where
  whole : Text.IsDigits numeral.whole
  leading : numeral.whole.head? = some '0' → numeral.whole.length = 1
  fraction : ∀ decimals ∈ numeral.fraction, Text.IsDigits decimals
  exponent : ∀ power ∈ numeral.exponent, Text.IsDigits power.2

/-! ## Ways to write a numeral -/

/-- The sign, as it is written. -/
def signText (negative : Bool) : Text := if negative then ['-'] else []

/-- The decimals with their point, as they are written. -/
def fractionText : Option Text → Text
  | some decimals => '.' :: decimals
  | none => []

/-- The exponent with its letter and sign, as it is written. -/
def exponentText : Option (Bool × Text) → Text
  | some (negative, digits) => 'e' :: (if negative then '-' else '+') :: digits
  | none => []

/-- The texts of an exponent: either letter, and a sign that may be missing if it is a plus. -/
inductive SpellsExponent : Text → Option (Bool × Text) → Prop where
  | absent : SpellsExponent [] none
  | signed {letter : Char} (either : letter = 'e' ∨ letter = 'E') (negative : Bool)
      (digits : Text) :
      SpellsExponent (letter :: (if negative then '-' else '+') :: digits) (some (negative, digits))
  | unsigned {letter : Char} (either : letter = 'e' ∨ letter = 'E') (digits : Text) :
      SpellsExponent (letter :: digits) (some (false, digits))

/-- The texts of a numeral, which differ in the exponent only. -/
inductive Spells : Text → Numeral → Prop where
  | numeral {numeral : Numeral} {exponent : Text} (proper : numeral.IsProper)
      (spells : SpellsExponent exponent numeral.exponent) :
      Spells (signText numeral.negative ++
        (numeral.whole ++ (fractionText numeral.fraction ++ exponent))) numeral

theorem spellsExponent_exponentText (exponent : Option (Bool × Text)) :
    SpellsExponent (exponentText exponent) exponent := by
  cases exponent with
  | none => exact .absent
  | some power => exact .signed (.inl rfl) power.1 power.2

/-- A numeral is written in one of its ways. -/
theorem spells_written {numeral : Numeral} (proper : numeral.IsProper) :
    Spells numeral.written numeral := by
  have parts : numeral.written = signText numeral.negative ++
      (numeral.whole ++ (fractionText numeral.fraction ++ exponentText numeral.exponent)) := by
    rw [← List.append_assoc, ← List.append_assoc]
    rfl
  rw [parts]
  exact .numeral proper (spellsExponent_exponentText numeral.exponent)

/-! ## Reading a numeral -/

section Exponents

variable {text : Text} {exponent : Option (Bool × Text)} (spells : SpellsExponent text exponent)

include spells

theorem SpellsExponent.head? : ∀ c ∈ text.head?, Text.isDigit c = false := by
  intro c first
  cases spells with
  | absent => cases first
  | signed either negative digits =>
      cases first
      rcases either with rfl | rfl
      · decide
      · decide
  | unsigned either digits =>
      cases first
      rcases either with rfl | rfl
      · decide
      · decide

theorem head?_fractionText (fraction : Option Text) :
    ∀ c ∈ (fractionText fraction ++ text).head?, Text.isDigit c = false := by
  intro c first
  cases fraction with
  | none => exact spells.head? c first
  | some decimals =>
      cases first
      decide

theorem readFraction_fractionText {fraction : Option Text}
    (digits : ∀ decimals ∈ fraction, Text.IsDigits decimals) :
    readFraction (fractionText fraction ++ text) = (fraction, text) := by
  cases fraction with
  | none =>
      cases spells with
      | absent => rfl
      | signed either negative digits => rcases either with rfl | rfl <;> rfl
      | unsigned either digits => rcases either with rfl | rfl <;> rfl
  | some decimals =>
      have ends := spells.head?
      have all := (digits decimals rfl).all
      show (some (List.takeWhile _ (decimals ++ _)), List.dropWhile _ (decimals ++ _)) = _
      rw [Text.takeWhile_digits all ends, Text.dropWhile_digits all ends]

theorem readExponent?_of_spells (digits : ∀ power ∈ exponent, Text.IsDigits power.2) :
    readExponent? text = some exponent := by
  cases spells with
  | absent => rfl
  | signed either negative digits => rcases either with rfl | rfl <;> cases negative <;> rfl
  | @unsigned letter either digits =>
      -- Without a sign, the first character behind the letter is a digit.
      obtain ⟨c, rest, rfl⟩ := List.exists_cons_of_ne_nil (digits _ rfl).proper
      have digit := (digits _ rfl).all c List.mem_cons_self
      have letter : (letter = 'e' || letter = 'E') = true := by simpa using either
      rw [readExponent?.eq_def]
      dsimp only
      rw [if_pos letter]
      split
      · rename_i same
        cases same
        cases digit
      · rename_i same
        cases same
        cases digit
      · rfl

end Exponents

theorem readSign_signText (negative : Bool) {rest : Text} (unsigned : rest.head? ≠ some '-') :
    readSign (signText negative ++ rest) = (negative, rest) := by
  cases negative with
  | true => rfl
  | false =>
      rw [signText, readSign.eq_def]
      split
      · rename_i same
        cases same
        exact absurd rfl unsigned
      · rfl

/-- **A numeral is read from each of its texts.** -/
theorem read?_of_spells {text : Text} {numeral : Numeral} (spells : Spells text numeral) :
    read? text = some numeral := by
  obtain @⟨_, exponent, proper, spells⟩ := spells
  have ends := head?_fractionText spells numeral.fraction
  obtain ⟨d, rest, whole⟩ := List.exists_cons_of_ne_nil proper.whole.proper
  have digit := proper.whole.all d (whole ▸ List.mem_cons_self)
  have unsigned : (numeral.whole ++ (fractionText numeral.fraction ++ exponent)).head? ≠
      some '-' := by
    rw [whole]
    intro minus
    cases minus
    cases digit
  have accepted : ¬(numeral.whole = [] ||
      (numeral.whole.head? = some '0' && 1 < numeral.whole.length) || numeral.fraction = some [] ||
        numeral.exponent.any (fun e => e.2 = [] || !e.2.all Text.isDigit)) := by
    simp only [Bool.or_eq_true, Bool.and_eq_true, decide_eq_true_eq, Option.any_eq_true,
      Bool.not_eq_true', List.all_eq_false]
    rintro (((empty | ⟨zero, long⟩) | point) | ⟨power, same, empty | ⟨c, member, other⟩⟩)
    · exact proper.whole.proper empty
    · exact absurd (proper.leading zero) (Nat.ne_of_gt long)
    · exact (proper.fraction [] point).proper rfl
    · exact (proper.exponent power same).proper empty
    · exact other ((proper.exponent power same).all c member)
  -- Sign, whole part, decimals and exponent come off the front one after the other.
  rw [read?, readSign_signText _ unsigned]
  dsimp only
  rw [Text.takeWhile_digits proper.whole.all ends, Text.dropWhile_digits proper.whole.all ends,
    readFraction_fractionText spells proper.fraction]
  dsimp only
  rw [readExponent?_of_spells spells proper.exponent]
  dsimp only
  rw [if_neg accepted]

theorem isNumeric_of_isDigit {c : Char} (digit : Text.isDigit c = true) :
    isNumeric c = true := by
  simp [isNumeric, digit]

theorem SpellsExponent.isNumeric {text : Text} {exponent : Option (Bool × Text)}
    (spells : SpellsExponent text exponent) (digits : ∀ power ∈ exponent, Text.IsDigits power.2) :
    ∀ c ∈ text, isNumeric c = true := by
  have letters {letter : Char} (either : letter = 'e' ∨ letter = 'E') :
      Json.isNumeric letter = true := by
    rcases either with rfl | rfl <;> rfl
  intro c member
  cases spells with
  | absent => cases member
  | signed either negative decimals =>
      rcases List.mem_cons.mp member with rfl | signed
      · exact letters either
      · rcases List.mem_cons.mp signed with rfl | digit
        · cases negative <;> rfl
        · exact isNumeric_of_isDigit ((digits _ rfl).all c digit)
  | unsigned either decimals =>
      rcases List.mem_cons.mp member with rfl | digit
      · exact letters either
      · exact isNumeric_of_isDigit ((digits _ rfl).all c digit)

/-- A numeral is written in the characters of numbers. -/
theorem Spells.isNumeric {text : Text} {numeral : Numeral} (spells : Spells text numeral) :
    ∀ c ∈ text, isNumeric c = true := by
  obtain ⟨proper, spells⟩ := spells
  intro c member
  rw [List.mem_append, List.mem_append, List.mem_append] at member
  rcases member with sign | whole | decimals | power
  · cases negative : numeral.negative with
    | true =>
        rw [negative] at sign
        rw [List.mem_singleton.mp sign]
        rfl
    | false =>
        rw [negative] at sign
        cases sign
  · exact isNumeric_of_isDigit (proper.whole.all c whole)
  · cases same : numeral.fraction with
    | none =>
        rw [same] at decimals
        cases decimals
    | some digits =>
        rw [same] at decimals
        rcases List.mem_cons.mp decimals with rfl | digit
        · rfl
        · exact isNumeric_of_isDigit ((proper.fraction digits same).all c digit)
  · exact spells.isNumeric proper.exponent c power

theorem Spells.exists_eq_cons {text : Text} {numeral : Numeral} (spells : Spells text numeral) :
    ∃ c rest, text = c :: rest ∧ (c = '-' || Text.isDigit c) = true := by
  obtain ⟨proper, spells⟩ := spells
  cases numeral.negative with
  | true => exact ⟨'-', _, rfl, rfl⟩
  | false =>
      obtain ⟨d, others, same⟩ := List.exists_cons_of_ne_nil proper.whole.proper
      have digit := proper.whole.all d (same ▸ List.mem_cons_self)
      rw [same]
      exact ⟨d, _, rfl, by rw [digit, Bool.or_true]⟩

/-! ## Numerals that are written -/

theorem isProper_ofNat (n : Nat) : IsProper (ofNat n) where
  whole := Text.isDigits_ofNat n
  leading := by
    intro zero
    rcases Nat.eq_zero_or_pos n with rfl | positive
    · rfl
    · exact absurd zero (Text.head?_ofNat positive)
  fraction := by
    intro decimals given
    cases given
  exponent := by
    intro power given
    cases given

/-- The sign does not matter. -/
theorem IsProper.signed {numeral : Numeral} (proper : numeral.IsProper) (negative : Bool) :
    IsProper { numeral with negative := negative } :=
  ⟨proper.whole, proper.leading, proper.fraction, proper.exponent⟩

theorem isProper_ofInt (n : Int) : IsProper (ofInt n) := (isProper_ofNat n.natAbs).signed _

theorem head?_take_ne {digits : Text} (nonzero : digits.head? ≠ some '0') (count : Nat) :
    (digits.take count).head? ≠ some '0' := by
  cases count with
  | zero => simp
  | succ count =>
      rw [List.head?_take, if_neg (Nat.succ_ne_zero count)]
      exact nonzero

section Places

variable {digits : Text} (proper : Text.IsDigits digits) (nonzero : digits.head? ≠ some '0')

include proper nonzero

theorem head?_append_ne (rest : Text) : (digits ++ rest).head? ≠ some '0' := by
  obtain ⟨first, others, cut⟩ := List.exists_cons_of_ne_nil proper.proper
  rw [cut] at nonzero ⊢
  exact nonzero

/-- Digits with the point anywhere, if they do not start with a zero. -/
theorem isProper_ofPlaces (negative : Bool) (places : Int) :
    IsProper (ofPlaces negative digits places) := by
  have zero : Text.IsDigits ['0'] := Text.isDigits_ofNat 0
  have single {decimals part : Text} (digits : Text.IsDigits decimals)
      (same : part ∈ some decimals) : Text.IsDigits part := Option.some.inj same ▸ digits
  rw [ofPlaces]
  -- A point at the end or inside of the digits, a point in front of them, or an exponent.
  split
  · rename_i point
    rw [Bool.and_eq_true, decide_eq_true_eq, decide_eq_true_eq] at point
    split
    · refine ⟨Text.isDigits_append (List.append_ne_nil_of_left_ne_nil proper.proper _) proper.all
        (fun _ member => Text.isDigit_of_mem_zeros member), ?_, fun _ => single zero, by simp⟩
      intro leading
      exact absurd leading (head?_append_ne proper nonzero _)
    · have more : places.toNat < digits.length := by omega
      refine ⟨proper.take (by omega), ?_, fun _ => single (proper.drop more), by simp⟩
      intro leading
      exact absurd leading (head?_take_ne nonzero _)
  · split
    · have decimals : Text.IsDigits (Text.copies (-places).toNat '0' ++ digits) :=
        Text.isDigits_append (List.append_ne_nil_of_right_ne_nil _ proper.proper)
          (fun _ member => Text.isDigit_of_mem_zeros member) proper.all
      exact ⟨zero, fun _ => rfl, fun _ => single decimals, by simp⟩
    · have length := List.length_pos_iff.mpr proper.proper
      refine ⟨proper.take Nat.one_pos, ?_, ?_, ?_⟩
      · intro leading
        exact absurd leading (head?_take_ne nonzero _)
      · intro decimals same
        dsimp only at same
        split at same
        · cases same
        · exact single (proper.drop (by omega)) same
      · intro power same
        cases same
        exact Text.isDigits_ofNat _

end Places

/-- **A double is written as JSON has it.** -/
theorem isProper_ofFloat? {x : Float} {numeral : Numeral} (finite : ofFloat? x = some numeral) :
    IsProper numeral := by
  rw [ofFloat?] at finite
  split at finite
  · rename_i value _
    dsimp only at finite
    split at finite
    · cases finite
      have zero : Text.IsDigits ['0'] := Text.isDigits_ofNat 0
      refine ⟨zero, fun _ => rfl, ?_, by simp⟩
      intro decimals same
      cases same
      exact zero
    · rename_i nonzero
      cases finite
      have positive : 0 < (shortestDecimal .toEven value).digits :=
        Decimal.dropZeros_pos _ (Dyadic.shortest_pos (Nat.pos_of_ne_zero nonzero) _)
      exact isProper_ofPlaces (Text.isDigits_ofNat _) (Text.head?_ofNat positive) _ _
  · cases finite

/-! ## Integers -/

theorem le_ofDigitChars (digits : Text) (start : Nat) :
    start ≤ Nat.ofDigitChars 10 digits start := by
  rw [Nat.ofDigitChars_eq_ofDigitChars_zero]
  have scaled : start ≤ 10 ^ digits.length * start :=
    Nat.le_mul_of_pos_left _ (Nat.pow_pos (by decide))
  omega

/-- Digits of a number that fits a word are all gathered. -/
theorem gather_of_fits {digits : Text} {start : Nat}
    (fits : Nat.ofDigitChars 10 digits start < wordLimit) :
    gather start digits = (Nat.ofDigitChars 10 digits start, 0) := by
  induction digits generalizing start with
  | nil => rfl
  | cons c rest ih =>
      rw [Nat.ofDigitChars_cons, Nat.mul_comm] at fits ⊢
      have next := Nat.lt_of_le_of_lt (le_ofDigitChars rest _) fits
      rw [gather, if_pos next]
      exact ih fits

/-- What is gathered fits a word. -/
theorem gather_lt {digits : Text} {start : Nat} (fits : start < wordLimit) :
    (gather start digits).1 < wordLimit := by
  induction digits generalizing start with
  | nil => exact fits
  | cons c rest ih =>
      rw [gather]
      split
      · rename_i next
        exact ih next
      · exact fits

/-- An integer of which the digits fit a word is read from its numeral. -/
theorem int?_ofInt {n : Int} (least : minInt64 ≤ n) (most : n < wordLimit) :
    (ofInt n).int? = some n := by
  rw [minInt64] at least
  rw [wordLimit] at most
  have value := Text.ofDigitChars_ofNat n.natAbs
  have fits : Nat.ofDigitChars 10 (Text.ofNat n.natAbs) 0 < wordLimit := by
    rw [value, wordLimit]
    omega
  have gathered := gather_of_fits fits
  rw [value] at gathered
  rw [int?, show (ofInt n).whole = Text.ofNat n.natAbs from rfl, gathered]
  by_cases negative : n < 0
  · have within : (0 < n.natAbs && n.natAbs ≤ wordLimit / 2) = true := by
      rw [Bool.and_eq_true, decide_eq_true_eq, decide_eq_true_eq, wordLimit]
      omega
    have same : -(n.natAbs : Int) = n := by omega
    show (if !decide (n < 0) then some (n.natAbs : Int)
      else if (0 < n.natAbs && n.natAbs ≤ wordLimit / 2) = true then some (-(n.natAbs : Int))
        else none) = some n
    rw [decide_eq_true negative, Bool.not_true, if_neg Bool.false_ne_true, if_pos within, same]
  · have same : (n.natAbs : Int) = n := by omega
    show (if !decide (n < 0) then some (n.natAbs : Int) else _) = some n
    rw [decide_eq_false negative, Bool.not_false, if_pos rfl, same]

/-- **An integer of 64 bits is read from its numeral.** -/
theorem int64?_ofInt {n : Int} (least : minInt64 ≤ n) (most : n ≤ maxInt64) :
    (ofInt n).int64? = some n := by
  have small : n < wordLimit := by
    rw [maxInt64] at most
    rw [wordLimit]
    omega
  have within : (minInt64 ≤ n && n ≤ maxInt64) = true := by
    rw [Bool.and_eq_true, decide_eq_true_eq, decide_eq_true_eq]
    exact ⟨least, most⟩
  rw [int64?, int?_ofInt least small]
  exact Option.filter_some_pos within

/-- A natural number of 64 bits is read from its numeral. -/
theorem nat64?_ofNat {n : Nat} (fits : n < wordLimit) : (ofNat n).nat64? = some n := by
  have unsigned : ofNat n = ofInt n := by
    rw [ofNat, ofInt, decide_eq_false (by omega), Int.natAbs_natCast]
  rw [nat64?, unsigned, int?_ofInt (by rw [minInt64]; omega) (by omega),
    Option.filter_some_pos (by simp)]
  rfl

/-- A natural number that is read fits a word. -/
theorem nat64?_lt {numeral : Numeral} {n : Nat} (read : numeral.nat64? = some n) :
    n < wordLimit := by
  have gathered : (gather 0 numeral.whole).1 < wordLimit := gather_lt (by decide)
  rw [nat64?, Option.map_eq_some_iff] at read
  obtain ⟨value, kept, rfl⟩ := read
  have whole := (Option.filter_eq_some_iff.mp kept).1
  rw [int?] at whole
  split at whole
  rename_i digits surplus cut
  rw [cut] at gathered
  dsimp only at gathered
  split at whole
  · cases whole
  · split at whole
    · cases whole
      exact gathered
    · split at whole
      · cases whole
        omega
      · cases whole

end Reckoner.Json.Numeral
