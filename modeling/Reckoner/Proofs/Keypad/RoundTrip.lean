import Reckoner.Proofs.Decimal.Reading
import Reckoner.Proofs.Keypad.Results

/-!
# Plain notation reads back

A decimal is a literal for the double that is read from its digits (`Decimal.literal_plain`), and
the shortest decimal of a double is read as the double itself, so plain notation of a finite double
stands for just that double (`ofPlainText?_plainText`).
-/

namespace Reckoner

open Float.Model Float.Model.UnpackedFloat

namespace Decimal

/-- Digits with a point are a literal. -/
theorem literal_pointed {digits : Text} (all : ∀ c ∈ digits, Text.isDigit c = true)
    (places : ℕ) :
    Lexeme.Literal (pointed digits places)
      (Float.ofScientific (Nat.ofDigitChars 10 digits 0) true places) := by
  have zeros (c : Char) (member : c ∈ Text.copies (places + 1 - digits.length) '0') :=
    Text.isDigit_of_mem_zeros member
  have length : (Text.copies (places + 1 - digits.length) '0' ++ digits).length =
      places + 1 - digits.length + digits.length := by
    rw [List.length_append, Text.copies, List.length_replicate]
  have number : Nat.ofDigitChars 10 (Text.copies (places + 1 - digits.length) '0' ++ digits) 0 =
      Nat.ofDigitChars 10 digits 0 := by
    rw [Text.copies, Nat.ofDigitChars_append, Nat.ofDigitChars_replicate_zero, Nat.mul_zero]
  have filled : Text.IsDigits (Text.copies (places + 1 - digits.length) '0' ++ digits) := by
    refine Text.isDigits_append ?_ zeros all
    apply List.length_pos_iff.mp
    omega
  rw [pointed, ← number]
  generalize Text.copies (places + 1 - digits.length) '0' ++ digits = row at length filled
  split
  · rename_i whole
    rw [whole]
    exact .whole filled.proper filled.all
  · have parts : row.take (row.length - places) ++ row.drop (row.length - places) = row :=
      List.take_append_drop _ _
    have behind : (row.drop (row.length - places)).length = places := by
      rw [List.length_drop]
      omega
    generalize row.take (row.length - places) = front at parts ⊢
    generalize row.drop (row.length - places) = back at parts behind ⊢
    subst parts behind
    rw [List.append_assoc, List.singleton_append]
    exact .pointed filled.proper filled.all

/-- A decimal without an exponent is a literal. -/
theorem literal_plain (d : Decimal) :
    Lexeme.Literal d.plain
      (Float.ofScientific (d.digits * 10 ^ d.exponent.toNat) true (-d.exponent).toNat) := by
  have digits (zeros : ℕ) :
      ∀ c ∈ Text.ofNat d.digits ++ Text.copies zeros '0', Text.isDigit c = true := by
    intro c member
    rcases List.mem_append.mp member with front | zero
    · exact (Text.isDigits_ofNat d.digits).all c front
    · exact Text.isDigit_of_mem_zeros zero
  have number : Nat.ofDigitChars 10 (Text.ofNat d.digits ++
      Text.copies (if d.digits = 0 then 0 else d.exponent.toNat) '0') 0 =
        d.digits * 10 ^ d.exponent.toNat := by
    rw [Nat.ofDigitChars_append, Text.ofDigitChars_ofNat, Text.copies,
      Nat.ofDigitChars_replicate_zero, Nat.mul_comm]
    split
    · rename_i zero
      rw [zero, Nat.zero_mul, Nat.zero_mul]
    · rfl
  rw [plain, ← number]
  exact literal_pointed (digits _) _

end Decimal

/-- The shortest decimal is read as the double that it was made from. -/
theorem literal_shortestDecimal {x : Dyadic} (canonical : x.Canonical)
    (nonzero : 0 < x.significand) (tie : Tie) :
    Lexeme.Literal (shortestDecimal tie x).plain (x.toFloat .positive nonzero) := by
  have literal := (shortestDecimal tie x).literal_plain
  have attracts := Dyadic.attracts_shortestDecimal canonical.toBounded nonzero tie
  have bounded := Decimal.bounded_shortest canonical.toBounded tie
  obtain ⟨-, raised, -⟩ := Decimal.dropZeros_le Dyadic.mostDigits (x.shortest tie)
  have digits : 0 < (shortestDecimal tie x).digits :=
    Decimal.dropZeros_pos _ (Dyadic.shortest_pos nonzero tie)
  have least := bounded.least
  rw [Decimal.value_eq_div, Nat.cast_pow, Nat.cast_ofNat] at attracts
  rwa [ofScientific_eq (Nat.mul_pos digits (Nat.pow_pos (by decide))) canonical nonzero attracts
    (by rw [shortestDecimal]; omega)] at literal

/-! ## The sign in front of it -/

/-- There are two doubles of no magnitude. -/
theorem eq_zero_of_ofFloat {x : Float} {value : Dyadic}
    (finite : Magnitude.ofFloat x = .finite value) (zero : value.significand = 0) :
    x = 0.0 ∨ x = -0.0 := by
  have word := Magnitude.toBits_of_ofFloat finite
  have size : x.toBits.toNat < 2 ^ 64 := x.toBits.toNat_lt
  have above : (0.0 : Float).toBits.toNat = 0 := by decide
  have below : (-0.0 : Float).toBits.toNat = 2 ^ 63 := by decide
  rw [Dyadic.word, if_pos (by omega), zero] at word
  obtain positive | negative : x.toBits.toNat = 0 ∨ x.toBits.toNat = 2 ^ 63 := by omega
  · exact .inl (eq_of_toBits (positive.trans above.symm))
  · exact .inr (eq_of_toBits (negative.trans below.symm))

/-- Every finite double but zero is packed from its parts. -/
theorem toFloat_eq {x : Float} {value : Dyadic} (finite : Magnitude.ofFloat x = .finite value)
    (nonzero : 0 < value.significand) : value.toFloat (Magnitude.sign x) nonzero = x := by
  have canonical := Dyadic.canonical_of_ofFloat finite
  exact eq_of_magnitude (ofFloat_toFloat canonical nonzero _) finite
    (sign_toFloat canonical nonzero _)

section Parts

variable {value : Dyadic} (canonical : value.Canonical) (nonzero : 0 < value.significand)
  (sign : Sign)

include canonical

theorem neg_toFloat : -value.toFloat sign nonzero = value.toFloat (-sign) nonzero := by
  show Float.ofModel (Float.Model.pack (value.toFloat sign nonzero).toModel.unpack.neg) = _
  rw [unpack_toFloat canonical nonzero sign]
  rfl

theorem abs_toFloat : (value.toFloat sign nonzero).abs = value.toFloat .positive nonzero := by
  show Float.ofModel (Float.Model.pack (value.toFloat sign nonzero).toModel.unpack.abs) = _
  rw [unpack_toFloat canonical nonzero sign]
  rfl

end Parts

section Finite

variable {x : Float} (finite : x.isFinite = true)

include finite

/-- A finite double is its absolute value, or the negation of it. -/
theorem signed_abs : (if Magnitude.isNegative x then -x.abs else x.abs) = x := by
  obtain ⟨value, magnitude⟩ := Magnitude.ofFloat_of_isFinite finite
  have canonical := Dyadic.canonical_of_ofFloat magnitude
  rcases Nat.eq_zero_or_pos value.significand with zero | nonzero
  · rcases eq_zero_of_ofFloat magnitude zero with rfl | rfl
    · decide
    · decide
  · have parts := toFloat_eq magnitude nonzero
    rw [← parts, abs_toFloat canonical nonzero, neg_toFloat canonical nonzero, parts]
    rw [Magnitude.sign] at parts
    split
    · rename_i negative
      rwa [if_pos negative] at parts
    · rename_i positive
      rwa [if_neg positive] at parts

/-- **Plain notation of a finite double** is a literal for its absolute value, behind a minus sign
if it is negative. -/
theorem exists_literal_plainText :
    ∃ body, plainText x = signed x body ∧ Lexeme.Literal body x.abs := by
  obtain ⟨value, magnitude⟩ := Magnitude.ofFloat_of_isFinite finite
  have canonical := Dyadic.canonical_of_ofFloat magnitude
  refine ⟨(shortestDecimal .up value).plain, by rw [plainText, magnitude], ?_⟩
  rcases Nat.eq_zero_or_pos value.significand with zero | nonzero
  · have literal := (shortestDecimal .up value).literal_plain
    have written : shortestDecimal .up value = ⟨0, 0⟩ := by
      rw [shortestDecimal, Dyadic.shortest, if_pos zero]
      rfl
    rw [written] at literal ⊢
    have read : Float.ofScientific (0 * 10 ^ (0 : ℤ).toNat) true (-(0 : ℤ)).toNat = x.abs := by
      rcases eq_zero_of_ofFloat magnitude zero with rfl | rfl
      · decide +kernel
      · decide +kernel
    rwa [read] at literal
  · rw [← toFloat_eq magnitude nonzero, abs_toFloat canonical nonzero]
    exact literal_shortestDecimal canonical nonzero .up

/-- **Plain notation of a finite double stands for that double.** -/
theorem ofPlainText?_plainText : ofPlainText? (plainText x) = some x := by
  obtain ⟨body, shown, literal⟩ := exists_literal_plainText finite
  have parts := signed_abs finite
  rw [shown, signed]
  split
  · rename_i negative
    rw [if_pos negative] at parts
    rw [literal.ofPlainText?_minus, parts]
  · rename_i positive
    rw [if_neg positive] at parts
    rw [literal.ofPlainText?, parts]

end Finite

end Reckoner
