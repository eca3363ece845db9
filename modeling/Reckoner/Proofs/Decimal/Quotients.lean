import Reckoner.Proofs.Decimal.Midpoints

/-!
# Quotients as doubles

Products and quotients of doubles are rounded from a whole number of units and two bits that say
what lies beyond it (`quotientBits`), which is enough to round as the exact quotient would be
(`roundedMantissa_quotientBits`). So a quotient becomes the double that attracts it
(`roundWithAccuracy_eq`).
-/

namespace Reckoner

open Float.Model Float.Model.UnpackedFloat

/-! ## Quotients to the nearest whole number -/

section Nearest

variable {num den : ℕ}

theorem roundDiv_of_lt (tie : Tie) (less : 2 * (num % den) < den) :
    roundDiv tie num den = num / den := by
  unfold roundDiv
  rw [Nat.compare_eq_lt.mpr less]

theorem roundDiv_of_gt (tie : Tie) (more : den < 2 * (num % den)) :
    roundDiv tie num den = num / den + 1 := by
  unfold roundDiv
  rw [Nat.compare_eq_gt.mpr more]

theorem roundDiv_of_half (half : 2 * (num % den) = den) :
    roundDiv .toEven num den = num / den + num / den % 2 := by
  unfold roundDiv
  rw [Nat.compare_eq_eq.mpr half]

/-- Of all whole numbers, the rounded quotient is the nearest one. -/
theorem roundDiv_eq_of_near {rounded : ℕ} (positive : 0 < den)
    (lower : 2 * (rounded * den) ≤ 2 * num + den) (upper : 2 * num ≤ 2 * (rounded * den) + den)
    (strict : rounded % 2 = 1 →
      2 * (rounded * den) < 2 * num + den ∧ 2 * num < 2 * (rounded * den) + den) :
    roundDiv .toEven num den = rounded := by
  have parts : num / den * den + num % den = num := Nat.div_add_mod' num den
  have less := Nat.mod_lt num positive
  have above : rounded ≤ num / den + 1 := by
    by_contra far
    have := Nat.mul_le_mul_right den (Nat.not_le.mp far)
    rw [Nat.succ_mul, Nat.succ_mul] at this
    omega
  have below : num / den ≤ rounded := by
    by_contra far
    have := Nat.mul_le_mul_right den (Nat.not_le.mp far)
    rw [Nat.succ_mul] at this
    omega
  obtain rfl | rfl : rounded = num / den ∨ rounded = num / den + 1 := by omega
  · rcases Nat.lt_trichotomy (2 * (num % den)) den with under | half | beyond
    · exact roundDiv_of_lt .toEven under
    · rw [roundDiv_of_half half]
      omega
    · omega
  · rw [Nat.succ_mul (num / den)] at lower upper strict
    rcases Nat.lt_trichotomy (2 * (num % den)) den with under | half | beyond
    · omega
    · rw [roundDiv_of_half half]
      omega
    · exact roundDiv_of_gt .toEven beyond

end Nearest

/-! ## The bits of a quotient -/

/-- What rounding keeps of a quotient: the whole part, whether a half of the divisor remains, and
whether what remains is neither nothing nor a half. -/
def quotientBits (num den : ℕ) : ExtendedMantissa :=
  ⟨num / den, den ≤ 2 * (num % den), num % den ≠ 0 ∧ 2 * (num % den) ≠ den⟩

theorem ofMantissaAndAccuracy_exact (num : ℕ) :
    ExtendedMantissa.ofMantissaAndAccuracy num .exact = quotientBits num 1 := by
  simp [ExtendedMantissa.ofMantissaAndAccuracy, quotientBits, Nat.mod_one]

section Bits

variable (num : ℕ) {den : ℕ} (positive : 0 < den)

include positive

theorem ofMantissaAndAccuracy_fraction :
    ExtendedMantissa.ofMantissaAndAccuracy (num / den) (accuracyOfFraction (num % den) den) =
      quotientBits num den := by
  rw [accuracyOfFraction, quotientBits]
  generalize num % den = rest
  split
  · rename_i whole
    simp [ExtendedMantissa.ofMantissaAndAccuracy, whole, Nat.ne_of_gt positive]
  · rename_i parted
    rcases Nat.lt_trichotomy (2 * rest) den with less | half | more
    · rw [Nat.compare_eq_lt.mpr less]
      simp [ExtendedMantissa.ofMantissaAndAccuracy, parted, less, Nat.ne_of_lt less]
    · rw [Nat.compare_eq_eq.mpr half]
      simp [ExtendedMantissa.ofMantissaAndAccuracy, half]
    · rw [Nat.compare_eq_gt.mpr more]
      simp [ExtendedMantissa.ofMantissaAndAccuracy, parted, more.le, Nat.ne_of_gt more]

theorem shiftRightOne_quotientBits :
    (quotientBits num den).shiftRightOne = quotientBits num (den * 2) := by
  have less := Nat.mod_lt num positive
  have rest : num % (den * 2) = num % den + den * (num / den % 2) := Nat.mod_mul
  rw [quotientBits, quotientBits, ExtendedMantissa.shiftRightOne, ExtendedMantissa.mk.injEq]
  refine ⟨Nat.div_div_eq_div_mul num den 2, ?_, ?_⟩
  · rcases Nat.mod_two_eq_zero_or_one (num / den) with even | odd
    · rw [even, Nat.mul_zero] at rest
      simp [even, rest]
      omega
    · rw [odd, Nat.mul_one] at rest
      simp [odd, rest]
      omega
  · rw [Bool.or_eq_decide]
    congr 1
    simp only [decide_eq_true_eq, eq_iff_iff]
    rcases Nat.mod_two_eq_zero_or_one (num / den) with even | odd
    · rw [even, Nat.mul_zero] at rest
      omega
    · rw [odd, Nat.mul_one] at rest
      omega

theorem shiftRight_quotientBits (count : ℕ) :
    quotientBits num den >>> count = quotientBits num (den * 2 ^ count) := by
  induction count with
  | zero =>
      rw [Nat.pow_zero, Nat.mul_one]
      rfl
  | succ count ih =>
      show (quotientBits num den >>> count).shiftRightOne = _
      rw [ih, shiftRightOne_quotientBits num (Nat.mul_pos positive (Nat.two_pow_pos count)),
        Nat.pow_succ, Nat.mul_assoc]

/-- **The bits round as the quotient does.** -/
theorem roundedMantissa_quotientBits :
    (quotientBits num den).roundedMantissa = roundDiv .toEven num den := by
  rcases Nat.lt_trichotomy (2 * (num % den)) den with less | half | more
  · rw [roundDiv_of_lt .toEven less, quotientBits]
    by_cases whole : num % den = 0
    · simp [whole, Nat.ne_of_gt positive, ExtendedMantissa.roundedMantissa,
        ExtendedMantissa.accuracy, Accuracy.roundToNearestEven]
    · simp [whole, Nat.not_le.mpr less, Nat.ne_of_lt less, ExtendedMantissa.roundedMantissa,
        ExtendedMantissa.accuracy, Accuracy.roundToNearestEven]
  · rw [roundDiv_of_half half, quotientBits]
    simp [half, ExtendedMantissa.roundedMantissa, ExtendedMantissa.accuracy,
      Accuracy.roundToNearestEven]
  · have parted : num % den ≠ 0 := by omega
    rw [roundDiv_of_gt .toEven more, quotientBits]
    simp [more.le, Nat.ne_of_gt more, parted, ExtendedMantissa.roundedMantissa,
      ExtendedMantissa.accuracy, Accuracy.roundToNearestEven]

end Bits

/-! ## Rounding -/

/-- A quotient of which enough is known to round it: fifty-three bits of the whole part, unless the
unit is the least one already. -/
structure Resolved (num den : ℕ) (exponent : ℤ) : Prop where
  least : -1074 ≤ exponent
  enough : 2 ^ 52 * den ≤ num ∨ exponent = -1074

theorem targetExponent_eq (mantissa : ℕ) (exponent : ℤ) :
    Format.binary64.targetExponent (totalExponent mantissa exponent) =
      max (mantissa.log2 + exponent - 52) (-1074) := by
  show max (((mantissa.log2 : ℤ) + 1 + exponent) - 53) (-1074) = _
  congr 1
  omega

theorem log2_le_of_lt {mantissa : ℕ} (few : mantissa < 2 ^ 53) : mantissa.log2 ≤ 52 := by
  rcases Nat.eq_zero_or_pos mantissa with rfl | positive
  · decide
  · exact Nat.le_of_lt_succ ((Nat.log2_lt (Nat.ne_of_gt positive)).mpr few)

/-- The unit is doubled until fifty-three bits are left. -/
theorem shiftToTargetExponent_quotient {num den : ℕ} {exponent : ℤ} {accuracy : Accuracy}
    (positive : 0 < den) (resolved : Resolved num den exponent)
    (bits : ExtendedMantissa.ofMantissaAndAccuracy (num / den) accuracy = quotientBits num den) :
    ∃ count : ℕ,
      shiftToTargetExponent .binary64 (num / den) exponent accuracy =
        (quotientBits num (den * 2 ^ count), exponent + count) ∧
      num < 2 ^ 53 * (den * 2 ^ count) ∧
      Resolved num (den * 2 ^ count) (exponent + count) := by
  have least := resolved.least
  rw [shiftToTargetExponent, shiftToExponent, targetExponent_eq, bits]
  refine ⟨_, by rw [shiftRight_quotientBits num positive], ?_⟩
  rcases Nat.lt_or_ge (num / den) (2 ^ 53) with few | many
  · have short := log2_le_of_lt few
    have unshifted : (max ((num / den).log2 + exponent - 52) (-1074) - exponent).toNat = 0 := by omega
    rw [unshifted, Nat.pow_zero, Nat.mul_one, Int.natCast_zero, Int.add_zero]
    exact ⟨(Nat.div_lt_iff_lt_mul positive).mp few, resolved⟩
  · have proper : num / den ≠ 0 := by omega
    have long : 53 ≤ (num / den).log2 := (Nat.le_log2 proper).mpr many
    have count : (max ((num / den).log2 + exponent - 52) (-1074) - exponent).toNat =
        (num / den).log2 - 52 := by omega
    obtain ⟨extra, total⟩ := Nat.exists_eq_add_of_le (Nat.le_trans (by decide : 52 ≤ 53) long)
    rw [count, total, Nat.add_sub_cancel_left]
    have lower : 2 ^ (52 + extra) * den ≤ num :=
      (Nat.le_div_iff_mul_le positive).mp (total ▸ Nat.log2_self_le proper)
    have upper : num < 2 ^ (52 + extra + 1) * den :=
      (Nat.div_lt_iff_lt_mul positive).mp (total ▸ Nat.lt_log2_self)
    rw [Nat.pow_add] at lower
    rw [Nat.pow_succ, Nat.pow_add] at upper
    refine ⟨?_, ?_, .inl ?_⟩
    · linarith
    · omega
    · linarith

theorem two_zpow_le {less more : ℤ} (ordered : less ≤ more) : (2 : ℚ) ^ less ≤ 2 ^ more :=
  zpow_le_zpow_right₀ (by norm_num) ordered

theorem two_zpow_succ (exponent : ℤ) : (2 : ℚ) ^ (exponent + 1) = 2 * 2 ^ exponent := by
  rw [zpow_add_one₀ (by norm_num), mul_comm]

/-! ### The double that attracts a quotient of at most fifty-three bits -/

section Attracted

variable {num den : ℕ} {exponent : ℤ} {x : Dyadic} (positive : 0 < den)

include positive

/-- A quotient with fifty-three bits is too large for a double with a finer unit. -/
theorem exponent_le_of_attracts (resolved : Resolved num den exponent) (canonical : x.Canonical)
    (attracts : x.Attracts (num / den * 2 ^ exponent)) : exponent ≤ x.exponent := by
  by_contra coarser
  have least := canonical.least
  have under : (0 : ℚ) < den := Nat.cast_pos.mpr positive
  have unit : (0 : ℚ) < 2 ^ x.exponent := zpow_pos (by norm_num) _
  have enough : (2 : ℚ) ^ 52 ≤ num / den := by
    rw [le_div_iff₀ under]
    exact_mod_cast resolved.enough.resolve_right (by omega)
  have most : (x.significand : ℚ) + 1 ≤ 2 ^ 53 := by exact_mod_cast canonical.significand
  have large : (2 : ℚ) ^ 53 * 2 ^ x.exponent ≤ (x.significand + 1 / 2) * 2 ^ x.exponent :=
    calc (2 : ℚ) ^ 53 * 2 ^ x.exponent
        = 2 ^ 52 * 2 ^ (x.exponent + 1) := by rw [two_zpow_succ]; ring
      _ ≤ 2 ^ 52 * 2 ^ exponent := by
        exact mul_le_mul_of_nonneg_left (two_zpow_le (by omega)) (by norm_num)
      _ ≤ num / den * 2 ^ exponent :=
        mul_le_mul_of_nonneg_right enough (zpow_nonneg (by norm_num) _)
      _ ≤ (x.significand + 1 / 2) * 2 ^ x.exponent :=
        Dyadic.value_upperMidpoint (x := x) ▸ attracts.upper
  have := le_of_mul_le_mul_right large unit
  linarith

/-- With the unit of the double, the quotient is rounded to its significand. -/
theorem roundDiv_of_attracts (nonzero : 0 < x.significand)
    (attracts : x.Attracts (num / den * 2 ^ x.exponent)) :
    roundDiv .toEven num den = x.significand := by
  have under : (0 : ℚ) < den := Nat.cast_pos.mpr positive
  obtain ⟨⟨lower, upper⟩, strict⟩ := attracts.within_half nonzero
  rw [le_div_iff₀ under] at lower
  rw [div_le_iff₀ under] at upper
  simp only [lt_div_iff₀ under, div_lt_iff₀ under] at strict
  apply roundDiv_eq_of_near positive
  · exact_mod_cast (by linarith : 2 * ((x.significand : ℚ) * den) ≤ 2 * num + den)
  · exact_mod_cast (by linarith : 2 * (num : ℚ) ≤ 2 * (x.significand * den) + den)
  · intro odd
    obtain ⟨behind, ahead⟩ := strict odd
    constructor
    · exact_mod_cast (by linarith : 2 * ((x.significand : ℚ) * den) < 2 * num + den)
    · exact_mod_cast (by linarith : 2 * (num : ℚ) < 2 * (x.significand * den) + den)

/-- With a finer unit, the quotient is just below a power of two, and is rounded up to it. -/
theorem roundDiv_of_attracts_power (fits : num < 2 ^ 53 * den) (canonical : x.Canonical)
    (nonzero : 0 < x.significand) (least : -1074 ≤ exponent) (finer : exponent < x.exponent)
    (attracts : x.Attracts (num / den * 2 ^ exponent)) :
    roundDiv .toEven num den = 2 ^ 53 ∧ x.significand = 2 ^ 52 ∧ exponent + 1 = x.exponent := by
  have under : (0 : ℚ) < den := Nat.cast_pos.mpr positive
  have unit : (0 : ℚ) < 2 ^ exponent := zpow_pos (by norm_num) _
  have below : (num : ℚ) / den * 2 ^ exponent < 2 ^ 53 * 2 ^ exponent := by
    apply mul_lt_mul_of_pos_right _ unit
    rw [div_lt_iff₀ under]
    exact_mod_cast fits
  have double := two_zpow_le (show exponent + 1 ≤ x.exponent from finer)
  rw [two_zpow_succ] at double
  have normal : 2 ^ 52 ≤ x.significand := canonical.normal.resolve_right (by omega)
  have lower := attracts.lower
  rcases Dyadic.value_lowerMidpoint nonzero with ⟨midpoint, fewest⟩ | ⟨midpoint, power⟩
  · exfalso
    have more : (2 : ℚ) ^ 52 + 1 ≤ x.significand := by
      have other : x.significand ≠ 2 ^ 52 := fun power => by
        have := fewest power
        omega
      exact_mod_cast Nat.lt_of_le_of_ne normal (Ne.symm other)
    have far : (2 ^ 52 : ℚ) * 2 ^ x.exponent ≤ (x.significand - 1 / 2) * 2 ^ x.exponent :=
      mul_le_mul_of_nonneg_right (by linarith) (zpow_nonneg (by norm_num) _)
    rw [midpoint] at lower
    linarith
  · have significand : (x.significand : ℚ) = 2 ^ 52 := by exact_mod_cast power
    rw [midpoint, significand] at lower
    have next : exponent + 1 = x.exponent := by
      by_contra other
      have quadruple := two_zpow_le (show exponent + 1 + 1 ≤ x.exponent by omega)
      rw [two_zpow_succ, two_zpow_succ] at quadruple
      linarith
    refine ⟨?_, power, next⟩
    rw [← next, two_zpow_succ] at lower
    have near : (2 : ℚ) ^ 53 - 1 / 2 ≤ num / den := by
      apply le_of_mul_le_mul_right _ unit
      linarith
    rw [le_div_iff₀ under] at near
    apply roundDiv_eq_of_near positive
    · exact_mod_cast (by linarith : 2 * ((2 : ℚ) ^ 53 * den) ≤ 2 * num + den)
    · omega
    · intro odd
      omega

end Attracted

theorem shiftToTargetExponent_exact {mantissa : ℕ} {exponent : ℤ} (least : -1074 ≤ exponent)
    (few : mantissa < 2 ^ 53) :
    shiftToTargetExponent .binary64 mantissa exponent .exact =
      (quotientBits mantissa 1, exponent) := by
  have short := log2_le_of_lt few
  have unshifted : (max (mantissa.log2 + exponent - 52) (-1074) - exponent).toNat = 0 := by omega
  rw [shiftToTargetExponent, shiftToExponent, targetExponent_eq, unshifted, ofMantissaAndAccuracy_exact,
    shiftRight_quotientBits mantissa Nat.one_pos]
  simp

theorem shiftToTargetExponent_power {exponent : ℤ} (least : -1074 ≤ exponent) :
    shiftToTargetExponent .binary64 (2 ^ 53) exponent .exact =
      (quotientBits (2 ^ 53) 2, exponent + 1) := by
  have once : (max ((2 ^ 53 : ℕ).log2 + exponent - 52) (-1074) - exponent).toNat = 1 := by
    rw [Nat.log2_two_pow]
    omega
  rw [shiftToTargetExponent, shiftToExponent, targetExponent_eq, once, ofMantissaAndAccuracy_exact,
    shiftRight_quotientBits _ Nat.one_pos]
  rfl

/-- **A quotient is rounded to the double that attracts it.** -/
theorem roundWithAccuracy_eq {num den : ℕ} {exponent : ℤ} {accuracy : Accuracy}
    (positive : 0 < den) (resolved : Resolved num den exponent)
    (bits : ExtendedMantissa.ofMantissaAndAccuracy (num / den) accuracy = quotientBits num den)
    {x : Dyadic} (canonical : x.Canonical) (nonzero : 0 < x.significand)
    (attracts : x.Attracts (num / den * 2 ^ exponent)) (sign : Sign) :
    roundWithAccuracy .binary64 sign (num / den) exponent accuracy =
      .finite sign x.significand x.exponent nonzero := by
  obtain ⟨count, shifted, fits, resolved⟩ :=
    shiftToTargetExponent_quotient positive resolved bits
  have divisor : 0 < den * 2 ^ count := Nat.mul_pos positive (Nat.two_pow_pos count)
  -- Doubling the unit and the divisor keeps the quotient.
  have same : (num : ℚ) / den * 2 ^ exponent =
      num / (den * 2 ^ count : ℕ) * 2 ^ (exponent + count) := by
    rw [zpow_add₀ (by norm_num), zpow_natCast]
    push_cast
    field_simp
  rw [same] at attracts
  have finer := exponent_le_of_attracts divisor resolved canonical attracts
  rw [roundWithAccuracy, shifted]
  dsimp only
  rw [roundedMantissa_quotientBits num divisor]
  rcases lt_or_eq_of_le finer with finer | equal
  · obtain ⟨rounded, power, next⟩ := roundDiv_of_attracts_power divisor fits canonical nonzero
      resolved.least finer attracts
    obtain ⟨significand, unit⟩ := x
    obtain rfl : significand = 2 ^ 52 := power
    obtain rfl : exponent + count + 1 = unit := next
    rw [rounded, shiftToTargetExponent_power resolved.least]
    rfl
  · rw [equal] at attracts
    rw [roundDiv_of_attracts divisor nonzero attracts, equal,
      shiftToTargetExponent_exact canonical.least canonical.significand]
    have whole : (quotientBits x.significand 1).mantissa = x.significand := Nat.div_one _
    rw [dif_neg (by rw [whole]; exact Nat.ne_of_gt nonzero), UnpackedFloat.finite.injEq]
    exact ⟨rfl, whole, rfl⟩

end Reckoner
