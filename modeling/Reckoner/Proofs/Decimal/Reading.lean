import Reckoner.Proofs.Decimal.Quotients
import Reckoner.Proofs.Decimal.Words

/-!
# Decimals as doubles

Digits with a point are read as the double that attracts their value (`ofScientific_eq`), whether
they are few enough to divide one double by another or not.
-/

namespace Reckoner

open Float.Model Float.Model.UnpackedFloat

theorem Dyadic.attracts_value {x : Dyadic} (bounded : x.Bounded) (nonzero : 0 < x.significand) :
    x.Attracts x.value := by
  apply attracts_of_near bounded nonzero
  rw [sub_self, abs_zero, mul_zero]
  exact mul_nonneg (Nat.cast_nonneg _) (zpow_nonneg (by norm_num) _)

/-- Division starts with enough bits of the whole part. -/
theorem divCore_eq {top : ℕ} (bottom : ℕ) {above below : ℤ} (first : 0 < top)
    (least : -1074 ≤ above - below) :
    ∃ count : ℕ,
      divCore .binary64 top above bottom below =
        (top * 2 ^ count / bottom, above - below - count,
          accuracyOfFraction (top * 2 ^ count % bottom) bottom) ∧
      Resolved (top * 2 ^ count) bottom (above - below - count) := by
  have target : Format.binary64.targetExponent
      (totalExponent top above - totalExponent bottom below) =
        max (top.log2 - bottom.log2 + (above - below) - 53) (-1074) := by
    show max (((top.log2 : ℤ) + 1 + above) - (bottom.log2 + 1 + below) - 53) (-1074) = _
    congr 1
    omega
  rw [divCore, target]
  generalize shifted : min (above - below)
    (max ((top.log2 : ℤ) - bottom.log2 + (above - below) - 53) (-1074)) = unit
  obtain ⟨count, rfl⟩ : ∃ count : ℕ, unit = above - below - count :=
    ⟨(above - below - unit).toNat, by omega⟩
  have back : (above - below - (above - below - count)).toNat = count := by omega
  rw [back, Nat.shiftLeft_eq]
  refine ⟨count, rfl, ⟨by omega, ?_⟩⟩
  by_cases greater : above - below - count = -1074
  · exact .inr greater
  · left
    have enough : 52 + (bottom.log2 + 1) ≤ top.log2 + count := by omega
    calc 2 ^ 52 * bottom
        ≤ 2 ^ 52 * 2 ^ (bottom.log2 + 1) := Nat.mul_le_mul_left _ Nat.lt_log2_self.le
      _ = 2 ^ (52 + (bottom.log2 + 1)) := (Nat.pow_add 2 52 _).symm
      _ ≤ 2 ^ (top.log2 + count) := Nat.pow_le_pow_right (by decide) enough
      _ = 2 ^ top.log2 * 2 ^ count := Nat.pow_add 2 _ _
      _ ≤ top * 2 ^ count := Nat.mul_le_mul_right _ (Nat.log2_self_le (Nat.ne_of_gt first))

section Attracted

variable {x : Dyadic} (canonical : x.Canonical) (nonzero : 0 < x.significand)

include canonical

/-- A whole number of units is rounded to the double that attracts it. -/
theorem roundWithAccuracy_exact_eq {mantissa : ℕ} {exponent : ℤ}
    (resolved : Resolved mantissa 1 exponent)
    (attracts : x.Attracts (mantissa * 2 ^ exponent)) (sign : Sign) :
    roundWithAccuracy .binary64 sign mantissa exponent .exact =
      .finite sign x.significand x.exponent nonzero := by
  have bits : ExtendedMantissa.ofMantissaAndAccuracy (mantissa / 1) .exact =
      quotientBits mantissa 1 := by
    rw [Nat.div_one]
    exact ofMantissaAndAccuracy_exact mantissa
  have rounded := roundWithAccuracy_eq Nat.one_pos resolved bits canonical nonzero
    (by rwa [Nat.cast_one, div_one]) sign
  rwa [Nat.div_one] at rounded

/-- **A quotient of doubles is the double that attracts it.** -/
theorem div_eq {top bottom : ℕ} {above below : ℤ} (first : 0 < top) (second : 0 < bottom)
    (least : -1074 ≤ above - below)
    (attracts : x.Attracts (top * 2 ^ above / (bottom * 2 ^ below))) (sign other : Sign) :
    UnpackedFloat.div .binary64 (.finite sign top above first) (.finite other bottom below second) =
      .finite (sign / other) x.significand x.exponent nonzero := by
  obtain ⟨count, core, resolved⟩ := divCore_eq bottom first least
  have same : ((top * 2 ^ count : ℕ) : ℚ) / bottom * 2 ^ (above - below - count) =
      top * 2 ^ above / (bottom * 2 ^ below) := by
    rw [zpow_sub₀ (by norm_num), zpow_sub₀ (by norm_num), zpow_natCast]
    push_cast
    field_simp
  rw [← same] at attracts
  delta UnpackedFloat.div
  dsimp only
  rw [core]
  exact roundWithAccuracy_eq second resolved (ofMantissaAndAccuracy_fraction _ second) canonical
    nonzero attracts _

end Attracted

/-! ## Whole numbers -/

/-- A whole number of at most fifty-three bits, written with all of them. -/
def Dyadic.ofNat (n : ℕ) : Dyadic := ⟨n * 2 ^ (52 - n.log2), -((52 - n.log2 : ℕ) : ℤ)⟩

section Whole

variable {n : ℕ} (positive : 0 < n)

include positive

theorem Dyadic.ofNat_pos : 0 < (ofNat n).significand := Nat.mul_pos positive (Nat.two_pow_pos _)

theorem Dyadic.value_ofNat : (ofNat n).value = n := by
  rw [ofNat, value]
  push_cast
  rw [zpow_neg, zpow_natCast]
  field_simp

variable (few : n < 2 ^ 53)

include few

theorem Dyadic.canonical_ofNat : (ofNat n).Canonical := by
  have short := log2_le_of_lt few
  have lower := Nat.log2_self_le (Nat.ne_of_gt positive)
  have upper := @Nat.lt_log2_self n
  refine ⟨⟨?_, ?_, ?_⟩, .inl ?_⟩
  · show n * 2 ^ (52 - n.log2) < 2 ^ 53
    calc n * 2 ^ (52 - n.log2)
        < 2 ^ (n.log2 + 1) * 2 ^ (52 - n.log2) :=
          Nat.mul_lt_mul_of_pos_right upper (Nat.two_pow_pos _)
      _ = 2 ^ 53 := by
          rw [← Nat.pow_add]
          congr 1
          omega
  · show -1074 ≤ -((52 - n.log2 : ℕ) : ℤ)
    omega
  · show -((52 - n.log2 : ℕ) : ℤ) ≤ 971
    omega
  · show 2 ^ 52 ≤ n * 2 ^ (52 - n.log2)
    calc 2 ^ 52 = 2 ^ n.log2 * 2 ^ (52 - n.log2) := by
          rw [← Nat.pow_add]
          congr 1
          omega
      _ ≤ n * 2 ^ (52 - n.log2) := Nat.mul_le_mul_right _ lower

/-- A whole number of at most fifty-three bits is a double. -/
theorem toFloat_toUInt64 :
    n.toUInt64.toFloat = (Dyadic.ofNat n).toFloat .positive (Dyadic.ofNat_pos positive) := by
  have canonical := Dyadic.canonical_ofNat positive few
  have same : n.toUInt64.toNat = n := by
    show n % 2 ^ 64 = n
    omega
  have count : (0 - max (n.log2 + 0 - 52 : ℤ) (-1074)).toNat = 52 - n.log2 := by
    have short := log2_le_of_lt few
    omega
  have rounded : UnpackedFloat.round .binary64 .positive n 0 =
      .finite .positive (Dyadic.ofNat n).significand (Dyadic.ofNat n).exponent
        (Dyadic.ofNat_pos positive) := by
    rw [UnpackedFloat.round, targetExponent_eq, decreaseExponent, count, Nat.shiftLeft_eq,
      Int.zero_sub]
    refine roundWithAccuracy_exact_eq canonical _ ⟨canonical.least, ?_⟩ ?_ _
    · rw [Nat.mul_one]
      exact canonical.normal
    · exact Dyadic.attracts_value canonical.toBounded (Dyadic.ofNat_pos positive)
  have sign : compare (n : ℤ) 0 = .gt := Int.compare_eq_gt.mpr (by omega)
  show Float.ofModel (Float.Model.pack
    (UnpackedFloat.normalize .binary64 (n.toUInt64.toNat : ℤ) 0 .positive)) = _
  rw [same, UnpackedFloat.normalize, sign]
  dsimp only
  rw [Int.toNat_natCast, rounded]
  rfl

end Whole

/-! ## Powers of ten -/

/-- The leading fifty-three bits of a power of ten. -/
def Dyadic.powerOfTen (places : ℕ) : Dyadic :=
  ⟨10 ^ places * 2 ^ 52 / 2 ^ (10 ^ places).log2, (10 ^ places).log2 - 52⟩

/-- Up to the twenty-second, the powers of ten are tabulated, and exact. -/
theorem exactlyRepresentablePowersOfTen_eq (places : Fin 23) :
    Magnitude.ofFloat Float.exactlyRepresentablePowersOfTen[places.val] =
        .finite (Dyadic.powerOfTen places) ∧
      Magnitude.isNegative Float.exactlyRepresentablePowersOfTen[places.val] = false ∧
      0 < (Dyadic.powerOfTen places).significand ∧ (Dyadic.powerOfTen places).exponent ≤ 21 ∧
      (Dyadic.powerOfTen places).numerator =
        10 ^ places.val * (Dyadic.powerOfTen places).denominator := by
  decide +revert +kernel

theorem Dyadic.value_powerOfTen (places : Fin 23) :
    (Dyadic.powerOfTen places).value = 10 ^ places.val := by
  obtain ⟨-, -, -, -, exact⟩ := exactlyRepresentablePowersOfTen_eq places
  have under : ((powerOfTen places).denominator : ℚ) ≠ 0 :=
    Nat.cast_ne_zero.mpr (Nat.ne_of_gt (denominator_pos _))
  rw [value_eq_div, exact, Nat.cast_mul, Nat.cast_pow, mul_div_cancel_right₀ _ under]
  norm_num

/-! ## Digits with a point -/

section Digits

variable {digits places : ℕ} (counted : 0 < digits) {x : Dyadic} (canonical : x.Canonical)
  (nonzero : 0 < x.significand) (attracts : x.Attracts (digits / 10 ^ places))

include counted canonical attracts

/-- Few digits with few places are one double divided by another. -/
theorem toFloat_div_eq (few : digits < 2 ^ 53)
    (inside : places < Float.exactlyRepresentablePowersOfTen.size) :
    digits.toUInt64.toFloat / Float.exactlyRepresentablePowersOfTen[places] =
      x.toFloat .positive nonzero := by
  obtain ⟨finite, sign, proper, small, -⟩ := exactlyRepresentablePowersOfTen_eq ⟨places, inside⟩
  have power := Dyadic.value_powerOfTen ⟨places, inside⟩
  dsimp only at finite sign proper small power
  have first := Dyadic.value_ofNat counted
  rw [Dyadic.value] at first power
  rw [toFloat_toUInt64 counted few]
  show Float.ofModel (Float.Model.pack (UnpackedFloat.div .binary64 _ _)) = _
  rw [unpack_toFloat (Dyadic.canonical_ofNat counted few), Magnitude.unpack_of_ofFloat finite proper,
    Magnitude.sign, sign, div_eq canonical nonzero]
  · rfl
  · have short := log2_le_of_lt few
    show -1074 ≤ -((52 - digits.log2 : ℕ) : ℤ) - _
    omega
  · rwa [first, power]

/-- All other digits are rounded once, from what they stand for. -/
theorem ofScientific_unpacked_eq (bounded : places ≤ 2048) :
    UnpackedFloat.ofScientific .binary64 digits (Int.negOfNat places) =
      .finite .positive x.significand x.exponent nonzero := by
  have range : (2 ^ Format.binary64.exponentBits : ℤ) = 2048 := rfl
  rw [UnpackedFloat.ofScientific, dif_neg (Nat.ne_of_gt counted), range, Int.negOfNat_eq,
    Int.ofNat_eq_natCast, if_neg (by omega), if_neg (by omega)]
  rcases Nat.eq_zero_or_pos places with rfl | places_pos
  · rw [if_pos (by omega)]
    have shifted : digits <<< Format.binary64.mantissaBits * 10 ^ (-((0 : ℕ) : ℤ)).toNat =
        digits * 2 ^ 53 := by
      rw [Nat.shiftLeft_eq]
      exact Nat.mul_one _
    have scaled : ((digits * 2 ^ 53 : ℕ) : ℚ) * 2 ^ (-53 : ℤ) = digits := by
      rw [zpow_neg]
      push_cast
      exact mul_inv_cancel_right₀ (by norm_num) _
    rw [pow_zero, div_one, ← scaled] at attracts
    delta UnpackedFloat.mul
    dsimp only
    rw [shifted]
    exact roundWithAccuracy_exact_eq canonical nonzero ⟨by decide, .inl (by omega)⟩ attracts _
  · have back : (-(-(places : ℤ))).toNat = places := by omega
    rw [if_neg (by omega), div_eq canonical nonzero]
    · rfl
    · decide
    · rw [back]
      simpa using attracts

/-- **Digits with places are read as the double that attracts their value.** -/
theorem ofScientific_eq (bounded : places ≤ 2048) :
    Float.ofScientific digits true places = x.toFloat .positive nonzero := by
  rw [Float.ofScientific]
  split
  · rename_i fast
    rw [if_pos rfl]
    exact toFloat_div_eq counted canonical nonzero attracts fast.1 (Nat.lt_succ_of_le fast.2)
  · show Float.ofModel (Float.Model.pack
      (UnpackedFloat.ofScientific .binary64 digits (Int.negOfNat places))) = _
    rw [ofScientific_unpacked_eq counted canonical nonzero attracts bounded]
    rfl

end Digits

end Reckoner
