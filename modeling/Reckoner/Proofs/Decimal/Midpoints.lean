import Mathlib.Algebra.Order.Field.Rat
import Mathlib.Tactic.FieldSimp
import Mathlib.Tactic.Linarith
import Mathlib.Tactic.NormNum
import Mathlib.Tactic.Positivity
import Mathlib.Tactic.Ring
import Reckoner.Proofs.Decimal.Length

/-!
# Decimals that read back

Decimals and dyadic numbers stand for rationals (`Decimal.value`, `Dyadic.value`), and are compared
by these. The rationals between the midpoints to the neighbours of a double are those that it
attracts (`Dyadic.Attracts`); the shortest decimal of a double is one of them
(`Dyadic.attracts_shortestDecimal`).
-/

namespace Reckoner

/-! ## Values -/

/-- The rational that a dyadic number stands for. -/
def Dyadic.value (x : Dyadic) : ℚ := x.significand * (2 : ℚ) ^ x.exponent

/-- The rational that a decimal stands for. -/
def Decimal.value (d : Decimal) : ℚ := d.digits * (10 : ℚ) ^ d.exponent

/-- A power with a whole exponent is a quotient of two powers, one of which is one. -/
theorem zpow_eq_div {base : ℚ} (nonzero : base ≠ 0) (exponent : ℤ) :
    base ^ exponent = base ^ exponent.toNat / base ^ (-exponent).toNat := by
  rw [← zpow_natCast, ← zpow_natCast, ← zpow_sub₀ nonzero]
  congr 1
  omega

theorem Dyadic.value_eq_div (x : Dyadic) : x.value = (x.numerator : ℚ) / x.denominator := by
  rw [value, zpow_eq_div (by norm_num), numerator, denominator]
  push_cast [Nat.pow_eq]
  ring

theorem Decimal.value_eq_div (d : Decimal) :
    d.value = ((d.digits * 10 ^ d.exponent.toNat : ℕ) : ℚ) / (10 ^ (-d.exponent).toNat : ℕ) := by
  rw [value, zpow_eq_div (by norm_num)]
  push_cast
  ring

namespace Decimal

variable (d : Decimal) (x : Dyadic)

theorem compareDyadic_eq_lt : d.compareDyadic x = .lt ↔ d.value < x.value := by
  have under : (0 : ℚ) < x.denominator := Nat.cast_pos.mpr x.denominator_pos
  rw [compareDyadic, Nat.compare_eq_lt, value_eq_div, Dyadic.value_eq_div,
    div_lt_div_iff₀ (by positivity) under]
  exact_mod_cast Iff.rfl

theorem compareDyadic_eq_gt : d.compareDyadic x = .gt ↔ x.value < d.value := by
  have under : (0 : ℚ) < x.denominator := Nat.cast_pos.mpr x.denominator_pos
  rw [compareDyadic, Nat.compare_eq_gt, value_eq_div, Dyadic.value_eq_div,
    div_lt_div_iff₀ under (by positivity)]
  exact_mod_cast Iff.rfl

theorem compareDyadic_eq_eq : d.compareDyadic x = .eq ↔ d.value = x.value := by
  have under : (x.denominator : ℚ) ≠ 0 := Nat.cast_ne_zero.mpr (Nat.ne_of_gt x.denominator_pos)
  rw [compareDyadic, Nat.compare_eq_eq, value_eq_div, Dyadic.value_eq_div,
    div_eq_div_iff (by positivity) under]
  exact_mod_cast Iff.rfl

/-- A zero at the end of the digits only moves the point. -/
theorem value_dropZeros (fuel : ℕ) : (d.dropZeros fuel).value = d.value := by
  induction fuel generalizing d with
  | zero => rfl
  | succ fuel ih =>
      rw [dropZeros]
      split
      · rename_i zero
        rw [Bool.and_eq_true, decide_eq_true_eq, decide_eq_true_eq] at zero
        have digits : (d.digits : ℚ) = 10 * (d.digits / 10 : ℕ) := by
          exact_mod_cast (Nat.mul_div_cancel' (Nat.dvd_of_mod_eq_zero zero.2)).symm
        rw [ih, value, value, digits, zpow_add₀ (by norm_num)]
        ring
      · rfl

end Decimal

/-! ## Midpoints -/

namespace Dyadic

/-- The form of the doubles: all fifty-three bits are used unless the exponent is least. -/
structure Canonical (x : Dyadic) : Prop extends x.Bounded where
  normal : 2 ^ 52 ≤ x.significand ∨ x.exponent = -1074

theorem canonical_of_ofFloat {x : Float} {value : Dyadic}
    (finite : Magnitude.ofFloat x = .finite value) : value.Canonical where
  toBounded := bounded_of_ofFloat finite
  normal := by
    rw [Magnitude.ofFloat] at finite
    split at finite
    · split at finite <;> cases finite
    · split at finite
      · cases finite
        exact .inr rfl
      · cases finite
        exact .inl (Nat.le_add_left _ _)

/-- A rational that is rounded to a double: one between the midpoints to its neighbours, where the
midpoints themselves go to the double with the even significand. -/
structure Attracts (x : Dyadic) (value : ℚ) : Prop where
  lower : x.lowerMidpoint.value ≤ value
  upper : value ≤ x.upperMidpoint.value
  strict : x.significand % 2 = 1 → x.lowerMidpoint.value < value ∧ value < x.upperMidpoint.value

variable {x : Dyadic}

theorem attracts_of_readsBack {d : Decimal} (back : x.readsBack d = true) :
    x.Attracts d.value := by
  rw [readsBack] at back
  split at back
  · rename_i above below
    rw [Decimal.compareDyadic_eq_gt] at above
    rw [Decimal.compareDyadic_eq_lt] at below
    exact ⟨above.le, below.le, fun _ => ⟨above, below⟩⟩
  · rename_i tied below
    rw [Decimal.compareDyadic_eq_eq] at tied
    rw [Decimal.compareDyadic_eq_lt] at below
    rw [decide_eq_true_eq] at back
    exact ⟨tied.ge, below.le, fun odd => by omega⟩
  · rename_i above tied
    rw [Decimal.compareDyadic_eq_gt] at above
    rw [Decimal.compareDyadic_eq_eq] at tied
    rw [decide_eq_true_eq] at back
    exact ⟨above.le, tied.le, fun odd => by omega⟩
  · cases back

theorem value_upperMidpoint :
    x.upperMidpoint.value = (x.significand + 1 / 2) * (2 : ℚ) ^ x.exponent := by
  rw [upperMidpoint, value, zpow_sub₀ (by norm_num)]
  push_cast
  ring

/-- The midpoint below is nearer at a power of two, unless the exponent is least. -/
theorem value_lowerMidpoint (nonzero : 0 < x.significand) :
    x.lowerMidpoint.value = (x.significand - 1 / 2) * (2 : ℚ) ^ x.exponent ∧
        (x.significand = 2 ^ 52 → x.exponent = -1074) ∨
      x.lowerMidpoint.value = (x.significand - 1 / 4) * (2 : ℚ) ^ x.exponent ∧
        x.significand = 2 ^ 52 := by
  have shift : (2 : ℚ) ^ (x.exponent - 2) = 2 ^ x.exponent / 4 := by
    rw [zpow_sub₀ (by norm_num)]
    norm_num
  by_cases power : x.significand = hiddenBit ∧ x.exponent ≠ leastExponent
  · refine .inr ⟨?_, power.1⟩
    rw [lowerMidpoint, if_pos (by simpa using power), value, shift, Nat.cast_sub (by omega)]
    push_cast
    ring
  · refine .inl ⟨?_, fun hidden => by_contra fun other => power ⟨hidden, other⟩⟩
    rw [lowerMidpoint, if_neg (by simpa using power), value, shift, Nat.cast_sub (by omega)]
    push_cast
    ring

/-- In the unit of a double, what it attracts is at most a half away from its significand, and less
than a half if that is odd. -/
theorem Attracts.within_half (nonzero : 0 < x.significand) {quotient : ℚ}
    (attracts : x.Attracts (quotient * 2 ^ x.exponent)) :
    (x.significand - 1 / 2 ≤ quotient ∧ quotient ≤ x.significand + 1 / 2) ∧
      (x.significand % 2 = 1 →
        x.significand - 1 / 2 < quotient ∧ quotient < x.significand + 1 / 2) := by
  have unit : (0 : ℚ) < 2 ^ x.exponent := zpow_pos (by norm_num) _
  have half {side : ℚ} (quarter : (x.significand - 1 / 4) * (2 : ℚ) ^ x.exponent ≤ side) :
      (x.significand - 1 / 2) * (2 : ℚ) ^ x.exponent < side := by
    linarith
  have lower : (x.significand - 1 / 2 : ℚ) * 2 ^ x.exponent ≤ quotient * 2 ^ x.exponent ∧
      (x.significand % 2 = 1 →
        (x.significand - 1 / 2 : ℚ) * 2 ^ x.exponent < quotient * 2 ^ x.exponent) := by
    have lower := attracts.lower
    rcases value_lowerMidpoint nonzero with ⟨midpoint, -⟩ | ⟨midpoint, -⟩
    · rw [midpoint] at lower
      exact ⟨lower, fun odd => midpoint ▸ (attracts.strict odd).1⟩
    · rw [midpoint] at lower
      exact ⟨(half lower).le, fun _ => half lower⟩
  have upper := attracts.upper
  have strict := fun odd => (attracts.strict odd).2
  rw [value_upperMidpoint] at upper strict
  refine ⟨⟨?_, ?_⟩, fun odd => ⟨?_, ?_⟩⟩
  · exact le_of_mul_le_mul_right lower.1 unit
  · exact le_of_mul_le_mul_right upper unit
  · exact lt_of_mul_lt_mul_right (lower.2 odd) unit.le
  · exact lt_of_mul_lt_mul_right (strict odd) unit.le

/-- What is near enough to a double is attracted by it. -/
theorem attracts_of_near (bounded : x.Bounded) (nonzero : 0 < x.significand) {value : ℚ}
    (near : 2 * 10 ^ 16 * |value - x.value| ≤ x.value) : x.Attracts value := by
  have unit : (0 : ℚ) < 2 ^ x.exponent := zpow_pos (by norm_num) _
  have most : (x.significand : ℚ) < 2 ^ 53 := by exact_mod_cast bounded.significand
  have size : x.significand * (2 : ℚ) ^ x.exponent < 2 ^ 53 * 2 ^ x.exponent :=
    mul_lt_mul_of_pos_right most unit
  rw [Dyadic.value] at near
  obtain ⟨behind, ahead⟩ := abs_le.mp (le_refl |value - x.significand * 2 ^ x.exponent|)
  have above : x.lowerMidpoint.value < value := by
    rcases value_lowerMidpoint nonzero with ⟨midpoint, -⟩ | ⟨midpoint, power⟩
    · rw [midpoint]
      linarith
    -- Below a power of two the midpoint is nearer, but the power has few digits.
    · have least : (x.significand : ℚ) = 2 ^ 52 := by exact_mod_cast power
      rw [least] at near behind
      rw [midpoint, least]
      linarith
  have below : value < x.upperMidpoint.value := by
    rw [value_upperMidpoint]
    linarith
  exact ⟨above.le, below.le, fun _ => ⟨above, below⟩⟩

/-! ## The shortest decimal -/

theorem value_eq_inUnits (x : Dyadic) (exponent : ℤ) :
    x.value = ((x.inUnits exponent).1 : ℚ) / (x.inUnits exponent).2 * 10 ^ exponent := by
  have under : (x.denominator : ℚ) ≠ 0 := Nat.cast_ne_zero.mpr (Nat.ne_of_gt x.denominator_pos)
  rw [inUnits, value_eq_div, zpow_eq_div (by norm_num : (10 : ℚ) ≠ 0)]
  push_cast [Nat.pow_eq]
  field_simp

/-- Rounding to a unit is wrong by half a unit at most. -/
theorem near_roundDiv (tie : Tie) (x : Dyadic) (exponent : ℤ) :
    2 * |Decimal.value ⟨roundDiv tie (x.inUnits exponent).1 (x.inUnits exponent).2, exponent⟩ -
      x.value| ≤ 10 ^ exponent := by
  have positive : 0 < (x.inUnits exponent).2 :=
    Nat.mul_pos x.denominator_pos (Nat.pow_pos (by decide))
  obtain ⟨least, most⟩ := roundDiv_near tie (x.inUnits exponent).1 (x.inUnits exponent).2 positive
  rw [Decimal.value, value_eq_inUnits x exponent]
  generalize roundDiv tie (x.inUnits exponent).1 (x.inUnits exponent).2 = rounded at least most ⊢
  generalize (x.inUnits exponent).1 = num at least most ⊢
  generalize (x.inUnits exponent).2 = den at least most positive ⊢
  have under : (0 : ℚ) < den := Nat.cast_pos.mpr positive
  have unit : (0 : ℚ) < 10 ^ exponent := zpow_pos (by norm_num) _
  have half : 2 * |(rounded : ℚ) - num / den| ≤ 1 := by
    have exact : (rounded : ℚ) - num / den = (rounded * den - num) / den := by field_simp
    have sides : |(rounded : ℚ) * den - num| ≤ den / 2 := by
      have least : 2 * ((rounded : ℚ) * den) ≤ 2 * num + den := by exact_mod_cast least
      have most : 2 * (num : ℚ) ≤ 2 * (rounded * den) + den := by exact_mod_cast most
      exact abs_le.mpr ⟨by linarith, by linarith⟩
    rw [exact, abs_div, abs_of_pos under, ← mul_div_assoc, div_le_one under]
    linarith
  calc 2 * |rounded * (10 : ℚ) ^ exponent - num / den * 10 ^ exponent|
      = 2 * |(rounded : ℚ) - num / den| * 10 ^ exponent := by
        rw [← sub_mul, abs_mul, abs_of_pos unit, mul_assoc]
    _ ≤ 1 * 10 ^ exponent := mul_le_mul_of_nonneg_right half unit.le
    _ = 10 ^ exponent := one_mul _

/-- A number is not below the first place that it has. -/
theorem place_le (nonzero : 0 < x.significand) : (10 : ℚ) ^ (x.places - 1) ≤ x.value := by
  have whole := unit_le nonzero Nat.one_pos
  have under : 0 < (x.inUnits (x.places - 1)).2 :=
    Nat.mul_pos x.denominator_pos (Nat.pow_pos (by decide))
  rw [value_eq_inUnits x (x.places - 1)]
  refine le_mul_of_one_le_left (zpow_nonneg (by norm_num) _) ?_
  rw [one_le_div (by exact_mod_cast under)]
  exact_mod_cast whole

/-- **The shortest decimal of a double is attracted by the double.** -/
theorem attracts_shortest (bounded : x.Bounded) (nonzero : 0 < x.significand) (tie : Tie) :
    x.Attracts (x.shortest tie).value := by
  rw [shortest, if_neg (Nat.ne_of_gt nonzero)]
  split
  · rename_i found search
    obtain ⟨fewer, -, within⟩ := List.exists_of_findSome?_eq_some search
    exact attracts_of_readsBack (readsBack_of_withDigits within)
  -- Seventeen digits are near enough, whether or not the search has tried them.
  · apply attracts_of_near bounded nonzero
    have first := place_le nonzero
    have near := near_roundDiv tie x (x.places - mostDigits)
    have digits : (10 : ℚ) ^ (x.places - 1) = 10 ^ (x.places - mostDigits) * 10 ^ 16 := by
      rw [← zpow_natCast (10 : ℚ) 16, ← zpow_add₀ (by norm_num)]
      congr 1
      have seventeen : mostDigits = 17 := rfl
      omega
    dsimp only
    linarith

theorem attracts_shortestDecimal (bounded : x.Bounded) (nonzero : 0 < x.significand) (tie : Tie) :
    x.Attracts (shortestDecimal tie x).value := by
  rw [shortestDecimal, Decimal.value_dropZeros]
  exact attracts_shortest bounded nonzero tie

end Dyadic

end Reckoner
