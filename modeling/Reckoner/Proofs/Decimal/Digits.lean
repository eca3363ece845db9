import Reckoner.Decimal.Notation
import Reckoner.Proofs.Text.Digits

/-!
# The digits of a double

The shortest decimal of a double that is not zero is not zero either (`Dyadic.shortest_pos`), since
zero reads back as another double (`Dyadic.readsBack_zero`) and seventeen digits start at the first
place of the number (`Dyadic.unit_le`).
-/

namespace Reckoner

namespace Dyadic

theorem lowerMidpoint_pos {x : Dyadic} (nonzero : 0 < x.significand) :
    0 < x.lowerMidpoint.numerator := by
  have below : 0 < x.lowerMidpoint.significand := by
    rw [lowerMidpoint]
    split
    · show 0 < 4 * x.significand - 1
      omega
    · show 0 < 4 * x.significand - 2
      omega
  exact Nat.mul_pos below (Nat.two_pow_pos _)

/-- Zero does not read back as any other number. -/
theorem readsBack_zero {x : Dyadic} (nonzero : 0 < x.significand) (exponent : Int) :
    x.readsBack ⟨0, exponent⟩ = false := by
  have below : Decimal.compareDyadic ⟨0, exponent⟩ x.lowerMidpoint = .lt := by
    rw [Decimal.compareDyadic, Nat.zero_mul, Nat.zero_mul, Nat.compare_eq_lt]
    exact Nat.mul_pos (lowerMidpoint_pos nonzero) (Nat.pow_pos (by decide))
  rw [readsBack, below]

theorem digits_pos_of_withDigits {tie : Tie} {x : Dyadic} {count : Nat} {d : Decimal}
    (nonzero : 0 < x.significand) (found : x.withDigits tie count = some d) : 0 < d.digits := by
  obtain ⟨digits, exponent⟩ := d
  rcases Nat.eq_zero_or_pos digits with rfl | positive
  · have back := readsBack_of_withDigits found
    rw [readsBack_zero nonzero] at back
    cases back
  · exact positive

/-- A number is at least a unit of its first place, and so of every later one. -/
theorem unit_le {x : Dyadic} (nonzero : 0 < x.significand) {count : Nat} (counted : 0 < count) :
    (x.inUnits (x.places - count)).2 ≤ (x.inUnits (x.places - count)).1 := by
  have positive : 0 < x.numerator := Nat.mul_pos nonzero (Nat.two_pow_pos _)
  -- From one on, the places are the digits of the whole part; below one, those of the inverse count
  -- the zeros behind the point.
  by_cases large : x.denominator ≤ x.numerator
  · have places : x.places = (Text.ofNat (x.numerator / x.denominator)).length := if_pos large
    have whole := Text.pow_length_le (Nat.div_pos large x.denominator_pos)
    generalize (Text.ofNat (x.numerator / x.denominator)).length = length at places whole
    rw [places]
    calc x.denominator * 10 ^ ((length : Int) - count).toNat
        ≤ x.denominator * 10 ^ (length - 1) :=
          Nat.mul_le_mul_left _ (Nat.pow_le_pow_right (by decide) (by omega))
      _ ≤ x.denominator * (x.numerator / x.denominator) := Nat.mul_le_mul_left _ whole
      _ ≤ x.numerator := Nat.mul_div_le _ _
      _ ≤ x.numerator * 10 ^ (-((length : Int) - count)).toNat :=
          Nat.le_mul_of_pos_right _ (Nat.pow_pos (by decide))
  · have places : x.places =
        1 - ((Text.ofNat ((x.denominator - 1) / x.numerator)).length : Int) := if_neg large
    have inverse := Text.lt_pow_length ((x.denominator - 1) / x.numerator)
    have digits := Text.length_ofNat_pos ((x.denominator - 1) / x.numerator)
    generalize (Text.ofNat ((x.denominator - 1) / x.numerator)).length = length
      at places inverse digits
    rw [Nat.div_lt_iff_lt_mul positive] at inverse
    have whole : (1 - (length : Int) - count).toNat = 0 := by omega
    rw [places]
    calc x.denominator * 10 ^ (1 - (length : Int) - count).toNat
        = x.denominator := by rw [whole, Nat.pow_zero, Nat.mul_one]
      _ ≤ 10 ^ length * x.numerator := by omega
      _ ≤ 10 ^ (-(1 - (length : Int) - count)).toNat * x.numerator :=
          Nat.mul_le_mul_right _ (Nat.pow_le_pow_right (by decide) (by omega))
      _ = x.numerator * 10 ^ (-(1 - (length : Int) - count)).toNat := Nat.mul_comm _ _

/-- **The shortest decimal of a number other than zero is not zero.** -/
theorem shortest_pos {x : Dyadic} (nonzero : 0 < x.significand) (tie : Tie) :
    0 < (x.shortest tie).digits := by
  rw [shortest, if_neg (Nat.ne_of_gt nonzero)]
  split
  · rename_i found search
    obtain ⟨fewer, -, within⟩ := List.exists_of_findSome?_eq_some search
    exact digits_pos_of_withDigits nonzero within
  -- No decimal with fewer digits reads back, so the most digits are taken, and not all are zero.
  · have enough : _ ≤ _ := @unit_le x nonzero mostDigits (by decide)
    have under : 0 < (x.inUnits (x.places - mostDigits)).2 :=
      Nat.mul_pos x.denominator_pos (Nat.pow_pos (by decide))
    dsimp only
    generalize x.inUnits (x.places - mostDigits) = units at enough under
    have quotient : 0 < units.1 / units.2 := Nat.div_pos enough under
    rcases roundDiv_eq_or tie units.1 units.2 with ⟨down, -⟩ | ⟨up, -⟩
    · omega
    · omega

end Dyadic

theorem Decimal.dropZeros_pos (fuel : Nat) {d : Decimal} (positive : 0 < d.digits) :
    0 < (d.dropZeros fuel).digits := by
  induction fuel generalizing d with
  | zero => exact positive
  | succ fuel ih =>
      rw [dropZeros]
      split
      · rename_i zero
        rw [Bool.and_eq_true, decide_eq_true_eq, decide_eq_true_eq] at zero
        apply ih
        show 0 < d.digits / 10
        omega
      · exact positive

end Reckoner
