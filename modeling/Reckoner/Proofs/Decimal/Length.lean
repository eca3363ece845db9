import Reckoner.Proofs.Decimal.Digits
import Reckoner.Proofs.Decimal.Magnitude

/-!
# How long a double is

Plain notation writes out every zero on either side of the point, but the exponents of doubles are
bounded (`Dyadic.Bounded`) and so are its digits (`Dyadic.lt_unit`): no double is longer than 400
characters (`length_plainText_le`), nor is it with an exponent (`length_scientificText_le`).
-/

namespace Reckoner

namespace Dyadic

/-- The range of the doubles. -/
structure Bounded (x : Dyadic) : Prop where
  significand : x.significand < 2 ^ 53
  least : -1074 ≤ x.exponent
  greatest : x.exponent ≤ 971

theorem bounded_of_ofFloat {x : Float} {value : Dyadic}
    (finite : Magnitude.ofFloat x = .finite value) : value.Bounded := by
  have hidden : hiddenBit = 2 ^ 52 := rfl
  have width : Nat.pow 2 11 = 2048 := rfl
  have fraction : x.toBits.toNat % hiddenBit < hiddenBit := Nat.mod_lt _ (by decide)
  have exponent : x.toBits.toNat / hiddenBit % Nat.pow 2 11 < 2048 := Nat.mod_lt _ (by decide)
  rw [Magnitude.ofFloat] at finite
  split at finite
  · split at finite <;> cases finite
  · split at finite
    · cases finite
      exact ⟨show x.toBits.toNat % hiddenBit < _ by omega, show -1074 ≤ leastExponent by decide,
        show leastExponent ≤ 971 by decide⟩
    · cases finite
      refine ⟨show x.toBits.toNat % hiddenBit + hiddenBit < _ by omega, ?_, ?_⟩
      · show -1074 ≤ (_ : Int) + leastExponent - 1
        rw [leastExponent]
        omega
      · show (_ : Int) + leastExponent - 1 ≤ 971
        rw [leastExponent]
        omega

/-- Three binary places are less than one decimal place. -/
theorem two_pow_le {power places : Nat} (few : power ≤ 3 * places) : 2 ^ power ≤ 10 ^ places :=
  calc 2 ^ power
      ≤ 2 ^ (3 * places) := Nat.pow_le_pow_right (by decide) few
    _ = 8 ^ places := Nat.pow_mul 2 3 places
    _ ≤ 10 ^ places := Nat.pow_le_pow_left (by decide) places

namespace Bounded

variable {x : Dyadic} (bounded : x.Bounded)

include bounded

theorem numerator_lt : x.numerator < 10 ^ 342 := by
  have power : 53 + x.exponent.toNat ≤ 3 * 342 := by
    have := bounded.greatest
    omega
  calc x.numerator
      < 2 ^ 53 * 2 ^ x.exponent.toNat :=
        Nat.mul_lt_mul_of_pos_right bounded.significand (Nat.two_pow_pos _)
    _ = 2 ^ (53 + x.exponent.toNat) := (Nat.pow_add 2 53 _).symm
    _ ≤ 10 ^ 342 := two_pow_le power

theorem denominator_le : x.denominator ≤ 10 ^ 358 := by
  apply two_pow_le
  have := bounded.least
  omega

theorem places_le : x.places ≤ 342 := by
  rw [places]
  split
  · have short := Text.length_ofNat_le (by decide)
      (Nat.lt_of_le_of_lt (Nat.div_le_self x.numerator x.denominator) bounded.numerator_lt)
    rw [Text.ofNat] at short
    omega
  · dsimp only
    omega

theorem le_places : -357 ≤ x.places := by
  rw [places]
  split
  · omega
  · have small : (x.denominator - 1) / x.numerator < 10 ^ 358 :=
      Nat.lt_of_le_of_lt (Nat.div_le_self _ _)
        (Nat.sub_one_lt_of_le x.denominator_pos bounded.denominator_le)
    have short := Text.length_ofNat_le (by decide) small
    rw [Text.ofNat] at short
    dsimp only
    omega

end Bounded

/-- A number is less than a unit of the place before its first one. -/
theorem lt_unit {x : Dyadic} (nonzero : 0 < x.significand) {count : Nat} (counted : 0 < count) :
    (x.inUnits (x.places - count)).1 < 10 ^ count * (x.inUnits (x.places - count)).2 := by
  have positive : 0 < x.numerator := Nat.mul_pos nonzero (Nat.two_pow_pos _)
  by_cases large : x.denominator ≤ x.numerator
  · have places : x.places = (Text.ofNat (x.numerator / x.denominator)).length := if_pos large
    have whole := Text.lt_pow_length (x.numerator / x.denominator)
    generalize (Text.ofNat (x.numerator / x.denominator)).length = length at places whole
    rw [Nat.div_lt_iff_lt_mul x.denominator_pos] at whole
    have balance : (-((length : Int) - count)).toNat + length =
        count + ((length : Int) - count).toNat := by omega
    rw [places]
    calc x.numerator * 10 ^ (-((length : Int) - count)).toNat
        < 10 ^ length * x.denominator * 10 ^ (-((length : Int) - count)).toNat :=
          Nat.mul_lt_mul_of_pos_right whole (Nat.pow_pos (by decide))
      _ = 10 ^ (-((length : Int) - count)).toNat * 10 ^ length * x.denominator := by
          rw [Nat.mul_comm, Nat.mul_assoc]
      _ = 10 ^ count * (x.denominator * 10 ^ ((length : Int) - count).toNat) := by
          rw [← Nat.pow_add, balance, Nat.pow_add, Nat.mul_assoc, Nat.mul_comm x.denominator]
  · have places : x.places =
        1 - ((Text.ofNat ((x.denominator - 1) / x.numerator)).length : Int) := if_neg large
    have digits := Text.length_ofNat_pos ((x.denominator - 1) / x.numerator)
    -- The number times the power of ten of the zeros behind the point is still below one.
    have below : x.numerator *
        10 ^ ((Text.ofNat ((x.denominator - 1) / x.numerator)).length - 1) < x.denominator := by
      rcases Nat.eq_zero_or_pos ((x.denominator - 1) / x.numerator) with zero | more
      · rw [zero]
        show x.numerator * 1 < _
        omega
      · calc _ ≤ x.numerator * ((x.denominator - 1) / x.numerator) :=
              Nat.mul_le_mul_left _ (Text.pow_length_le more)
          _ ≤ x.denominator - 1 := Nat.mul_div_le _ _
          _ < x.denominator := Nat.sub_lt x.denominator_pos (by decide)
    generalize (Text.ofNat ((x.denominator - 1) / x.numerator)).length = length
      at places digits below
    have whole : (1 - (length : Int) - count).toNat = 0 := by omega
    have zeros : (-(1 - (length : Int) - count)).toNat = length - 1 + count := by omega
    rw [places]
    calc x.numerator * 10 ^ (-(1 - (length : Int) - count)).toNat
        = x.numerator * 10 ^ (length - 1) * 10 ^ count := by
          rw [zeros, Nat.pow_add, Nat.mul_assoc]
      _ < x.denominator * 10 ^ count := Nat.mul_lt_mul_of_pos_right below (Nat.pow_pos (by decide))
      _ = 10 ^ count * (x.denominator * 10 ^ (1 - (length : Int) - count).toNat) := by
          rw [whole, Nat.pow_zero, Nat.mul_one, Nat.mul_comm]

end Dyadic

namespace Decimal

/-- The digits and the exponents that doubles are written with. -/
structure Bounded (d : Decimal) : Prop where
  digits : d.digits < 10 ^ 18
  least : -374 ≤ d.exponent
  greatest : d.exponent ≤ 342

/-- One more than a quotient in units of the last place wanted. -/
theorem bounded_of_le {x : Dyadic} (bounded : x.Bounded) (nonzero : 0 < x.significand) {count : Nat}
    (counted : 0 < count) (most : count ≤ Dyadic.mostDigits) {digits : Nat}
    (small : digits ≤
      (x.inUnits (x.places - count)).1 / (x.inUnits (x.places - count)).2 + 1) :
    Bounded ⟨digits, x.places - count⟩ := by
  have seventeen : Dyadic.mostDigits = 17 := rfl
  have quotient := Nat.div_lt_of_lt_mul
    (Nat.lt_of_lt_of_eq (Dyadic.lt_unit nonzero counted) (Nat.mul_comm _ _))
  have upper := bounded.places_le
  have lower := bounded.le_places
  have power : 10 ^ count ≤ 10 ^ 17 := Nat.pow_le_pow_right (by decide) (by omega)
  refine ⟨?_, ?_, ?_⟩
  · show digits < 10 ^ 18
    omega
  · show -374 ≤ x.places - count
    omega
  · show x.places - count ≤ 342
    omega

theorem bounded_withDigits {tie : Tie} {x : Dyadic} (bounded : x.Bounded)
    (nonzero : 0 < x.significand) {count : Nat} (counted : 0 < count)
    (most : count ≤ Dyadic.mostDigits) {d : Decimal} (found : x.withDigits tie count = .some d) :
    d.Bounded := by
  have near {digits : Nat} (small : digits ≤
      (x.inUnits (x.places - count)).1 / (x.inUnits (x.places - count)).2 + 1) :
      Bounded ⟨digits, x.places - count⟩ := bounded_of_le bounded nonzero counted most small
  rw [Dyadic.withDigits] at found
  dsimp only at found
  split at found
  · cases found
    apply near
    rcases roundDiv_eq_or tie (x.inUnits (x.places - count)).1
      (x.inUnits (x.places - count)).2 with ⟨down, -⟩ | ⟨up, -⟩
    · omega
    · omega
  · cases found
    exact near (Nat.le_succ _)
  · cases found
    exact near (Nat.le_refl _)
  · cases found

theorem bounded_shortest {x : Dyadic} (bounded : x.Bounded) (tie : Tie) :
    (x.shortest tie).Bounded := by
  rw [Dyadic.shortest]
  split
  · exact ⟨by decide, by decide, by decide⟩
  · rename_i nonzero
    replace nonzero := Nat.pos_of_ne_zero nonzero
    split
    · rename_i found search
      obtain ⟨fewer, among, within⟩ := List.exists_of_findSome?_eq_some search
      exact bounded_withDigits bounded nonzero (Nat.succ_pos fewer) (List.mem_range.mp among) within
    · apply bounded_of_le bounded nonzero (by decide) (Nat.le_refl _)
      rcases roundDiv_eq_or tie (x.inUnits (x.places - Dyadic.mostDigits)).1
        (x.inUnits (x.places - Dyadic.mostDigits)).2 with ⟨down, -⟩ | ⟨up, -⟩
      · omega
      · omega

/-- Each zero that is dropped raises the exponent by one. -/
theorem dropZeros_le (fuel : Nat) (d : Decimal) :
    (d.dropZeros fuel).digits ≤ d.digits ∧ d.exponent ≤ (d.dropZeros fuel).exponent ∧
      (d.dropZeros fuel).exponent ≤ d.exponent + fuel := by
  induction fuel generalizing d with
  | zero => exact ⟨Nat.le_refl _, Int.le_refl _, Int.le_add_of_nonneg_right (by decide)⟩
  | succ fuel ih =>
      rw [dropZeros]
      split
      · obtain ⟨fewer, raised, bound⟩ := ih ⟨d.digits / 10, d.exponent + 1⟩
        dsimp only at fewer raised bound
        refine ⟨Nat.le_trans fewer (Nat.div_le_self _ _), ?_, ?_⟩
        · omega
        · omega
      · refine ⟨Nat.le_refl _, ?_, ?_⟩
        · omega
        · omega

theorem length_pointed_le (digits : Text) (places : Nat) :
    (pointed digits places).length ≤ digits.length + places + 2 := by
  rw [pointed, Text.copies]
  split
  · simp only [List.length_append, List.length_replicate]
    omega
  · simp only [List.length_append, List.length_take, List.length_drop, List.length_replicate,
      List.length_singleton]
    omega

/-- Either the zeros stand before the point or the places behind it. -/
theorem length_plain_le (d : Decimal) :
    d.plain.length ≤ (Text.ofNat d.digits).length + d.exponent.natAbs + 2 := by
  have zeros : (if d.digits = 0 then 0 else d.exponent.toNat) ≤ d.exponent.toNat := by
    split
    · exact Nat.zero_le _
    · exact Nat.le_refl _
  rw [plain]
  generalize (if d.digits = 0 then 0 else d.exponent.toNat) = count at zeros ⊢
  have pointed := length_pointed_le (Text.ofNat d.digits ++ Text.copies count '0')
    (-d.exponent).toNat
  have filled : (Text.copies count '0').length = count := List.length_replicate
  rw [List.length_append, filled] at pointed
  omega

end Decimal

/-- **No double is long in plain notation.** -/
theorem length_plainText_le {x : Float} (finite : x.isFinite = true) :
    (plainText x).length ≤ 400 := by
  obtain ⟨value, magnitude⟩ := Magnitude.ofFloat_of_isFinite finite
  have bounded := Decimal.bounded_shortest (Dyadic.bounded_of_ofFloat magnitude) .up
  obtain ⟨fewer, raised, bound⟩ :=
    Decimal.dropZeros_le Dyadic.mostDigits (value.shortest .up)
  have seventeen : Dyadic.mostDigits = 17 := rfl
  have digits := Text.length_ofNat_le (by decide) (Nat.lt_of_le_of_lt fewer bounded.digits)
  have plain := Decimal.length_plain_le (shortestDecimal .up value)
  have lower := bounded.least
  have upper := bounded.greatest
  rw [shortestDecimal] at plain
  have body : (shortestDecimal .up value).plain.length ≤ 399 := by
    rw [shortestDecimal]
    omega
  rw [plainText, magnitude]
  show (signed x (shortestDecimal .up value).plain).length ≤ 400
  rw [signed]
  split
  · exact Nat.succ_le_succ body
  · exact Nat.le_succ_of_le body

/-! ## Notation with an exponent -/

theorem Decimal.bounded_significant {x : Dyadic} (bounded : x.Bounded)
    (nonzero : 0 < x.significand) {count : Nat} (counted : 0 < count)
    (most : count ≤ Dyadic.mostDigits) : (x.significant count).Bounded := by
  have seventeen : Dyadic.mostDigits = 17 := rfl
  rw [Dyadic.significant]
  dsimp only
  split
  · have upper := bounded.places_le
    have lower := bounded.le_places
    refine ⟨?_, ?_, ?_⟩
    · exact Nat.pow_lt_pow_right (by decide) (by omega : count - 1 < 18)
    · show -374 ≤ x.places - count + 1
      omega
    · show x.places - count + 1 ≤ 342
      omega
  · apply bounded_of_le bounded nonzero counted most
    rcases roundDiv_eq_or .toEven (x.inUnits (x.places - count)).1
      (x.inUnits (x.places - count)).2 with ⟨down, -⟩ | ⟨up, -⟩
    · omega
    · omega

theorem Text.length_ofInt_le {power : Int} {width : Nat} (wide : 0 < width)
    (small : power.natAbs < 10 ^ width) : (ofInt power).length ≤ width + 1 := by
  have digits := length_ofNat_le wide small
  cases power with
  | ofNat n => exact Nat.le_succ_of_le digits
  | negSucc n => exact Nat.succ_le_succ digits

/-- **No double is long with an exponent.** -/
theorem length_scientificText_le {x : Float} (finite : x.isFinite = true) :
    (scientificText x).length ≤ 400 := by
  obtain ⟨value, magnitude⟩ := Magnitude.ofFloat_of_isFinite finite
  rw [scientificText, magnitude]
  dsimp only
  have bounded : (if value.significand = 0 then ⟨0, -6⟩ else value.significant 7).Bounded := by
    split
    · exact ⟨by decide, by decide, by decide⟩
    · rename_i nonzero
      exact Decimal.bounded_significant (Dyadic.bounded_of_ofFloat magnitude)
        (Nat.pos_of_ne_zero nonzero) (by decide) (by decide)
  generalize (if value.significand = 0 then ⟨0, -6⟩ else value.significant 7) = d at bounded
  have least := bounded.least
  have greatest := bounded.greatest
  have digits := Text.length_ofNat_le (by decide) bounded.digits
  have pointed := Decimal.length_pointed_le (Text.ofNat d.digits) 6
  have power : (Text.ofInt (d.exponent + 6)).length ≤ 4 :=
    Text.length_ofInt_le (by decide) (by omega)
  have body : (Decimal.pointed (Text.ofNat d.digits) 6 ++ ['e'] ++
      Text.ofInt (d.exponent + 6)).length ≤ 399 := by
    rw [List.length_append, List.length_append, List.length_singleton]
    omega
  rw [signed]
  split
  · exact Nat.succ_le_succ body
  · exact Nat.le_succ_of_le body

end Reckoner
