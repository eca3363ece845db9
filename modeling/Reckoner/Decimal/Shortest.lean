import Reckoner.Decimal.Binary
import Reckoner.Decimal.Rounding

/-!
The shortest decimal that reads back as a given double. Of all reals, those between the midpoints
to the neighbouring doubles read back, the midpoints themselves only if the significand is even.
For one digit, two digits and so on, the two points of the decimal grid around the exact value are
tried; the first grid with a point between the midpoints gives the digits, the nearer of two such
points wins, and a tie goes as the notation asks.
-/

namespace Reckoner

/-- The number `digits · 10 ^ exponent`. -/
structure Decimal where
  digits : Nat
  exponent : Int
  deriving DecidableEq, Repr

namespace Decimal

/-- How a decimal compares with a dyadic number. -/
def compareDyadic (d : Decimal) (x : Dyadic) : Ordering :=
  compare (d.digits * Nat.pow 10 d.exponent.toNat * x.denominator)
    (x.numerator * Nat.pow 10 (-d.exponent).toNat)

end Decimal

namespace Dyadic

/-- The midpoint to the next larger double. -/
def upperMidpoint (x : Dyadic) : Dyadic := ⟨4 * x.significand + 2, x.exponent - 2⟩

/-- The midpoint to the next smaller double, which is only half as far away at a power of two. -/
def lowerMidpoint (x : Dyadic) : Dyadic :=
  if x.significand = hiddenBit && x.exponent ≠ leastExponent then ⟨4 * x.significand - 1, x.exponent - 2⟩
  else ⟨4 * x.significand - 2, x.exponent - 2⟩

/-- Whether a decimal reads back as the double. -/
def readsBack (x : Dyadic) (d : Decimal) : Bool :=
  match d.compareDyadic x.lowerMidpoint, d.compareDyadic x.upperMidpoint with
  | .gt, .lt => true
  | .eq, .lt | .gt, .eq => x.significand % 2 = 0
  | _, _ => false

/-- The count of decimal places before the point: the least power of ten above the number, which
must not be zero. -/
def places (x : Dyadic) : Int :=
  if x.denominator ≤ x.numerator then (Nat.toDigits 10 (x.numerator / x.denominator)).length
  else
    let inverse := (x.denominator - 1) / x.numerator
    1 - ((Nat.toDigits 10 inverse).length : Int)

/-- The number of units of `10 ^ exponent` in a dyadic number, as a fraction. -/
def inUnits (x : Dyadic) (exponent : Int) : Nat × Nat :=
  (x.numerator * Nat.pow 10 (-exponent).toNat, x.denominator * Nat.pow 10 exponent.toNat)

/-- A decimal of the given count of digits that reads back as the double, if there is one. -/
def withDigits (tie : Tie) (x : Dyadic) (count : Nat) : Option Decimal :=
  let exponent := x.places - count
  let (num, den) := x.inUnits exponent
  let below : Decimal := ⟨num / den, exponent⟩
  let above : Decimal := ⟨num / den + 1, exponent⟩
  match x.readsBack below, x.readsBack above with
  | true, true => some ⟨roundDiv tie num den, exponent⟩
  | true, false => some below
  | false, true => some above
  | false, false => none

/-- Seventeen digits always suffice. -/
def mostDigits : Nat := 17

/-- The shortest decimal that reads back as the double. -/
def shortest (tie : Tie) (x : Dyadic) : Decimal :=
  if x.significand = 0 then ⟨0, 0⟩
  else
    match (List.range mostDigits).findSome? (fun fewer => x.withDigits tie (fewer + 1)) with
    | some found => found
    | none =>
      let exponent := x.places - mostDigits
      ⟨roundDiv tie (x.inUnits exponent).1 (x.inUnits exponent).2, exponent⟩

theorem readsBack_of_withDigits {tie : Tie} {x : Dyadic} {count : Nat} {d : Decimal}
    (found : x.withDigits tie count = some d) : x.readsBack d = true := by
  unfold withDigits at found
  simp only at found
  split at found
  case h_1 below above =>
    cases found
    rcases roundDiv_eq_or tie (x.inUnits (x.places - count)).1
      (x.inUnits (x.places - count)).2 with ⟨rounded, _⟩ | ⟨rounded, _⟩ <;> rw [rounded] <;>
      assumption
  case h_2 below above => cases found; exact below
  case h_3 below above => cases found; exact above
  case h_4 => cases found

example : shortest .up ⟨0x1999999999999A, -56⟩ = ⟨1, -1⟩ := by decide

example : shortest .up ⟨1, -1074⟩ = ⟨5, -324⟩ := by decide +kernel

end Dyadic

end Reckoner
