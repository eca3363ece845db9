/-!
The exact value of a double: a sign and a natural number times a power of two. All decimal
notation is computed from it in integer arithmetic, so no digit depends on rounding of doubles.
-/

namespace Reckoner

/-- The number `significand · 2 ^ exponent`. -/
structure Dyadic where
  significand : Nat
  exponent : Int
  deriving DecidableEq, Repr

/-- The magnitude of a double. -/
inductive Magnitude where
  | finite (value : Dyadic)
  | infinite
  | undefined
  deriving DecidableEq, Repr

namespace Dyadic

/-- The numerator of a dyadic number over a power of two. -/
def numerator (value : Dyadic) : Nat := value.significand * Nat.pow 2 value.exponent.toNat

/-- The power of two under a dyadic number. -/
def denominator (value : Dyadic) : Nat := Nat.pow 2 (-value.exponent).toNat

/-- Whether a dyadic number is a whole one. -/
def isWhole (value : Dyadic) : Bool := value.numerator % value.denominator = 0

/-- The bit above the fraction of a double, which its bits do not hold. -/
def hiddenBit : Nat := Nat.pow 2 52

/-- The exponent of the least doubles. -/
def leastExponent : Int := -1074

theorem denominator_pos (value : Dyadic) : 0 < value.denominator := Nat.two_pow_pos _

end Dyadic

namespace Magnitude

/-- The sign bit of a double. -/
def isNegative (x : Float) : Bool := x.toBits.toNat / Nat.pow 2 63 = 1

/-- The magnitude of a double, read off its bits: eleven bits of exponent and fifty-two bits of
fraction, with a hidden leading bit unless the exponent is least. -/
def ofFloat (x : Float) : Magnitude :=
  let bits : Nat := x.toBits.toNat
  let fraction : Nat := bits % Dyadic.hiddenBit
  let exponent : Nat := bits / Dyadic.hiddenBit % Nat.pow 2 11
  if exponent = 2047 then (if fraction = 0 then .infinite else .undefined)
  else if exponent = 0 then .finite ⟨fraction, Dyadic.leastExponent⟩
  else .finite ⟨fraction + Dyadic.hiddenBit, (exponent : Int) + Dyadic.leastExponent - 1⟩

example : ofFloat 1.0 = .finite ⟨Dyadic.hiddenBit, -52⟩ := by decide

example : ofFloat (1.0 / 0.0) = .infinite := by decide

end Magnitude

end Reckoner
