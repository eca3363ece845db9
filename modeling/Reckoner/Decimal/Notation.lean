import Reckoner.Text.Basic
import Reckoner.Decimal.Shortest

/-!
Decimal notation of doubles: plain notation, which never has an exponent and shows the fewest
digits that read back; a fixed count of places after the point; and six places with an exponent.
Also the reading of a literal of digits with at most one point.
-/

namespace Reckoner

/-- The word for a double that is no number. -/
def undefinedText : Text := "NaN".toList

/-- The word for a double beyond all numbers. -/
def infiniteText : Text := "inf".toList

namespace Decimal

/-- Digits with a point before the last `places` of them, and at least one digit before it. -/
def pointed (digits : Text) (places : Nat) : Text :=
  let filled := Text.copies (places + 1 - digits.length) '0' ++ digits
  if places = 0 then filled
  else filled.take (filled.length - places) ++ ['.'] ++ filled.drop (filled.length - places)

/-- A decimal without an exponent, with a point only if it is not whole. -/
def plain (d : Decimal) : Text :=
  pointed (Text.ofNat d.digits ++ Text.copies (if d.digits = 0 then 0 else d.exponent.toNat) '0')
    (-d.exponent).toNat

/-- The same number without zeros at the end of its digits; at most `fuel` of them are dropped. -/
def dropZeros (fuel : Nat) (d : Decimal) : Decimal :=
  match fuel with
  | 0 => d
  | fuel + 1 =>
    if d.digits ≠ 0 && d.digits % 10 = 0 then dropZeros fuel ⟨d.digits / 10, d.exponent + 1⟩ else d

end Decimal

/-- A minus sign in front of the text of a negative number. -/
def signed (x : Float) (text : Text) : Text :=
  if Magnitude.isNegative x then '-' :: text else text

/-- The shortest decimal of a finite double, its digits ending in no zero. -/
def shortestDecimal (tie : Tie) (x : Dyadic) : Decimal :=
  (x.shortest tie).dropZeros Dyadic.mostDigits

/-- Plain notation: the shortest digits, ties going up, and never an exponent. -/
def plainText (x : Float) : Text :=
  match Magnitude.ofFloat x with
  | .undefined => undefinedText
  | .infinite => signed x infiniteText
  | .finite value => signed x (shortestDecimal .up value).plain

/-- A finite double as a whole number of units of `10 ^ -places`, a half going to the even one. -/
def Dyadic.toUnits (places : Nat) (value : Dyadic) : Nat :=
  roundDiv .toEven (value.numerator * Nat.pow 10 places) value.denominator

/-- A double with a fixed count of places. -/
def fixedText (places : Nat) (x : Float) : Text :=
  match Magnitude.ofFloat x with
  | .undefined => undefinedText
  | .infinite => signed x infiniteText
  | .finite value => signed x (Decimal.pointed (Text.ofNat (value.toUnits places)) places)

/-- A finite double rounded to a count of significant digits, a half going to the even one. -/
def Dyadic.significant (count : Nat) (value : Dyadic) : Decimal :=
  let exponent := value.places - count
  let (num, den) := value.inUnits exponent
  let digits := roundDiv .toEven num den
  if digits = Nat.pow 10 count then ⟨Nat.pow 10 (count - 1), exponent + 1⟩ else ⟨digits, exponent⟩

/-- Notation with one digit before the point, six after it, and an exponent. -/
def scientificText (x : Float) : Text :=
  match Magnitude.ofFloat x with
  | .undefined => undefinedText
  | .infinite => signed x infiniteText
  | .finite value =>
    let d := if value.significand = 0 then ⟨0, -6⟩ else value.significant 7
    signed x (Decimal.pointed (Text.ofNat d.digits) 6 ++ ['e'] ++ Text.ofInt (d.exponent + 6))

/-- The value of digits with a point before the last `places` of them, rounded to nearest. -/
def ofDigits (digits : Text) (places : Nat) : Float :=
  Float.ofScientific (Nat.ofDigitChars 10 digits 0) true places

example : plainText 0.1 = "0.1".toList := by decide +kernel

example : plainText (-0.0) = "-0".toList := by decide +kernel

example : plainText (18446744073709551616 : Float) = "18446744073709552000".toList := by
  decide +kernel

example : scientificText 1e-7 = "1.000000e-7".toList := by decide +kernel

example : fixedText 10 (0.1 + 0.2) = "0.3000000000".toList := by decide +kernel

end Reckoner
