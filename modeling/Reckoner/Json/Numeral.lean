import Reckoner.Json.Value

/-!
The numbers of JSON as numbers. A numeral without decimals and exponent that fits a 64-bit word is
read exactly. Any other is read from the first digits that fit such a word and a power of ten, with
one rounding for each, so it may be a neighbour of the nearest double. Written are the shortest
digits that are nearest to the value, a tie going to the even digit.
-/

namespace Reckoner.Json.Numeral

/-- The number of 64-bit words. -/
def wordLimit : Nat := 18446744073709551616

/-- Digits appended to a number while it fits a word: the number, and how many were left over. -/
def gather (start : Nat) : Text → Nat × Nat
  | [] => (start, 0)
  | c :: rest =>
    let next := start * 10 + (c.toNat - '0'.toNat)
    if next < wordLimit then gather next rest else (start, rest.length + 1)

/-- A numeral without decimals and exponent. -/
def isWhole (numeral : Numeral) : Bool := numeral.fraction = none && numeral.exponent = none

/-- The whole number of a numeral whose digits fit a word; minus zero is none. -/
def int? (numeral : Numeral) : Option Int :=
  let (digits, surplus) := gather 0 numeral.whole
  if !numeral.isWhole || surplus ≠ 0 then none
  else if !numeral.negative then some digits
  else if 0 < digits && digits ≤ wordLimit / 2 then some (-digits)
  else none

/-- The greatest integer of 64 bits. -/
def maxInt64 : Int := 9223372036854775807

/-- The least integer of 64 bits. -/
def minInt64 : Int := -9223372036854775808

/-- An integer of 64 bits. -/
def int64? (numeral : Numeral) : Option Int :=
  numeral.int?.filter (fun n => minInt64 ≤ n && n ≤ maxInt64)

/-- A natural number of 64 bits. -/
def nat64? (numeral : Numeral) : Option Nat := (numeral.int?.filter (0 ≤ ·)).map Int.toNat

/-- A power of ten as a double. -/
def powerOfTen (exponent : Nat) : Float := Float.ofScientific 1 false exponent

/-- The greatest power of ten among the doubles. -/
def maxPower : Nat := 308

/-- A double divided by a power of ten, in steps of the greatest one. -/
def divideOut (x : Float) (exponent : Nat) : Float :=
  if exponent ≤ maxPower then x / powerOfTen exponent
  else if x == 0 then x
  else divideOut (x / powerOfTen maxPower) (exponent - maxPower)
termination_by exponent
decreasing_by simp only [maxPower] at *; omega

/-- A word times a power of ten. A magnitude beyond the doubles is none. -/
def scale? (digits : Nat) (exponent : Int) : Option Float :=
  let x := digits.toFloat
  if exponent < 0 then some (divideOut x (-exponent).toNat)
  else if exponent.toNat ≤ maxPower then
    let scaled := x * powerOfTen exponent.toNat
    if scaled.isInf then none else some scaled
  else if x == 0 then some x
  else none

/-- The greatest exponent that is told from infinity. -/
def maxExponent : Nat := 2147483647

/-- The magnitude of a numeral that is not read exactly. -/
def magnitude? (numeral : Numeral) : Option Float :=
  let (whole, surplus) := gather 0 numeral.whole
  let decimals := numeral.fraction.getD []
  let (digits, ignored) := gather whole decimals
  let start : Int := surplus - (decimals.length - ignored : Nat)
  match numeral.exponent with
  | none => scale? digits start
  | some (negative, text) =>
    let exponent := Nat.ofDigitChars 10 text 0
    if maxExponent < exponent then
      if digits ≠ 0 && !negative then none else some 0.0
    else scale? digits (if negative then start - exponent else start + exponent)

/-- The double of a numeral, unless it is out of range. -/
def float? (numeral : Numeral) : Option Float :=
  let magnitude? :=
    if numeral.isWhole && (gather 0 numeral.whole).2 = 0 then
      some (gather 0 numeral.whole).1.toFloat
    else numeral.magnitude?
  magnitude?.map (fun magnitude => if numeral.negative then -magnitude else magnitude)

/-- The numeral of a natural number. -/
def ofNat (n : Nat) : Numeral := ⟨false, Text.ofNat n, none, none⟩

/-- The numeral of an integer. -/
def ofInt (n : Int) : Numeral := ⟨decide (n < 0), Text.ofNat n.natAbs, none, none⟩

/-- The numeral of digits with the point after the first `places` of them: in plain notation for
everyday magnitudes, and else with an exponent. -/
def ofPlaces (negative : Bool) (digits : Text) (places : Int) : Numeral :=
  let count : Int := digits.length
  if 0 < places && places ≤ 16 then
    if count ≤ places then
      ⟨negative, digits ++ Text.copies (places - count).toNat '0', some ['0'], none⟩
    else ⟨negative, digits.take places.toNat, some (digits.drop places.toNat), none⟩
  else if -5 < places && places ≤ 0 then
    ⟨negative, ['0'], some (Text.copies (-places).toNat '0' ++ digits), none⟩
  else
    ⟨negative, digits.take 1, if count = 1 then none else some (digits.drop 1),
      some (decide (places ≤ 0), Text.ofNat (places - 1).natAbs)⟩

/-- The numeral of a finite double. -/
def ofFloat? (x : Float) : Option Numeral :=
  match Magnitude.ofFloat x with
  | .finite value =>
    let negative := Magnitude.isNegative x
    if value.significand = 0 then some ⟨negative, ['0'], some ['0'], none⟩
    else
      let d := shortestDecimal .toEven value
      let digits := Text.ofNat d.digits
      some (ofPlaces negative digits (digits.length + d.exponent))
  | _ => none

end Reckoner.Json.Numeral
