import Reckoner.Expression.Value

/-!
Answers as they are kept and shown. A value is settled before it is kept, which hides the noise of
binary fractions, and shown in plain notation while its magnitude is an everyday one.
-/

namespace Reckoner.Answer

/-- The count of places that a settled value has at most. -/
def keptPlaces : Nat := 10

/-- A double rounded to the kept places, unless it is whole or no number at all. -/
def round (x : Float) : Float :=
  match Magnitude.ofFloat x with
  | .finite value =>
    if value.isWhole then x
    else
      let rounded := ofDigits (Text.ofNat (value.toUnits keptPlaces)) keptPlaces
      if Magnitude.isNegative x then -rounded else rounded
  | _ => x

/-- A value as it is kept: what lies within 1e-10 of zero is zero, and fractions have ten places. -/
def settle (x : Float) : Float := if x.abs < 1e-10 then 0.0 else round x

/-- Whether a value is shown with an exponent. -/
def isExtreme (x : Float) : Bool := x.abs ≥ 1e9 || (x.abs < 1e-6 && x != 0)

/-- A value as it is shown. -/
def text (x : Float) : Text := if isExtreme x then scientificText x else plainText x

/-- The answer to an expression evaluated by itself, its glyphs spelt out first. -/
def ofExpression (expression : Text) : Except ExpressionError Text :=
  (Expression.value (Glyph.spellAll expression)).map (fun value => text (settle value))

end Reckoner.Answer
