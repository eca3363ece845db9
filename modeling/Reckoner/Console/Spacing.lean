import Reckoner.Expression.Operator

/-!
Expressions as the history shows them, with single blanks around binary operators and no others.
-/

namespace Reckoner.Spacing

/-- The operators and their glyphs. -/
def isOperator (c : Char) : Bool := BinaryOperator.isSymbol c || c = '×' || c = '÷'

/-- Whether a minus is a sign: nothing stands before it, or an operator or a parenthesis. -/
def isSign (previous : Option Char) (c : Char) : Bool :=
  c = '-' && previous.all (fun p => p = '(' || isOperator p)

/-- Characters with blanks around the binary operators, given the character before them. -/
def spread : Option Char → Text → Text
  | _, [] => []
  | previous, c :: rest =>
    if isOperator c && !isSign previous c then [' ', c, ' '] ++ spread (some c) rest
    else c :: spread (some c) rest

/-- An expression with single blanks around its binary operators. -/
def format (expression : Text) : Text :=
  Text.unwords (Text.words (spread none (Text.squeeze expression)))

end Reckoner.Spacing
