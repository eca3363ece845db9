import Reckoner.Expression.Function
import Reckoner.Console.Spacing
import Reckoner.Screen.Style
import Reckoner.Text.Letter

/-!
Expressions in colours. Runs of letters and runs of digits, points and π are each one span, and
every other character is a span of its own; names of functions, numbers and operators have styles
of their own.
-/

namespace Reckoner.Highlight

/-- A character of a number. -/
def isNumeric (c : Char) : Bool := Text.isDigit c || c = '.' || c = 'π'

/-- A character of a word. -/
def isWordy (c : Char) : Bool := Text.isLetter c && c ≠ 'π'

/-- Whether two neighbours are in one span. -/
def joins (a b : Char) : Bool := (isWordy a && isWordy b) || (isNumeric a && isNumeric b)

/-- The style of function names. -/
def functionStyle (palette : Palette) : Style := (Style.colored palette.secondAccent).inBold

/-- The style of operators. -/
def operatorStyle (palette : Palette) : Style := (Style.colored palette.accent).inBold

/-- The style of numbers. -/
def numberStyle (palette : Palette) : Style := Style.colored palette.foreground

/-- Whether a word names a function. -/
def isFunctionName (word : Text) : Bool := (Function.ofName? word).isSome

/-- The style of a run, by its first character; blanks have none, and what is neither name, number
nor operator has the style of its surroundings. -/
def styleOf (surroundings : Style) (palette : Palette) (run : Text) : Style :=
  match run.head? with
  | none => surroundings
  | some c =>
    if isWordy c then (if isFunctionName run then functionStyle palette else surroundings)
    else if isNumeric c then numberStyle palette
    else if Spacing.isOperator c then operatorStyle palette
    else if c = ' ' then Style.plain
    else surroundings

/-- The spans of an expression. -/
def spans (surroundings : Style) (palette : Palette) (expression : Text) : StyledLine :=
  (expression.splitBy joins).map (fun run => ⟨run, styleOf surroundings palette run⟩)

end Reckoner.Highlight
