import Reckoner.Answer
import Reckoner.Text.Cluster

/-!
The calculator: the expression being entered, the last result and a memory. After a calculation the
result is displayed in place of the expression until something else is entered; an operator then
continues from the result, anything else starts afresh.
-/

namespace Reckoner

/-- A calculation that succeeded. -/
structure Calculation where
  expression : Text
  result : Float
  steps : List Step
  deriving DecidableEq

/-- The state of the calculator. -/
structure Calculator where
  expression : Text := []
  lastResult : Float := 0.0
  memory : Float := 0.0
  /-- The result stands in the display, not an expression. -/
  showsResult : Bool := false
  deriving DecidableEq

namespace Calculator

/-- A calculator as it is when switched on. -/
def fresh : Calculator := {}

/-- Whether the memory holds anything but zero. -/
def hasMemory (calculator : Calculator) : Bool := calculator.memory != 0

/-- What the display shows. -/
def display (calculator : Calculator) : Text :=
  if calculator.showsResult then Answer.text calculator.lastResult
  else if calculator.expression = [] then ['0']
  else calculator.expression

/-- A displayed result gives way to an empty expression. -/
def startAfresh (calculator : Calculator) : Calculator :=
  if calculator.showsResult then { calculator with expression := [], showsResult := false }
  else calculator

/-- A displayed result becomes the expression to go on with. -/
def continueFromResult (calculator : Calculator) : Calculator :=
  if calculator.showsResult then
    { calculator with expression := plainText calculator.lastResult, showsResult := false }
  else calculator

/-- The expression with a text added at its end. -/
def append (calculator : Calculator) (text : Text) : Calculator :=
  { calculator with expression := calculator.expression ++ text }

/-- The characters that end a number on the keypad. -/
def separatesNumbers (c : Char) : Bool := BinaryOperator.isSymbol c || c = '(' || c = ')'

/-- The number at the end of an expression, as far as it has been entered. -/
def currentNumber (expression : Text) : Text :=
  (expression.reverse.takeWhile (fun c => !separatesNumbers c)).reverse

/-- A digit or a point from the keypad. A second point in one number is ignored. -/
def enterNumber (calculator : Calculator) (text : Text) : Calculator :=
  let calculator := calculator.startAfresh
  if text = ['.'] && (currentNumber calculator.expression).contains '.' then calculator
  else calculator.append text

/-- An operator from the keypad. It replaces an operator at the end of the expression, and only a
minus may come first. -/
def enterOperator (calculator : Calculator) (symbol : Char) : Calculator :=
  let calculator := calculator.continueFromResult
  match calculator.expression.getLast? with
  | none => if symbol = '-' then calculator.append [symbol] else calculator
  | some last =>
    if BinaryOperator.isSymbol last && BinaryOperator.isSymbol symbol then
      { calculator with expression := calculator.expression.dropLast ++ [symbol] }
    else calculator.append [symbol]

/-- A function from the keypad, with its parenthesis. -/
def enterFunction (calculator : Calculator) (f : Function) : Calculator :=
  calculator.startAfresh.append (f.name ++ ['('])

/-- Text typed freely. -/
def enterText (calculator : Calculator) (text : Text) : Calculator :=
  if text.head?.any BinaryOperator.isSymbol then calculator.continueFromResult.append text
  else calculator.startAfresh.append text

/-- A new expression in place of the old one. -/
def setExpression (calculator : Calculator) (expression : Text) : Calculator :=
  { calculator with expression := expression, showsResult := false }

/-- The percent key: a hundredth of what stands there, times what follows. -/
def percent (calculator : Calculator) : Calculator :=
  let calculator := calculator.continueFromResult
  if calculator.expression = [] then calculator else calculator.append "/100*".toList

/-- The expression without its last cluster; a displayed result is kept. -/
def backspace (calculator : Calculator) : Calculator :=
  if calculator.showsResult then calculator
  else { calculator with expression := Text.dropLastCluster calculator.expression }

/-- Everything but the memory is forgotten. -/
def clear (calculator : Calculator) : Calculator :=
  { calculator with expression := [], lastResult := 0.0, showsResult := false }

/-- The memory is emptied. -/
def clearMemory (calculator : Calculator) : Calculator := { calculator with memory := 0.0 }

/-- The last result is added to the memory. -/
def addToMemory (calculator : Calculator) : Calculator :=
  { calculator with memory := calculator.memory + calculator.lastResult }

/-- The memory is put at the end of the expression. -/
def recallMemory (calculator : Calculator) : Calculator :=
  calculator.startAfresh.append (plainText calculator.memory)

/-- Evaluates the expression. A blank one is no calculation, and one that fails is left as it is. -/
def calculate (calculator : Calculator) (detailed : Bool) :
    Calculator × Except ExpressionError (Option Calculation) :=
  if Text.isAllBlank calculator.expression then (calculator, .ok none)
  else
    match Expression.run detailed (Glyph.spellAll calculator.expression) with
    | (_, .error cause) => (calculator, .error cause)
    | (steps, .ok value) =>
      let result := Answer.settle value
      ({ calculator with
          expression := plainText result, lastResult := result, showsResult := true },
        .ok (some ⟨calculator.expression, result, steps⟩))

/-- A calculation finds nothing to evaluate, or fails as the evaluation does, or displays the
settled value. Only the last of these changes the calculator. -/
theorem calculate_cases (calculator : Calculator) (detailed : Bool) :
    calculator.calculate detailed = (calculator, .ok none) ∨
      (∃ cause, (Expression.run detailed (Glyph.spellAll calculator.expression)).2 = .error cause ∧
        calculator.calculate detailed = (calculator, .error cause)) ∨
      ∃ steps value,
        Expression.run detailed (Glyph.spellAll calculator.expression) = (steps, .ok value) ∧
        calculator.calculate detailed =
          ({ calculator with
              expression := plainText (Answer.settle value), lastResult := Answer.settle value,
              showsResult := true },
            .ok (some ⟨calculator.expression, Answer.settle value, steps⟩)) := by
  rw [calculate]
  split
  · exact .inl rfl
  · split
    · rename_i outcome
      exact .inr (.inl ⟨_, congrArg Prod.snd outcome, rfl⟩)
    · rename_i outcome
      exact .inr (.inr ⟨_, _, outcome, rfl⟩)

/-- What the log says of a calculation. -/
def calculationRecords (calculator : Calculator) : List Record :=
  if Text.isAllBlank calculator.expression then []
  else Expression.records (Glyph.spellAll calculator.expression)

/-- The keys of the calculator. -/
inductive Key where
  /-- A digit or a point. -/
  | number (text : Text)
  | operator (symbol : Char)
  | function (f : Function)
  | text (text : Text)
  | expression (text : Text)
  | percent
  | backspace
  | clear
  | memoryClear
  | memoryAdd
  | memoryRecall
  | equals (detailed : Bool)
  deriving DecidableEq

/-- The calculator after a key. -/
def press (calculator : Calculator) : Key → Calculator
  | .number text => calculator.enterNumber text
  | .operator symbol => calculator.enterOperator symbol
  | .function f => calculator.enterFunction f
  | .text text => calculator.enterText text
  | .expression text => calculator.setExpression text
  | .percent => calculator.percent
  | .backspace => calculator.backspace
  | .clear => calculator.clear
  | .memoryClear => calculator.clearMemory
  | .memoryAdd => calculator.addToMemory
  | .memoryRecall => calculator.recallMemory
  | .equals detailed => (calculator.calculate detailed).1

/-- The calculator after a row of keys. -/
def pressAll (calculator : Calculator) (keys : List Key) : Calculator := keys.foldl press calculator

end Calculator

end Reckoner
