import Reckoner.Text.Basic

/-!
Operators: their symbols, how tightly they bind and to which side they group.
-/

namespace Reckoner

/-- The operators that stand between two operands. -/
inductive BinaryOperator where
  | add
  | sub
  | mul
  | div
  | pow
  deriving DecidableEq, Repr

/-- The operators of expressions: those between two operands, and the sign of a negative operand. -/
inductive Operator where
  | binary (op : BinaryOperator)
  | neg
  deriving DecidableEq, Repr

/-- The side to which a chain of equal operators groups. -/
inductive Grouping where
  | left
  | right
  deriving DecidableEq, Repr

namespace BinaryOperator

/-- Every operator between two operands. -/
def all : List BinaryOperator := [.add, .sub, .mul, .div, .pow]

/-- The symbol an operator is written with. -/
def symbol : BinaryOperator → Char
  | .add => '+'
  | .sub => '-'
  | .mul => '*'
  | .div => '/'
  | .pow => '^'

/-- The operator written with a symbol. -/
def ofSymbol? (c : Char) : Option BinaryOperator := all.find? (fun op => op.symbol = c)

/-- Whether a character is the symbol of an operator. -/
def isSymbol (c : Char) : Bool := (ofSymbol? c).isSome

theorem ofSymbol?_symbol (op : BinaryOperator) : ofSymbol? op.symbol = some op := by
  cases op <;> rfl

theorem symbol_of_ofSymbol? {c : Char} {op : BinaryOperator} (found : ofSymbol? c = some op) :
    op.symbol = c := by
  simpa using List.find?_some found

end BinaryOperator

namespace Operator

/-- Every operator. -/
def all : List Operator := BinaryOperator.all.map .binary ++ [.neg]

/-- The symbol an operator is written with; a sign looks like a subtraction. -/
def symbol : Operator → Char
  | .binary op => op.symbol
  | .neg => '-'

/-- How tightly an operator binds; a sign binds like a power. -/
def precedence : Operator → Nat
  | .binary .add | .binary .sub => 1
  | .binary .mul | .binary .div => 2
  | .binary .pow | .neg => 3

/-- Sums and products group to the left, powers and signs to the right. -/
def grouping : Operator → Grouping
  | .binary .pow | .neg => .right
  | .binary _ => .left

/-- The count of operands. -/
def arity : Operator → Nat
  | .binary _ => 2
  | .neg => 1

/-- Whether an operator that waits on the stack is applied before the next one is read: it binds
tighter, or as tightly while the next one groups to the left. -/
def yieldsTo (waiting next : Operator) : Bool :=
  match next.grouping with
  | .left => next.precedence ≤ waiting.precedence
  | .right => next.precedence < waiting.precedence

end Operator

end Reckoner
