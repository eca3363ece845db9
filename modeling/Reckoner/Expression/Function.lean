import Reckoner.Text.Basic

/-!
The named functions of expressions. Names are told apart by case.
-/

namespace Reckoner

/-- The functions that an expression may call. -/
inductive Function where
  | sin
  | cos
  | tan
  | sqrt
  | ln
  | log
  | abs
  deriving DecidableEq, Repr

namespace Function

/-- Every function. -/
def all : List Function := [.sin, .cos, .tan, .sqrt, .ln, .log, .abs]

/-- The name a function is called by. -/
def name : Function → Text
  | .sin => "sin".toList
  | .cos => "cos".toList
  | .tan => "tan".toList
  | .sqrt => "sqrt".toList
  | .ln => "ln".toList
  | .log => "log".toList
  | .abs => "abs".toList

/-- The function of a name. -/
def ofName? (name : Text) : Option Function := all.find? (fun f => f.name = name)

/-- The value of a function. Angles are in radians and `log` has base ten. -/
def apply : Function → Float → Float
  | .sin, x => x.sin
  | .cos, x => x.cos
  | .tan, x => x.tan
  | .sqrt, x => x.sqrt
  | .ln, x => x.log
  | .log, x => x.log10
  | .abs, x => x.abs

theorem ofName?_name (f : Function) : ofName? f.name = some f := by
  cases f <;> decide

theorem name_of_ofName? {name : Text} {f : Function} (found : ofName? name = some f) :
    f.name = name := by
  simpa using List.find?_some found

end Function

end Reckoner
