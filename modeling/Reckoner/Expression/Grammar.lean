import Reckoner.Expression.Tree

/-!
The grammar of expressions in infix order. Sums are made of products, products of signed powers, and
powers of numbers, groups and calls; sums and products group to the left, powers to the right, and a
sign takes the whole power that follows it. A phrase relates its tokens to the tree that they mean:
a minus sign is a negation, and a plus sign leaves no trace.
-/

namespace Reckoner

/-- The kinds of phrases. -/
inductive PhraseKind where
  | sum
  | product
  | signed
  | power
  | atom
  deriving DecidableEq, Repr

namespace BinaryOperator

/-- The operators that sums are made with. -/
def isAdditive (op : BinaryOperator) : Bool := op = .add || op = .sub

/-- The operators that products are made with. -/
def isMultiplicative (op : BinaryOperator) : Bool := op = .mul || op = .div

end BinaryOperator

/-- A phrase of a kind, its tokens and its tree. -/
inductive Phrase : PhraseKind → List Token → Tree → Prop where
  | number (value : Float) : Phrase .atom [.number value] (.number value)
  | group {tokens : List Token} {tree : Tree} (inside : Phrase .sum tokens tree) :
      Phrase .atom ([.opening] ++ tokens ++ [.closing]) tree
  | call (f : Function) {tokens : List Token} {tree : Tree} (inside : Phrase .sum tokens tree) :
      Phrase .atom ([.function f, .opening] ++ tokens ++ [.closing]) (.call f tree)
  | atom {tokens : List Token} {tree : Tree} (whole : Phrase .atom tokens tree) :
      Phrase .power tokens tree
  | power {base exponent : List Token} {baseTree exponentTree : Tree}
      (left : Phrase .atom base baseTree) (right : Phrase .signed exponent exponentTree) :
      Phrase .power (base ++ [.operator (.binary .pow)] ++ exponent)
        (.binary .pow baseTree exponentTree)
  | unsigned {tokens : List Token} {tree : Tree} (whole : Phrase .power tokens tree) :
      Phrase .signed tokens tree
  | minus {tokens : List Token} {tree : Tree} (operand : Phrase .signed tokens tree) :
      Phrase .signed ([.operator (.binary .sub)] ++ tokens) (.negation tree)
  | plus {tokens : List Token} {tree : Tree} (operand : Phrase .signed tokens tree) :
      Phrase .signed ([.operator (.binary .add)] ++ tokens) tree
  | factor {tokens : List Token} {tree : Tree} (whole : Phrase .signed tokens tree) :
      Phrase .product tokens tree
  | multiply {op : BinaryOperator} (multiplicative : op.isMultiplicative = true)
      {first second : List Token} {firstTree secondTree : Tree}
      (left : Phrase .product first firstTree) (right : Phrase .signed second secondTree) :
      Phrase .product (first ++ [.operator (.binary op)] ++ second)
        (.binary op firstTree secondTree)
  | term {tokens : List Token} {tree : Tree} (whole : Phrase .product tokens tree) :
      Phrase .sum tokens tree
  | add {op : BinaryOperator} (additive : op.isAdditive = true)
      {first second : List Token} {firstTree secondTree : Tree}
      (left : Phrase .sum first firstTree) (right : Phrase .product second secondTree) :
      Phrase .sum (first ++ [.operator (.binary op)] ++ second) (.binary op firstTree secondTree)

end Reckoner
