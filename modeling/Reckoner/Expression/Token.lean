import Reckoner.Decimal.Notation
import Reckoner.Expression.Operator
import Reckoner.Expression.Error
import Reckoner.Text.Letter

/-!
The tokens of an expression. A text is cut into lexemes: the longest runs of digits and points, the
longest runs of plain letters, and every other character by itself. White space only separates
them; every other lexeme must be a token, and the first one that is none is the error.
-/

namespace Reckoner

/-- The tokens of expressions, in infix and in postfix order. -/
inductive Token where
  | number (value : Float)
  | operator (op : Operator)
  | opening
  | closing
  | function (f : Function)
  deriving DecidableEq

namespace Token

/-- A token as it is written; a sign is spelt out, since its symbol is that of subtraction. -/
def text : Token → Text
  | .number value => plainText value
  | .operator .neg => "neg".toList
  | .operator (.binary op) => [op.symbol]
  | .opening => ['(']
  | .closing => [')']
  | .function f => f.name

/-- Tokens as written, with single spaces between them. -/
def row (tokens : List Token) : Text := Text.unwords (tokens.map text)

end Token

namespace Lexeme

/-- A character of a number. -/
def isNumeric (c : Char) : Bool := Text.isDigit c || c = '.'

/-- Whether two neighbours belong to one lexeme. -/
def joins (a b : Char) : Bool :=
  (isNumeric a && isNumeric b) || (Text.isPlainLetter a && Text.isPlainLetter b)

/-- The lexemes of a text, white space included. -/
def all (text : Text) : List Text := text.splitBy joins

/-- Whether digits and points spell a number: some digit, and at most one point. -/
def isLiteral (lexeme : Text) : Bool :=
  lexeme.all isNumeric && lexeme.any Text.isDigit && lexeme.count '.' ≤ 1

/-- The number that digits with at most one point spell. -/
def literalValue (lexeme : Text) : Float :=
  ofDigits (lexeme.filter Text.isDigit) (lexeme.dropWhile (· ≠ '.')).tail.length

/-- The number of a literal, if it is one. -/
def number (lexeme : Text) : Except SyntaxError Token :=
  if isLiteral lexeme then .ok (.number (literalValue lexeme))
  else .error (.malformedNumber lexeme)

/-- The function of a name, if there is one. -/
def word (lexeme : Text) : Except SyntaxError Token :=
  match Function.ofName? lexeme with
  | some f => .ok (.function f)
  | none => .error (.unknownFunction lexeme)

/-- The token of a single character. -/
def sign (c : Char) : Except SyntaxError Token :=
  if c = '(' then .ok .opening
  else if c = ')' then .ok .closing
  else
    match BinaryOperator.ofSymbol? c with
    | some op => .ok (.operator (.binary op))
    | none => .error (.unexpectedCharacter c)

/-- The tokens that a lexeme stands for: one, or none if it is white space. -/
def tokens : Text → Except SyntaxError (List Token)
  | [] => .ok []
  | c :: rest =>
    if Text.isBlank c then .ok []
    else if isNumeric c then (number (c :: rest)).map ([·])
    else if Text.isPlainLetter c then (word (c :: rest)).map ([·])
    else (sign c).map ([·])

end Lexeme

namespace Token

/-- The most characters that an expression may have. -/
def maxLength : Nat := 1024

/-- The tokens of lexemes, up to the first one that is no token. -/
def ofLexemes : List Text → Except SyntaxError (List Token)
  | [] => .ok []
  | lexeme :: rest => do
    let first ← Lexeme.tokens lexeme
    let others ← ofLexemes rest
    return first ++ others

/-- The tokens of a text. -/
def ofText (text : Text) : Except SyntaxError (List Token) :=
  if maxLength < text.length then .error (.tooLong text.length maxLength)
  else ofLexemes (Lexeme.all text)

end Token

end Reckoner
