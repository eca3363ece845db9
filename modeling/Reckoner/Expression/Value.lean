import Reckoner.Expression.Postfix
import Reckoner.Expression.Evaluation
import Reckoner.Journal
import Reckoner.Text.Quoted

/-!
The value of an expression given as a text: cut into tokens, put into postfix order, evaluated.
Also the glyphs that stand for operators and for π, and the log records of an evaluation.
-/

namespace Reckoner

namespace Glyph

/-- The digits that stand for π. -/
def piDigits : Text := "3.141592653589793".toList

/-- What a glyph of the display stands for in an expression. -/
def spell (c : Char) : Text :=
  if c = '×' then ['*'] else if c = '÷' then ['/'] else if c = 'π' then piDigits else [c]

/-- A text with its glyphs spelt out. -/
def spellAll (text : Text) : Text := text.flatMap spell

end Glyph

namespace Expression

/-- The steps and the value of an expression. -/
def run (detailed : Bool) (text : Text) : Postfix.Outcome :=
  match Token.ofText text with
  | .error cause => ([], .error (.malformed cause))
  | .ok tokens =>
    match Postfix.ofInfix tokens with
    | .error cause => ([], .error (.malformed cause))
    | .ok ordered => Postfix.evaluate detailed ordered

/-- The value of an expression. -/
def value (text : Text) : Except ExpressionError Float := (run false text).2

/-- What the log says of the evaluation of an expression. -/
def records (text : Text) : List Record :=
  match Token.ofText text with
  | .error _ => []
  | .ok tokens =>
    let counted : Record :=
      ⟨.trace, .tokens, "tokenized ".toList ++ Text.quote text ++ " into ".toList
        ++ Text.ofNat tokens.length ++ " tokens".toList⟩
    match Postfix.ofInfix tokens with
    | .error _ => [counted]
    | .ok ordered =>
      let outcome :=
        match (Postfix.evaluate false ordered).2 with
        | .ok value => Text.quote text ++ " = ".toList ++ plainText value
        | .error cause => Text.quote text ++ " failed: ".toList ++ cause.message
      [counted, ⟨.trace, .postfixOrder, "postfix: ".toList ++ Token.row ordered⟩,
        ⟨.debug, .engine, outcome⟩]

end Expression

end Reckoner
