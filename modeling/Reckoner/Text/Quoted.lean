import Reckoner.Text.Quoted.Table

/-!
Quoted texts, as log lines show what was typed: between double quotes, with the quote, the
backslash, the common controls and every character that could not be seen written as escapes.
-/

namespace Reckoner.Text

/-- A number in hexadecimal digits, in lower case. -/
def ofHex (n : Nat) : Text := Nat.toDigits 16 n

/-- One character of a quoted text. -/
def quoteChar (c : Char) : Text :=
  if c = '\x00' then ['\\', '0']
  else if c = '\t' then ['\\', 't']
  else if c = '\r' then ['\\', 'r']
  else if c = '\n' then ['\\', 'n']
  else if c = '"' then ['\\', '"']
  else if c = '\\' then ['\\', '\\']
  else if isExtending c || !isPrintable c then
    ['\\', 'u', '\x7b'] ++ ofHex c.toNat ++ ['\x7d']
  else [c]

/-- A text between quotes, with escapes. -/
def quote (text : Text) : Text := ['"'] ++ text.flatMap quoteChar ++ ['"']

end Reckoner.Text
