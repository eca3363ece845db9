import Reckoner.Text.Basic

/-!
Folding of letter case, for words that are recognised in any case. Of the characters outside ASCII
only the Kelvin sign has a lower case that is a letter of ASCII, and only the dotted capital I has
one that starts with such a letter; every other one keeps a text from being an ASCII word in either
case, so it is left as it is.
-/

namespace Reckoner.Text

/-- The lower case of a character, as far as it bears on words of ASCII. -/
def foldChar (c : Char) : Text :=
  if 'A' ≤ c && c ≤ 'Z' then [Char.ofNat (c.toNat + 32)]
  else if c.toNat = 0x212A then ['k']
  else if c.toNat = 0x130 then ['i', Char.ofNat 0x307]
  else [c]

/-- The lower case of a text, as far as it bears on words of ASCII. -/
def fold (text : Text) : Text := text.flatMap foldChar

end Reckoner.Text
