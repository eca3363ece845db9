import Reckoner.Text.Columns.Table

/-!
The columns of a character that stands by itself: two for wide ones, none for marks and other
characters that are not drawn, and one for all else.
-/

namespace Reckoner.Text

/-- The columns of the character with a code point. A control counts for one, since where it is
shown at all a sign is drawn in its place; the Khmer vowel qaa and the sign beyyal are as wide as the
letters that they stand for. -/
def codeColumns (code : Nat) : Nat :=
  if code ≤ 0xA0 then 1
  else if code = 0x17A4 then 2
  else if code = 0x17D8 then 3
  else if hiddenRanges.contains code then 0
  else if wideRanges.contains code then 2
  else 1

/-- The columns of a character that stands by itself. -/
def charColumns (c : Char) : Nat := codeColumns c.toNat

end Reckoner.Text
