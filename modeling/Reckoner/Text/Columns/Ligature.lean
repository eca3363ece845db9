import Reckoner.Text.Columns.Basic
import Reckoner.Text.Cluster.Class

/-!
Ligatures: letters of some scripts that are drawn as one shape when they meet, and so take fewer
columns than apart. A ligature is read from its end. What has been read of it is an `Ending`, and
a letter in front of an ending may go into the shape (`Ending.extend?`). Marks that are never drawn
(`isInvisibleMark`) do not keep letters apart, and some endings take a letter in only through a
joiner.
-/

namespace Reckoner.Text

/-- Forms of the Arabic letter alef, which a lam in front of them takes in. -/
def isAlef (c : Char) : Bool :=
  let code := c.toNat
  within 0x622 0x623 code || code = 0x625 || code = 0x627 || within 0x671 0x673 code
    || code = 0x675 || within 0x773 0x774 code || within 0x870 0x882 code

/-- Forms of the Arabic letter lam. -/
def isLam (c : Char) : Bool :=
  let code := c.toNat
  code = 0x644 || within 0x6B5 0x6B8 code || code = 0x76A || code = 0x8A6 || code = 0x8C7

/-- Marks that stand on a letter and let the Arabic letters on both its sides join. -/
def isTransparentMark (c : Char) : Bool :=
  charColumns c = 0 && !opaqueRanges.contains c.toNat

/-- Marks that are never drawn. -/
def isInvisibleMark (c : Char) : Bool :=
  let code := c.toNat
  code = 0x34F || within 0x17B4 0x17B5 code || within 0x180B 0x180D code || code = 0x180F
    || within 0xFE00 0xFE0F code || within 0xE0100 0xE01EF code

/-- The consonants of Tifinagh. -/
def isTifinaghConsonant (c : Char) : Bool := within 0x2D31 0x2D65 c.toNat || c.toNat = 0x2D6F

/-- The letters of Khmer with a form below the line that is no wider than the letter above it. -/
def hasSubscript (code : Nat) : Bool :=
  within 0x1780 0x1782 code || within 0x1784 0x1787 code || within 0x1789 0x178C code
    || within 0x178E 0x1793 code || within 0x1795 0x1798 code || within 0x179B 0x179D code
    || code = 0x17A0 || code = 0x17A2 || code = 0x17A7 || within 0x17AB 0x17AC code
    || code = 0x17AF

/-- What has been read of a ligature, from its end. -/
inductive Ending where
  /-- The Hebrew letter lamed, which a joiner ties to an alef. -/
  | lamed
  /-- The Buginese letter ya, which a joiner ties to the vowel sign i. -/
  | ya
  /-- The Buginese vowel sign i and a ya, in front of which the letter a may stand. -/
  | vowelYa
  /-- A consonant of Tifinagh, which a joiner or the sign for one ties to another one. -/
  | consonant
  /-- The sign for a joiner in Tifinagh, and a consonant. -/
  | signConsonant
  /-- A tone letter of Lisu that may be the second one of a pair. -/
  | tone
  /-- The Old Turkic letter orkhon i, which a joiner ties to the letter orkhon ec. -/
  | orkhonI
  /-- A letter of Khmer, which the sign coeng puts below the letter in front of it. -/
  | subscript
  deriving DecidableEq, Repr

namespace Ending

/-- The ending that a character is by itself. -/
def ofChar? (c : Char) : Option Ending :=
  let code := c.toNat
  if code = 0x5DC then some .lamed
  else if hasSubscript code then some .subscript
  else if code = 0x1A10 then some .ya
  else if isTifinaghConsonant c then some .consonant
  else if within 0xA4FC 0xA4FD code then some .tone
  else if code = 0x10C03 then some .orkhonI
  else none

/-- The columns that a letter adds in front of an ending, with a joiner between them or not, if it
goes into the ligature, and the ending that it makes if more may come. -/
def extend? (c : Char) (joined : Bool) : Ending → Option (Int × Option Ending)
  | .lamed => if joined && c.toNat = 0x5D0 then some (0, none) else none
  | .ya => if joined && c.toNat = 0x1A17 then some (0, some .vowelYa) else none
  | .vowelYa => if c.toNat = 0x1A15 then some (0, none) else none
  | .consonant =>
    if c.toNat = 0x2D7F then some (1, some .signConsonant)
    else if joined && isTifinaghConsonant c then some (0, none)
    else none
  | .signConsonant => if isTifinaghConsonant c then some (-1, none) else none
  | .tone => if within 0xA4F8 0xA4FB c.toNat then some (0, none) else none
  | .orkhonI => if joined && c.toNat = 0x10C32 then some (0, none) else none
  | .subscript => if c.toNat = 0x17D2 then some (-1, none) else none

/-- The columns that a letter in front of an ending may take back. -/
def slack : Ending → Int
  | .signConsonant | .subscript => 1
  | .lamed | .ya | .vowelYa | .consonant | .tone | .orkhonI => 0

/-- A letter takes back no more than the ending it goes into can spare. -/
theorem slack_extend? {c : Char} {joined : Bool} {ending : Ending} {own : Int}
    {more : Option Ending} (extended : ending.extend? c joined = some (own, more)) :
    (more.map slack).getD 0 ≤ own + ending.slack := by
  cases ending <;> simp only [extend?] at extended <;> grind [slack]

/-- A letter of Khmer with a form below the line takes one column by itself. -/
theorem codeColumns_of_hasSubscript {code : Nat} (letter : hasSubscript code = true) :
    codeColumns code = 1 := by
  have all : ∀ k, k < 0x30 → codeColumns (0x1780 + k) = 1 ∨ hasSubscript (0x1780 + k) = false := by
    decide +kernel
  have low : 0x1780 ≤ code ∧ code < 0x17B0 := by
    simp only [hasSubscript, within, Bool.or_eq_true, Bool.and_eq_true, decide_eq_true_eq] at letter
    omega
  have := all (code - 0x1780) (by omega)
  rw [show 0x1780 + (code - 0x1780) = code by omega] at this
  simpa [letter] using this

/-- A character is at least as wide as what may be taken back from it. -/
theorem slack_ofChar? {c : Char} {ending : Ending} (read : ofChar? c = some ending) :
    ending.slack ≤ charColumns c := by
  simp only [ofChar?] at read
  split at read
  · cases read; simp [slack]
  split at read
  · next letter =>
    cases read
    simp [slack, charColumns, codeColumns_of_hasSubscript letter]
  all_goals grind [slack]

end Ending

end Reckoner.Text
