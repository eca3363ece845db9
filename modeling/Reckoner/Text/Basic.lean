import Reckoner.Text.CodeRange

/-!
Texts as lists of characters, white space, and the words of a text. White space is the Unicode
property of that name, which is wider than the blanks of ASCII.
-/

namespace Reckoner

/-- A text is the list of its characters, so that every function on texts is a function on lists. -/
abbrev Text := List Char

namespace Text

/-- The code points with the property White_Space. -/
def blankRanges : CodeRanges :=
  [(0x09, 0x0D), (0x20, 0x20), (0x85, 0x85), (0xA0, 0xA0), (0x1680, 0x1680), (0x2000, 0x200A),
   (0x2028, 0x2029), (0x202F, 0x202F), (0x205F, 0x205F), (0x3000, 0x3000)]

/-- White space. -/
def isBlank (c : Char) : Bool := blankRanges.contains c.toNat

example : blankRanges.isSorted = true := by decide

/-- The text without the white space at its start. -/
def trimStart (text : Text) : Text := text.dropWhile isBlank

/-- The text without the white space at its end. -/
def trimEnd (text : Text) : Text := (text.reverse.dropWhile isBlank).reverse

/-- The text without the white space at either end. -/
def trim (text : Text) : Text := trimEnd (trimStart text)

/-- Whether a text holds nothing but white space. -/
def isAllBlank (text : Text) : Bool := text.all isBlank

/-- The text without any of its white space. -/
def squeeze (text : Text) : Text := text.filter (fun c => !isBlank c)

/-- The maximal runs of white space and of anything else, in order. -/
def blankRuns (text : Text) : List Text := text.splitBy (fun a b => isBlank a == isBlank b)

/-- The words of a text: its maximal runs without white space. -/
def words (text : Text) : List Text := (blankRuns text).filter (fun run => !isAllBlank run)

/-- Several texts as one, with a separator between neighbours. -/
def join (separator : Text) : List Text → Text
  | [] => []
  | [last] => last
  | first :: second :: rest => first ++ separator ++ join separator (second :: rest)

/-- Words as one text, with single spaces between them. -/
def unwords (list : List Text) : Text := join [' '] list

/-- A number of copies of one character. -/
def copies (count : Nat) (c : Char) : Text := List.replicate count c

/-- A natural number in decimal digits. -/
def ofNat (n : Nat) : Text := Nat.toDigits 10 n

/-- An integer in decimal digits, after a minus sign if it is negative. -/
def ofInt : Int → Text
  | .ofNat n => ofNat n
  | .negSucc n => '-' :: ofNat (n + 1)

/-- A number filled up with leading zeros to at least the given count of digits. -/
def padded (width : Nat) (n : Nat) : Text :=
  copies (width - (ofNat n).length) '0' ++ ofNat n

end Text

end Reckoner
