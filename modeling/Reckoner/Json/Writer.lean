import Reckoner.Json.Numeral

/-!
Writing of JSON, in one line without blanks or on many lines with an indentation of two.
-/

namespace Reckoner.Json

/-- A number of 16 bits in four hexadecimal digits. -/
def hexCode (code : Nat) : Text :=
  Text.copies (4 - (Nat.toDigits 16 code).length) '0' ++ Nat.toDigits 16 code

/-- One character of a string. -/
def escape (c : Char) : Text :=
  if c = '"' then ['\\', '"']
  else if c = '\\' then ['\\', '\\']
  else if c = '\x08' then ['\\', 'b']
  else if c = '\x0C' then ['\\', 'f']
  else if c = '\n' then ['\\', 'n']
  else if c = '\r' then ['\\', 'r']
  else if c = '\t' then ['\\', 't']
  else if c.toNat < 0x20 then ['\\', 'u'] ++ hexCode c.toNat
  else [c]

/-- One part of a string. -/
def Piece.written : Piece → Text
  | .plain c => escape c
  | .half code => ['\\', 'u'] ++ hexCode code

/-- A string between its quotes. -/
def Quotation.written (content : Quotation) : Text :=
  ['"'] ++ content.flatMap Piece.written ++ ['"']

/-- A number; its exponent always has a sign. -/
def Numeral.written (numeral : Numeral) : Text :=
  (if numeral.negative then ['-'] else []) ++ numeral.whole
    ++ (match numeral.fraction with
      | some decimals => '.' :: decimals
      | none => [])
    ++ (match numeral.exponent with
      | some (negative, digits) => 'e' :: (if negative then '-' else '+') :: digits
      | none => [])

namespace Value

/-- A double, or null where it is not finite. -/
def ofFloat (x : Float) : Value := (Numeral.ofFloat? x).elim .null .number

/-- A text. -/
def ofText (text : Text) : Value := .string (Quotation.ofText text)

/-- A record by the names and the values of its fields. -/
def ofFields (fields : List (Text × Value)) : Value :=
  .object (fields.map (fun field => (Quotation.ofText field.1, field.2)))

/-- The words of JSON. -/
def nullWord : Text := "null".toList

/-- The word for a truth value. -/
def boolWord (value : Bool) : Text := if value then "true".toList else "false".toList

mutual

/-- A value without any white space. -/
def compact : Value → Text
  | .null => nullWord
  | .bool value => boolWord value
  | .number numeral => numeral.written
  | .string content => content.written
  | .array items => ['['] ++ compactItems items ++ [']']
  | .object fields => ['\x7b'] ++ compactFields fields ++ ['\x7d']

/-- The items of an array, with commas between them. -/
def compactItems : List Value → Text
  | [] => []
  | [item] => compact item
  | item :: second :: rest => compact item ++ [','] ++ compactItems (second :: rest)

/-- The fields of an object, with commas between them. -/
def compactFields : List (Quotation × Value) → Text
  | [] => []
  | [(key, value)] => key.written ++ [':'] ++ compact value
  | (key, value) :: second :: rest =>
    key.written ++ [':'] ++ compact value ++ [','] ++ compactFields (second :: rest)

end

/-- The start of a line at a depth. -/
def newLine (depth : Nat) : Text := '\n' :: Text.copies (2 * depth) ' '

mutual

/-- A value with each item and each field on a line of its own. -/
def spread (depth : Nat) : Value → Text
  | .null => nullWord
  | .bool value => boolWord value
  | .number numeral => numeral.written
  | .string content => content.written
  | .array [] => ['[', ']']
  | .array (item :: rest) =>
    ['['] ++ spreadItems (depth + 1) (item :: rest) ++ newLine depth ++ [']']
  | .object [] => ['\x7b', '\x7d']
  | .object (field :: rest) =>
    ['\x7b'] ++ spreadFields (depth + 1) (field :: rest) ++ newLine depth ++ ['\x7d']

/-- The items of an array on lines of their own. -/
def spreadItems (depth : Nat) : List Value → Text
  | [] => []
  | [item] => newLine depth ++ spread depth item
  | item :: second :: rest =>
    newLine depth ++ spread depth item ++ [','] ++ spreadItems depth (second :: rest)

/-- The fields of an object on lines of their own. -/
def spreadFields (depth : Nat) : List (Quotation × Value) → Text
  | [] => []
  | [(key, value)] => newLine depth ++ key.written ++ [':', ' '] ++ spread depth value
  | (key, value) :: second :: rest =>
    newLine depth ++ key.written ++ [':', ' '] ++ spread depth value ++ [',']
      ++ spreadFields depth (second :: rest)

end

/-- A value on many lines. -/
def pretty (value : Value) : Text := spread 0 value

end Value

end Reckoner.Json
