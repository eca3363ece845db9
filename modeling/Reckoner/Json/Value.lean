import Reckoner.Decimal.Notation
import Reckoner.Text.Letter

/-!
JSON values. Strings and numbers are kept as they are written, since what is only skipped need not
have a meaning: a string may hold half of a surrogate pair, and a number may lie outside any range.
Looking at a string as a text, or at a number as a number, may therefore fail.
-/

namespace Reckoner.Json

/-- A part of a string. -/
inductive Piece where
  | plain (c : Char)
  /-- Half of a surrogate pair, written as an escape. -/
  | half (code : Nat)
  deriving DecidableEq, Repr

/-- A string as it is written. -/
abbrev Quotation := List Piece

/-- A number as it is written. -/
structure Numeral where
  negative : Bool
  whole : Text
  /-- The decimals after the point, if there is one. -/
  fraction : Option Text
  /-- The sign and the digits of the exponent, if there is one. -/
  exponent : Option (Bool × Text)
  deriving DecidableEq, Repr

/-- JSON values. -/
inductive Value where
  | null
  | bool (value : Bool)
  | number (numeral : Numeral)
  | string (content : Quotation)
  | array (items : List Value)
  | object (fields : List (Quotation × Value))

/-- Whether a code is the first half of a surrogate pair. -/
def isHighHalf (code : Nat) : Bool := 0xD800 ≤ code && code < 0xDC00

/-- Whether a code is the second half of a surrogate pair. -/
def isLowHalf (code : Nat) : Bool := 0xDC00 ≤ code && code < 0xE000

/-- A text as a string. -/
def Quotation.ofText (text : Text) : Quotation := text.map .plain

/-- The text of a string, if every half of a surrogate pair has its other half after it. -/
def Quotation.text? : Quotation → Option Text
  | [] => some []
  | .plain c :: rest => (text? rest).map (c :: ·)
  | .half high :: .half low :: rest =>
    if isHighHalf high && isLowHalf low then
      (text? rest).map (Char.ofNat (0x10000 + (high - 0xD800) * 0x400 + (low - 0xDC00)) :: ·)
    else none
  | .half _ :: _ => none

theorem Quotation.text?_ofText (text : Text) : text? (ofText text) = some text := by
  induction text with
  | nil => rfl
  | cons c rest ih =>
    have : text? (.plain c :: ofText rest) = (text? (ofText rest)).map (c :: ·) := rfl
    rw [ofText, List.map_cons]
    rw [ofText] at ih this
    rw [this, ih]
    rfl

namespace Value

/-- A truth value. -/
def bool? : Value → Option Bool
  | .bool value => some value
  | _ => none

/-- The fields of a record by their names, in the order of the names. A record is an object, in
which unknown fields are passed over and a known one may stand only once, or an array of its
fields, of which the last ones may be missing. -/
def record? (names : List Text) : Value → Option (List (Option Value))
  | .object fields => do
    let keyed ← fields.mapM (fun field => (Quotation.text? field.1).map (·, field.2))
    names.mapM (fun name =>
      match keyed.filter (fun field => field.1 = name) with
      | [] => some none
      | [field] => some (some field.2)
      | _ => none)
  | .array items =>
    if items.length ≤ names.length then
      some (items.map some ++ List.replicate (names.length - items.length) none)
    else none
  | _ => none

end Value

end Reckoner.Json
