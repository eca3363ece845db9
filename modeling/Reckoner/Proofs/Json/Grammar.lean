import Reckoner.Proofs.Json.Numerals

/-!
# The grammar of JSON

The texts that spell a value (`Spells`), and those that hold it as a whole document (`IsDocument`).
White space may stand between all parts; a character of a string may stand by itself or as any of
its escapes, which may also spell half of a surrogate pair; arrays and objects nest without a limit.
-/

namespace Reckoner.Json

/-! ## Strings -/

/-- The letters behind a backslash and the characters that they stand for. -/
def escapes : List (Char × Char) :=
  [('"', '"'), ('\\', '\\'), ('/', '/'), ('b', '\x08'), ('f', '\x0C'), ('n', '\n'), ('r', '\r'),
   ('t', '\t')]

/-- A hexadecimal digit, in either case, and its value. -/
def IsHexDigit (c : Char) (digit : Nat) : Prop :=
  digit < 16 ∧ (c = Nat.digitChar digit ∨ c = (Nat.digitChar digit).toUpper)

/-- The texts of one part of a string. -/
inductive Piece.Spells : Text → Piece → Prop where
  | plain {c : Char} (visible : 0x20 ≤ c.toNat) (quote : c ≠ '"') (slash : c ≠ '\\') :
      Spells [c] (.plain c)
  | escape {letter c : Char} (entry : (letter, c) ∈ escapes) : Spells ['\\', letter] (.plain c)
  | code {a b c d : Char} {w x y z : Nat} (first : IsHexDigit a w) (second : IsHexDigit b x)
      (third : IsHexDigit c y) (fourth : IsHexDigit d z) :
      Spells ['\\', 'u', a, b, c, d] (Piece.ofCode (((w * 16 + x) * 16 + y) * 16 + z))

/-- The texts between the quotes of a string. -/
inductive Quotation.SpellsInside : Text → Quotation → Prop where
  | nil : SpellsInside [] []
  | cons {text others : Text} {piece : Piece} {rest : Quotation} (first : Piece.Spells text piece)
      (behind : SpellsInside others rest) : SpellsInside (text ++ others) (piece :: rest)

/-- The texts of a string. -/
inductive Quotation.Spells : Text → Quotation → Prop where
  | quoted {text : Text} {content : Quotation} (inside : SpellsInside text content) :
      Spells ('"' :: (text ++ ['"'])) content

/-! ## Values -/

/-- White space between the parts of a value. -/
def IsGap (gap : Text) : Prop := ∀ c ∈ gap, isSpace c = true

/-- What a part of a text spells: a value, or what stands between the brackets of an array or the
braces of an object. -/
inductive Part where
  | value (value : Value)
  /-- Items of an array, at least one. -/
  | items (items : List Value)
  /-- Fields of an object, at least one. -/
  | fields (fields : List (Quotation × Value))

/-- The texts of a part. -/
inductive Spells : Text → Part → Prop where
  | null : Spells Value.nullWord (.value .null)
  | bool (value : Bool) : Spells (Value.boolWord value) (.value (.bool value))
  | number {text : Text} {numeral : Numeral} (spells : Numeral.Spells text numeral) :
      Spells text (.value (.number numeral))
  | string {text : Text} {content : Quotation} (spells : Quotation.Spells text content) :
      Spells text (.value (.string content))
  | emptyArray {gap : Text} (blank : IsGap gap) :
      Spells ('[' :: (gap ++ [']'])) (.value (.array []))
  | array {text : Text} {items : List Value} (inside : Spells text (.items items)) :
      Spells ('[' :: (text ++ [']'])) (.value (.array items))
  | emptyObject {gap : Text} (blank : IsGap gap) :
      Spells ('\x7b' :: (gap ++ ['\x7d'])) (.value (.object []))
  | object {text : Text} {fields : List (Quotation × Value)}
      (inside : Spells text (.fields fields)) :
      Spells ('\x7b' :: (text ++ ['\x7d'])) (.value (.object fields))
  | item {before text after : Text} {value : Value} (start : IsGap before)
      (spells : Spells text (.value value)) (final : IsGap after) :
      Spells (before ++ (text ++ after)) (.items [value])
  | items {text others : Text} {value : Value} {rest : List Value}
      (first : Spells text (.items [value])) (behind : Spells others (.items rest)) :
      Spells (text ++ ',' :: others) (.items (value :: rest))
  | field {before name between colon text after : Text} {key : Quotation} {value : Value}
      (start : IsGap before) (named : Quotation.Spells name key) (middle : IsGap between)
      (next : IsGap colon) (spells : Spells text (.value value)) (final : IsGap after) :
      Spells (before ++ (name ++ (between ++ ':' :: (colon ++ (text ++ after)))))
        (.fields [(key, value)])
  | fields {text others : Text} {field : Quotation × Value} {rest : List (Quotation × Value)}
      (first : Spells text (.fields [field])) (behind : Spells others (.fields rest)) :
      Spells (text ++ ',' :: others) (.fields (field :: rest))

/-- The texts that hold a value, with white space around it. -/
inductive IsDocument : Text → Value → Prop where
  | document {before text after : Text} {value : Value} (start : IsGap before)
      (spells : Spells text (.value value)) (final : IsGap after) :
      IsDocument (before ++ (text ++ after)) value

theorem isGap_nil : IsGap [] := fun _ member => (List.not_mem_nil member).elim

/-- A text of a value is a document by itself. -/
theorem Spells.isDocument {text : Text} {value : Value} (spells : Spells text (.value value)) :
    IsDocument text value := by
  have alone := IsDocument.document isGap_nil spells isGap_nil
  rwa [List.append_nil] at alone

end Reckoner.Json
