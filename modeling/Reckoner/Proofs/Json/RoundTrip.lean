import Reckoner.Proofs.Json.Reading

/-!
# A value is read as it is written

What is written for a value spells it: on one line (`spells_compact`) and on many (`spells_spread`),
which differ only in the gaps between the parts. So both texts are read back. The value needs to be
one that JSON has (`Value.IsProper`): its numerals are proper, and escaped halves are halves of
surrogate pairs.
-/

namespace Reckoner.Json

/-! ## Values that JSON has -/

/-- A part of a string that can be written. -/
def Piece.IsProper : Piece → Prop
  | .plain _ => True
  | .half code => (isHighHalf code || isLowHalf code) = true

/-- A string that can be written. -/
def Quotation.IsProper (content : Quotation) : Prop := ∀ piece ∈ content, piece.IsProper

theorem Quotation.isProper_ofText (text : Text) : IsProper (ofText text) := by
  intro piece member
  obtain ⟨c, -, rfl⟩ := List.mem_map.mp member
  trivial

/-- A value that can be written. -/
inductive Value.IsProper : Value → Prop where
  | null : IsProper .null
  | bool (value : Bool) : IsProper (.bool value)
  | number {numeral : Numeral} (proper : numeral.IsProper) : IsProper (.number numeral)
  | string {content : Quotation} (proper : content.IsProper) : IsProper (.string content)
  | array {items : List Value} (all : ∀ item ∈ items, IsProper item) : IsProper (.array items)
  | object {fields : List (Quotation × Value)} (keys : ∀ field ∈ fields, field.1.IsProper)
      (all : ∀ field ∈ fields, IsProper field.2) : IsProper (.object fields)

/-! ## Strings -/

/-- A digit behind the ones before it. -/
theorem toDigits_of_large {n : Nat} (large : 16 ≤ n) :
    Nat.toDigits 16 n = Nat.toDigits 16 (n / 16) ++ [Nat.digitChar (n % 16)] :=
  Nat.toDigits_of_base_le (by decide) large

/-- The four digits of a code. -/
theorem hexCode_eq {code : Nat} (small : code < 65536) :
    hexCode code = [Nat.digitChar (code / 4096), Nat.digitChar (code / 256 % 16),
      Nat.digitChar (code / 16 % 16), Nat.digitChar (code % 16)] := by
  have zero : Nat.digitChar 0 = '0' := rfl
  have second : code / 16 / 16 = code / 256 := Nat.div_div_eq_div_mul code 16 16
  have third : code / 256 / 16 = code / 4096 := Nat.div_div_eq_div_mul code 256 16
  -- As many digits as the size of the code asks for, and zeros before them.
  rcases Nat.lt_or_ge code 16 with one | more
  · have zeros : code / 4096 = 0 ∧ code / 256 % 16 = 0 ∧ code / 16 % 16 = 0 ∧ code % 16 = code := by
      omega
    rw [hexCode, Nat.toDigits_of_lt_base one, zeros.1, zeros.2.1, zeros.2.2.1, zeros.2.2.2, zero]
    rfl
  · rw [hexCode, toDigits_of_large more]
    rcases Nat.lt_or_ge code 256 with two | more
    · have zeros : code / 4096 = 0 ∧ code / 256 % 16 = 0 ∧ code / 16 % 16 = code / 16 := by omega
      rw [Nat.toDigits_of_lt_base (by omega : code / 16 < 16), zeros.1, zeros.2.1, zeros.2.2, zero]
      rfl
    · rw [toDigits_of_large (by omega : 16 ≤ code / 16), second]
      rcases Nat.lt_or_ge code 4096 with three | more
      · have zeros : code / 4096 = 0 ∧ code / 256 % 16 = code / 256 := by omega
        rw [Nat.toDigits_of_lt_base (by omega : code / 256 < 16), zeros.1, zeros.2, zero]
        rfl
      · rw [toDigits_of_large (by omega : 16 ≤ code / 256), third,
          Nat.toDigits_of_lt_base (by omega : code / 4096 < 16)]
        rfl

/-- An escaped code spells what it stands for, if it fits sixteen bits. -/
theorem spells_hexCode {code : Nat} (small : code < 65536) :
    Piece.Spells ('\\' :: 'u' :: hexCode code) (Piece.ofCode code) := by
  have digit {n : Nat} (small : n < 16) : IsHexDigit (Nat.digitChar n) n := ⟨small, .inl rfl⟩
  have whole : ((code / 4096 * 16 + code / 256 % 16) * 16 + code / 16 % 16) * 16 + code % 16 =
      code := by omega
  have spells := Piece.Spells.code (digit (by omega : code / 4096 < 16))
    (digit (by omega : code / 256 % 16 < 16)) (digit (by omega : code / 16 % 16 < 16))
    (digit (by omega : code % 16 < 16))
  rwa [whole, ← hexCode_eq small] at spells

/-- A character is written in one of its ways. -/
theorem spells_escape (c : Char) : Piece.Spells (escape c) (.plain c) := by
  by_cases special : c ∈ ['"', '\\', '\x08', '\x0C', '\n', '\r', '\t']
  · simp only [List.mem_cons, List.not_mem_nil, or_false] at special
    rcases special with rfl | rfl | rfl | rfl | rfl | rfl | rfl
    all_goals exact .escape (by decide)
  · simp only [List.mem_cons, List.not_mem_nil, or_false, not_or] at special
    obtain ⟨quote, slash, back, feed, line, turn, tab⟩ := special
    rw [escape, if_neg quote, if_neg slash, if_neg back, if_neg feed, if_neg line, if_neg turn,
      if_neg tab]
    -- A control character is spelt by its code, since no half of a pair is that small.
    by_cases control : c.toNat < 0x20
    · have code : Piece.ofCode c.toNat = .plain c := by
        have other : (isHighHalf c.toNat || isLowHalf c.toNat) = false := by
          simp only [isHighHalf, isLowHalf, Bool.or_eq_false_iff, Bool.and_eq_false_iff,
            decide_eq_false_iff_not]
          omega
        rw [Piece.ofCode, other, Char.ofNat_toNat]
        rfl
      have spells := spells_hexCode (by omega : c.toNat < 65536)
      rw [code] at spells
      rw [if_pos control]
      exact spells
    · rw [if_neg control]
      exact .plain (Nat.not_lt.mp control) quote slash

theorem Piece.spells_written {piece : Piece} (proper : piece.IsProper) :
    piece.Spells piece.written := by
  cases piece with
  | plain c => exact spells_escape c
  | half code =>
      have same : Piece.ofCode code = .half code := if_pos proper
      have small : code < 65536 := by
        rw [Piece.IsProper, isHighHalf, isLowHalf] at proper
        simp only [Bool.or_eq_true, Bool.and_eq_true, decide_eq_true_eq] at proper
        omega
      have spells := spells_hexCode small
      rw [same] at spells
      exact spells

/-- A string is written in one of its ways. -/
theorem Quotation.spells_written {content : Quotation} (proper : content.IsProper) :
    Spells content.written content := by
  have inside : SpellsInside (content.flatMap Piece.written) content := by
    induction content with
    | nil => exact .nil
    | cons piece rest ih =>
        rw [List.flatMap_cons]
        refine .cons (Piece.spells_written (proper piece List.mem_cons_self)) (ih ?_)
        exact fun other member => proper other (List.mem_cons_of_mem _ member)
  exact .quoted inside

/-! ## Arrays and objects -/

/-- Texts with commas between them, each behind a gap. -/
def joined (gap : Text) : List Text → Text
  | [] => []
  | [text] => gap ++ text
  | text :: second :: rest => gap ++ text ++ [','] ++ joined gap (second :: rest)

/-- The text of a field, with a gap behind the colon. -/
def fieldText (space : Text) (text : Value → Text) (field : Quotation × Value) : Text :=
  field.1.written ++ ':' :: (space ++ text field.2)

section Containers

variable {gap closing : Text} (text : Value → Text) (blank : IsGap gap) (final : IsGap closing)

include blank final

/-- Items that are joined spell their list; the gap in front of the end belongs to the last one. -/
theorem spells_items {item : Value} {others : List Value}
    (all : ∀ value ∈ item :: others, Spells (text value) (.value value)) :
    Spells (joined gap ((item :: others).map text) ++ closing) (.items (item :: others)) := by
  have first := all item List.mem_cons_self
  induction others generalizing item with
  | nil =>
      rw [List.map_singleton, joined, List.append_assoc]
      exact .item blank first final
  | cons second others ih =>
      have later : ∀ value ∈ second :: others, Spells (text value) (.value value) :=
        fun value member => all value (List.mem_cons_of_mem _ member)
      have spells := Spells.items (.item blank first isGap_nil)
        (ih later (later _ List.mem_cons_self))
      simpa [joined] using spells

/-- A field by itself, between two gaps. -/
theorem spells_field {space : Text} (colon : IsGap space) {field : Quotation × Value}
    (key : field.1.IsProper) (spells : Spells (text field.2) (.value field.2)) :
    Spells (gap ++ (fieldText space text field ++ closing)) (.fields [field]) := by
  rw [fieldText, List.append_assoc, List.cons_append, List.append_assoc]
  exact .field blank (Quotation.spells_written key) isGap_nil colon spells final

/-- Fields that are joined spell their list. -/
theorem spells_fields {space : Text} (colon : IsGap space) {field : Quotation × Value}
    {others : List (Quotation × Value)} (keys : ∀ entry ∈ field :: others, entry.1.IsProper)
    (all : ∀ entry ∈ field :: others, Spells (text entry.2) (.value entry.2)) :
    Spells (joined gap ((field :: others).map (fieldText space text)) ++ closing)
      (.fields (field :: others)) := by
  have key := keys field List.mem_cons_self
  have first := all field List.mem_cons_self
  induction others generalizing field with
  | nil =>
      rw [List.map_singleton, joined, List.append_assoc]
      exact spells_field text blank final colon key first
  | cons second others ih =>
      have laterKeys : ∀ entry ∈ second :: others, entry.1.IsProper :=
        fun entry member => keys entry (List.mem_cons_of_mem _ member)
      have later : ∀ entry ∈ second :: others, Spells (text entry.2) (.value entry.2) :=
        fun entry member => all entry (List.mem_cons_of_mem _ member)
      have spells := Spells.fields (spells_field text blank isGap_nil colon key first)
        (ih laterKeys later (laterKeys _ List.mem_cons_self) (later _ List.mem_cons_self))
      simpa [joined] using spells

end Containers

/-! ## Texts without white space -/

theorem compactItems_eq (items : List Value) :
    Value.compactItems items = joined [] (items.map Value.compact) := by
  induction items with
  | nil => rfl
  | cons item others ih =>
      cases others with
      | nil => rfl
      | cons second others =>
          rw [Value.compactItems, ih]
          rfl

theorem compactFields_eq (fields : List (Quotation × Value)) :
    Value.compactFields fields = joined [] (fields.map (fieldText [] Value.compact)) := by
  induction fields with
  | nil => rfl
  | cons field others ih =>
      obtain ⟨key, value⟩ := field
      cases others with
      | nil => simp [Value.compactFields, joined, fieldText]
      | cons second others =>
          rw [Value.compactFields, ih]
          simp only [List.map_cons, joined, fieldText, List.append_assoc, List.nil_append,
            List.cons_append]

/-- **What is written for a value spells it.** -/
theorem spells_compact {value : Value} (proper : value.IsProper) :
    Spells value.compact (.value value) := by
  induction proper with
  | null => exact .null
  | bool value => exact .bool value
  | number proper => exact .number (Numeral.spells_written proper)
  | string proper => exact .string (Quotation.spells_written proper)
  | @array items _ ih =>
      cases items with
      | nil => exact .emptyArray isGap_nil
      | cons item others =>
          have inside := spells_items Value.compact isGap_nil isGap_nil ih
          rw [List.append_nil, ← compactItems_eq] at inside
          exact .array inside
  | @object fields keys _ ih =>
      cases fields with
      | nil => exact .emptyObject isGap_nil
      | cons field others =>
          have inside := spells_fields Value.compact isGap_nil isGap_nil isGap_nil keys ih
          rw [List.append_nil, ← compactFields_eq] at inside
          exact .object inside

/-! ## Texts on many lines -/

theorem isGap_newLine (depth : Nat) : IsGap (Value.newLine depth) := by
  intro c member
  rcases List.mem_cons.mp member with rfl | blank
  · rfl
  · rw [List.eq_of_mem_replicate blank]
    rfl

theorem spreadItems_eq (depth : Nat) (items : List Value) :
    Value.spreadItems depth items =
      joined (Value.newLine depth) (items.map (Value.spread depth)) := by
  induction items with
  | nil => rfl
  | cons item others ih =>
      cases others with
      | nil => rfl
      | cons second others =>
          rw [Value.spreadItems, ih]
          rfl

theorem spreadFields_eq (depth : Nat) (fields : List (Quotation × Value)) :
    Value.spreadFields depth fields =
      joined (Value.newLine depth) (fields.map (fieldText [' '] (Value.spread depth))) := by
  induction fields with
  | nil => rfl
  | cons field others ih =>
      obtain ⟨key, value⟩ := field
      cases others with
      | nil => simp [Value.spreadFields, joined, fieldText]
      | cons second others =>
          rw [Value.spreadFields, ih]
          simp only [List.map_cons, joined, fieldText, List.append_assoc, List.cons_append,
            List.nil_append]

/-- **What is written on many lines for a value spells it** as well. -/
theorem spells_spread {value : Value} (proper : value.IsProper) (depth : Nat) :
    Spells (value.spread depth) (.value value) := by
  have colon : IsGap [' '] := fun c member => List.mem_singleton.mp member ▸ rfl
  induction proper generalizing depth with
  | null => exact .null
  | bool value => exact .bool value
  | number proper => exact .number (Numeral.spells_written proper)
  | string proper => exact .string (Quotation.spells_written proper)
  | @array items _ ih =>
      cases items with
      | nil => exact .emptyArray isGap_nil
      | cons item others =>
          have inside := spells_items (Value.spread (depth + 1)) (isGap_newLine (depth + 1))
            (isGap_newLine depth) fun value member => ih value member (depth + 1)
          rw [← spreadItems_eq] at inside
          simpa [Value.spread] using Spells.array inside
  | @object fields keys _ ih =>
      cases fields with
      | nil => exact .emptyObject isGap_nil
      | cons field others =>
          have inside := spells_fields (Value.spread (depth + 1)) (isGap_newLine (depth + 1))
            (isGap_newLine depth) colon keys fun field member => ih field member (depth + 1)
          rw [← spreadFields_eq] at inside
          simpa [Value.spread] using Spells.object inside

/-! ## Documents -/

/-- **A value is read as it is written.** -/
theorem read?_compact {value : Value} (proper : value.IsProper) :
    read? value.compact = some value :=
  read?_of_isDocument (spells_compact proper).isDocument

/-- **A value is read as it is written on many lines.** -/
theorem read?_pretty {value : Value} (proper : value.IsProper) :
    read? value.pretty = some value :=
  read?_of_isDocument (spells_spread proper 0).isDocument

end Reckoner.Json
