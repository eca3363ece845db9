import Reckoner.History
import Reckoner.Proofs.Calendar.Stamps
import Reckoner.Proofs.Json.RoundTrip

/-!
# The format of the history file

The text of a history file is JSON whatever the items hold (`read?_fileText`), and it gives back the
items if each field can be kept (`ofFile?_fileText`): an identifier of 64 bits, a result that its
numeral stands for, a moment with a date. The expression may be any text. Of the moment it gives
back what its stamp says.
-/

namespace Reckoner

/-- A double that the writer and the reader of numerals carry unchanged. -/
def Json.Numeral.IsCarried (x : Float) : Prop :=
  ((ofFloat? x).bind fun numeral => (read? numeral.written).bind float?) = some x

instance (x : Float) : Decidable (Json.Numeral.IsCarried x) :=
  inferInstanceAs (Decidable (_ = _))

/-- Such a double is that of its numeral. -/
theorem Json.Numeral.IsCarried.exists_numeral {x : Float} (carried : IsCarried x) :
    ∃ numeral, ofFloat? x = some numeral ∧ numeral.float? = some x := by
  rw [IsCarried] at carried
  cases finite : ofFloat? x with
  | none =>
      rw [finite] at carried
      cases carried
  | some numeral =>
      have back := read?_of_spells (spells_written (isProper_ofFloat? finite))
      rw [finite, Option.bind_some, back] at carried
      exact ⟨numeral, rfl, carried⟩

namespace HistoryItem

/-- An item that a file can keep. -/
structure IsProper (item : HistoryItem) : Prop where
  least : Json.Numeral.minInt64 ≤ item.id
  most : item.id ≤ Json.Numeral.maxInt64
  result : Json.Numeral.IsCarried item.result
  moment : item.moment.IsDated

/-- The item as a file keeps it, with the moment that its stamp says. -/
def stamped (item : HistoryItem) : HistoryItem := { item with moment := item.moment.stamped }

/-- Every item is written as JSON has it. -/
theorem isProper_toJson (item : HistoryItem) : item.toJson.IsProper := by
  refine .object ?_ ?_
  · intro field member
    obtain ⟨named, -, rfl⟩ := List.mem_map.mp member
    exact Json.Quotation.isProper_ofText named.1
  · intro field member
    obtain ⟨named, among, rfl⟩ := List.mem_map.mp member
    have text (content : Text) : (Json.Value.ofText content).IsProper :=
      .string (Json.Quotation.isProper_ofText content)
    simp only [List.mem_cons, List.not_mem_nil, or_false] at among
    rcases among with rfl | rfl | rfl | rfl
    · exact .number (Json.Numeral.isProper_ofInt item.id)
    · exact text item.expression
    · rw [Json.Value.ofFloat]
      cases finite : Json.Numeral.ofFloat? item.result with
      | none => exact .null
      | some numeral => exact .number (Json.Numeral.isProper_ofFloat? finite)
    · exact text (Stamp.text item.moment)

/-- The fields of an item are found by their names. -/
theorem record?_toJson (item : HistoryItem) :
    item.toJson.record? fieldNames =
      some [some (.number (.ofInt item.id)), some (.ofText item.expression),
        some (.ofFloat item.result), some (.ofText (Stamp.text item.moment))] := rfl

/-- **Every field of an item is got back**, the moment as its stamp says. -/
theorem ofJson?_toJson {item : HistoryItem} (proper : item.IsProper) :
    ofJson? item.toJson = some item.stamped := by
  obtain ⟨numeral, written, read⟩ := proper.result.exists_numeral
  have result : Json.Value.ofFloat item.result = .number numeral := by
    rw [Json.Value.ofFloat, written]
    rfl
  have id := Json.Numeral.int64?_ofInt proper.least proper.most
  have moment := Stamp.read?_text proper.moment
  rw [ofJson?, record?_toJson, result]
  simp only [Json.Value.ofText, Option.bind_eq_bind, Option.bind_some, id,
    Json.Quotation.text?_ofText, read, moment]
  rfl

end HistoryItem

namespace History

theorem itemsOfJson?_itemsToJson {items : List HistoryItem}
    (proper : ∀ item ∈ items, item.IsProper) :
    itemsOfJson? (itemsToJson items) = some (items.map HistoryItem.stamped) := by
  show (items.map HistoryItem.toJson).mapM HistoryItem.ofJson? = _
  induction items with
  | nil => rfl
  | cons item rest ih =>
      have first := HistoryItem.ofJson?_toJson (proper item List.mem_cons_self)
      have later := ih fun other member => proper other (List.mem_cons_of_mem _ member)
      rw [List.map_cons, List.mapM_cons, first, later]
      rfl

/-- The text of a history file is read as JSON, whatever its items hold. -/
theorem read?_fileText (items : List HistoryItem) :
    Json.read? (fileText items) = some (itemsToJson items) := by
  apply Json.read?_compact
  refine .array fun value member => ?_
  obtain ⟨item, -, rfl⟩ := List.mem_map.mp member
  exact item.isProper_toJson

/-- **A history file gives back the items that it was written for**, each with all its fields, in
their order, the moments as their stamps say. -/
theorem ofFile?_fileText {items : List HistoryItem} (proper : ∀ item ∈ items, item.IsProper) :
    ofFile? (fileText items) = some (items.map HistoryItem.stamped) := by
  rw [ofFile?, read?_fileText]
  exact itemsOfJson?_itemsToJson proper

end History

end Reckoner
