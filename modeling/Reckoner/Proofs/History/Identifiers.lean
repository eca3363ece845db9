import Reckoner.Proofs.History.Recent

/-!
# Whether identifiers are unique

A new item takes its identifier from the clock and from the first item that is kept, and looks at no
other. A file can hold any identifiers of 64 bits in any order (`id_le_of_readItems`), so the new
identifier can be there already after a file has been read (`Clashes`): at the first item, if no
identifier is greater, or behind it, if an item there has a greater identifier than the first.
-/

namespace Reckoner

/-! ## What a file can hold -/

/-- The identifier of an item in a file has 64 bits. -/
theorem HistoryItem.id_le_of_ofJson? {value : Json.Value} {item : HistoryItem}
    (read : ofJson? value = some item) : item.id ≤ History.maxId := by
  unfold ofJson? at read
  rw [Option.bind_eq_bind, Option.bind_eq_some_iff] at read
  obtain ⟨fields, -, read⟩ := read
  split at read
  · simp only [Option.bind_eq_bind, Option.bind_eq_some_iff] at read
    obtain ⟨id, found, expression, -, result, -, moment, -, same⟩ := read
    cases same
    obtain ⟨-, range⟩ := Option.filter_eq_some_iff.mp found
    rw [Bool.and_eq_true, decide_eq_true_eq, decide_eq_true_eq] at range
    exact range.2
  · cases read

namespace History

theorem id_le_of_mapM {values : List Json.Value} {items : List HistoryItem}
    (read : values.mapM HistoryItem.ofJson? = some items) : ∀ item ∈ items, item.id ≤ maxId := by
  induction values generalizing items with
  | nil =>
      cases read
      intro item member
      cases member
  | cons value rest ih =>
      rw [List.mapM_cons] at read
      simp only [Option.bind_eq_bind, Option.bind_eq_some_iff] at read
      obtain ⟨first, found, others, behind, same⟩ := read
      cases same
      exact List.forall_mem_cons.mpr ⟨HistoryItem.id_le_of_ofJson? found, ih behind⟩

/-- No item of a file has an identifier above the greatest one. -/
theorem id_le_of_readItems (store : Store) (path : Text) :
    ∀ item ∈ (readItems store path).1, item.id ≤ maxId := by
  have nothing : ∀ item ∈ ([] : List HistoryItem), item.id ≤ maxId := by
    intro item member
    cases member
  unfold readItems
  split
  · exact nothing
  · split
    · exact nothing
    · split
      · rename_i content _ items held
        rw [ofFile?, Option.bind_eq_bind, Option.bind_eq_some_iff] at held
        obtain ⟨value, -, read⟩ := held
        cases value with
        | array values => exact id_le_of_mapM read
        | _ => cases read
      · exact nothing

/-! ## When an identifier is taken twice -/

/-- The items beside a new one, newest first, hold the identifier that the new one gets. -/
inductive Clashes (moment : Moment) : List HistoryItem → Prop where
  /-- There is no identifier above the first. -/
  | exhausted {newest : HistoryItem} {older : List HistoryItem} (greatest : newest.id = maxId) :
      Clashes moment (newest :: older)
  /-- An item behind the first has a greater identifier, and just the one that comes next. -/
  | overtaken {newest item : HistoryItem} {older : List HistoryItem} (behind : item ∈ older)
      (above : newest.id < item.id) (next : item.id = max moment.millis (newest.id + 1)) :
      Clashes moment (newest :: older)

/-- **The next identifier is new unless it clashes.** -/
theorem next_ne_iff {moment : Moment} {newest : HistoryItem} {older : List HistoryItem}
    (bounded : ∀ item ∈ newest :: older, item.id ≤ maxId) (early : moment.millis ≤ maxId) :
    (∀ item ∈ newest :: older, item.id ≠ max moment.millis (min (newest.id + 1) maxId)) ↔
      ¬Clashes moment (newest :: older) := by
  obtain ⟨top, others⟩ := List.forall_mem_cons.mp bounded
  constructor
  · rintro distinct (greatest | ⟨behind, above, next⟩)
    · have first := distinct newest List.mem_cons_self
      omega
    · rename_i item
      have other := distinct item (List.mem_cons_of_mem newest behind)
      have most := others item behind
      omega
  · intro free item member same
    by_cases greatest : newest.id = maxId
    · exact free (.exhausted greatest)
    · rcases List.mem_cons.mp member with rfl | behind
      · omega
      · exact free (.overtaken behind (by omega) (by omega))

/-- **Identifiers after a file has been read.** Whatever a file holds, a calculation that is added
then comes first, before as many of the items of the file as fit, and gets an identifier that none
of these has, unless they clash with it. -/
theorem id_of_add_load (store : Store) (path : Text) (limit : Nat) (expression : Text)
    (result : Float) {moment : Moment} (dated : moment.IsDated) :
    ∃ id, moment.millis ≤ id ∧
      ((load store path limit).1.add (load store path limit).2 expression result moment).1.items =
        (⟨id, expression, result, moment⟩ :: (readItems store path).1).take limit ∧
      ((∀ item ∈ (readItems store path).1.take (limit - 1), item.id ≠ id) ↔
        ¬Clashes moment ((readItems store path).1.take (limit - 1))) := by
  have bounded := id_le_of_readItems store path
  have early : moment.millis ≤ maxId := dated.millis.2
  refine ⟨max moment.millis (nextId ((readItems store path).1.take limit)),
    Int.le_max_left _ _, take_cons_take _ _ _, ?_⟩
  generalize (readItems store path).1 = items at bounded ⊢
  -- Nothing stands beside the new item if there were no items or there is no room for two.
  have alone (any : Int) : (∀ item ∈ ([] : List HistoryItem), item.id ≠ any) ↔
      ¬Clashes moment [] :=
    iff_of_true (fun item member => nomatch member) (fun clash => nomatch clash)
  match items, limit with
  | [], _ =>
      rw [List.take_nil]
      exact alone _
  | _ :: _, 0 => exact alone _
  | _ :: _, 1 => exact alone _
  | newest :: older, limit + 2 =>
      refine next_ne_iff (fun item member => bounded item ?_) early
      exact List.mem_of_mem_take (i := limit + 1) member

/-- A disk with a history file of some items. -/
def filed (items : List HistoryItem) : Store :=
  { disk := { entries := [(["history.json".toList], .file (fileText items))] } }

/-- Two items in the order of time, so that the newest one comes last. -/
def chronological : List HistoryItem :=
  [⟨1000, "1+1".toList, 2, ⟨1, 0⟩⟩, ⟨2000, "2+2".toList, 4, ⟨2, 0⟩⟩]

/-- An item with the greatest identifier. -/
def exhausted : List HistoryItem := [⟨maxId, "1+1".toList, 2, ⟨1, 0⟩⟩]

theorem id_of_add_load_between :
    (Moment.mk 1 1500000000).IsDated ∧
      ∃ id, 2500 ≤ id ∧ ∀ item ∈ (readItems (filed chronological) "history.json".toList).1.take 2,
        item.id ≠ id := by
  have dated : (Moment.mk 1 1500000000).IsDated := ⟨by decide, by decide⟩
  obtain ⟨id, least, -, distinct⟩ := id_of_add_load (filed chronological) "history.json".toList 3
    "3+3".toList 6 dated
  have read : (readItems (filed chronological) "history.json".toList).1 = chronological := by
    decide +kernel
  refine ⟨dated, id, least, distinct.mpr ?_⟩
  rw [read]
  rintro (greatest | ⟨behind, above, next⟩)
  · exact absurd greatest (by decide)
  · obtain rfl := List.mem_singleton.mp behind
    exact absurd next (by decide)

/-- **An identifier is taken twice.** A calculation in the same millisecond as the last item of a
file gets its identifier if a lower one stands first, and one that is added behind the greatest
identifier gets that. -/
theorem clash_after_load :
    ((load (filed chronological) "history.json".toList 50).1.add (filed chronological)
        "3+3".toList 6 ⟨2, 0⟩).1.items.map HistoryItem.id = [2000, 1000, 2000] ∧
      ((load (filed exhausted) "history.json".toList 50).1.add (filed exhausted)
        "3+3".toList 6 ⟨2, 0⟩).1.items.map HistoryItem.id = [maxId, maxId] := by
  decide +kernel

end History

end Reckoner
