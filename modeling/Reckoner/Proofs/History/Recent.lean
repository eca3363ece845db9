import Mathlib.Data.List.Induction
import Reckoner.Proofs.History.Persistence

/-!
# What the history holds

A history holds the calculations since it was last cleared, newest first and cut to its limit
(`map_items_record`). Identifiers are taken from a clock that may stand still or go back, yet they
decrease along the list: the newest item kept bounds the others, and every moment leaves room for
more identifiers above it than there are changes (`Ordered.record`).
-/

namespace Reckoner

/-! ## Contents -/

/-- What is recorded of a calculation: its expression, its result and its moment. -/
def HistoryItem.content (item : HistoryItem) : Text × Float × Moment :=
  (item.expression, item.result, item.moment)

namespace History

theorem take_cons_take {α : Type} (first : α) (rest : List α) (limit : Nat) :
    (first :: rest.take limit).take limit = (first :: rest).take limit := by
  cases limit with
  | zero => rfl
  | succ limit =>
      rw [List.take_succ_cons, List.take_succ_cons, List.take_take,
        Nat.min_eq_left (Nat.le_succ limit)]

/-- A calculation comes in front of the others, and what no longer fits is cut off at the end. -/
theorem map_items_record {α : Type} (view : HistoryItem → α) {history : History} {seen : List α}
    (held : history.items.map view = seen.take history.limit) (expression : Text) (result : Float)
    (moment : Moment) :
    (history.record expression result moment).items.map view =
      (view ⟨max moment.millis (nextId history.items), expression, result, moment⟩ :: seen).take
        history.limit := by
  show (List.take history.limit (_ :: history.items)).map view = _
  rw [List.map_take, List.map_cons, held, take_cons_take]

/-- What a change adds. -/
def Change.content? : Change → Option (Text × Float × Moment)
  | .add expression result moment => some (expression, result, moment)
  | .clear | .save => none

/-- Whether a change forgets everything before it. -/
def Change.isClear : Change → Bool
  | .clear => true
  | .add .. | .save => false

/-- The additions since the last clear, newest first. -/
def additions (changes : List Change) : List (Text × Float × Moment) :=
  (changes.reverse.takeWhile (fun change => !change.isClear)).filterMap Change.content?

theorem additions_concat (changes : List Change) (change : Change) :
    additions (changes ++ [change]) =
      match change with
      | .add expression result moment => (expression, result, moment) :: additions changes
      | .clear => []
      | .save => additions changes := by
  rw [additions, List.reverse_append, List.reverse_singleton, List.singleton_append]
  cases change with
  | add expression result moment => rfl
  | clear => rfl
  | save => rfl

theorem applyAll_concat (changes : List Change) (change : Change) (state : History × Store) :
    applyAll (changes ++ [change]) state = change.apply (applyAll changes state) :=
  List.foldl_append

theorem limit_apply (change : Change) (state : History × Store) :
    (change.apply state).1.limit = state.1.limit := by
  cases change with
  | add expression result moment => rfl
  | clear => rfl
  | save => rfl

theorem limit_applyAll (changes : List Change) (state : History × Store) :
    (applyAll changes state).1.limit = state.1.limit := by
  induction changes using List.reverseRecOn with
  | nil => rfl
  | append_singleton changes change ih => rw [applyAll_concat, limit_apply, ih]

/-- The items are the additions since the last clear, as far as they fit. -/
theorem content_applyAll (changes : List Change) {state : History × Store}
    (empty : state.1.items = []) :
    (applyAll changes state).1.items.map HistoryItem.content =
      (additions changes).take state.1.limit := by
  induction changes using List.reverseRecOn with
  | nil =>
      show state.1.items.map _ = List.take _ []
      rw [empty, List.map_nil, List.take_nil]
  | append_singleton changes change ih =>
      rw [applyAll_concat, additions_concat]
      cases change with
      | add expression result moment =>
          rw [← limit_applyAll changes state] at ih ⊢
          exact map_items_record HistoryItem.content ih expression result moment
      | clear => exact List.take_nil.symm
      | save => exact ih

/-! ## Identifiers -/

/-- Items whose identifiers decrease, each at least the milliseconds of its moment and none above a
bound. -/
structure Ordered (bound : Int) (items : List HistoryItem) : Prop where
  descending : items.Pairwise (fun newer older => older.id < newer.id)
  timely : ∀ item ∈ items, item.moment.millis ≤ item.id
  bounded : ∀ item ∈ items, item.id ≤ bound

theorem Ordered.nil (bound : Int) : Ordered bound [] :=
  ⟨.nil, fun _ member => (List.not_mem_nil member).elim,
    fun _ member => (List.not_mem_nil member).elim⟩

theorem Ordered.mono {bound greater : Int} {items : List HistoryItem}
    (ordered : Ordered bound items) (le : bound ≤ greater) : Ordered greater items :=
  ⟨ordered.descending, ordered.timely,
    fun item member => Int.le_trans (ordered.bounded item member) le⟩

/-- While there is room, the next identifier is above all others and raises the bound by one. -/
theorem Ordered.above {bound : Int} {items : List HistoryItem} (ordered : Ordered bound items)
    (least : Json.Numeral.minInt64 ≤ bound) (room : bound < maxId) :
    (∀ item ∈ items, item.id < nextId items) ∧ nextId items ≤ bound + 1 := by
  cases items with
  | nil =>
      refine ⟨fun _ member => (List.not_mem_nil member).elim, ?_⟩
      show Json.Numeral.minInt64 + 1 ≤ bound + 1
      omega
  | cons newest older =>
      have top := ordered.bounded newest List.mem_cons_self
      have next : nextId (newest :: older) = newest.id + 1 := Int.min_eq_left (by omega)
      rw [next]
      refine ⟨fun item member => ?_, by omega⟩
      rcases List.mem_cons.mp member with rfl | behind
      · omega
      · have below := List.rel_of_pairwise_cons ordered.descending behind
        omega

/-- **A calculation gets an identifier above all that are kept**, whatever its moment. -/
theorem Ordered.record {bound : Int} {history : History} (ordered : Ordered bound history.items)
    (least : Json.Numeral.minInt64 ≤ bound) (room : bound < maxId) (expression : Text)
    (result : Float) {moment : Moment} (early : moment.millis ≤ bound + 1) :
    Ordered (bound + 1) (history.record expression result moment).items := by
  obtain ⟨above, next⟩ := ordered.above least room
  have raised := ordered.mono (by omega : bound ≤ bound + 1)
  -- Cutting the list off at its end keeps all three properties.
  have cut : ((⟨max moment.millis (History.nextId history.items), expression, result, moment⟩ ::
      history.items).take history.limit).Sublist _ := List.take_sublist _ _
  refine ⟨List.Pairwise.sublist cut (List.pairwise_cons.mpr ⟨fun item member => ?_,
    ordered.descending⟩), fun item member => ?_, fun item member => ?_⟩
  · exact Int.lt_of_lt_of_le (above item member) (Int.le_max_right _ _)
  · rcases List.mem_cons.mp (cut.subset member) with rfl | before
    · exact Int.le_max_left _ _
    · exact ordered.timely item before
  · rcases List.mem_cons.mp (cut.subset member) with rfl | before
    · exact Int.max_le.mpr ⟨early, next⟩
    · exact raised.bounded item before

/-- A change at a moment with a date. Its result may be any double, and an extra second may stand
anywhere. -/
def Change.IsDated : Change → Prop
  | .add _ _ moment => moment.IsDated
  | .clear | .save => True

/-- The latest milliseconds that leave room for as many identifiers again. -/
def latestMillis : Int := 2 ^ 62

theorem Ordered.applyAll {changes : List Change} {state : History × Store}
    (empty : state.1.items = []) (dated : ∀ change ∈ changes, change.IsDated)
    (few : changes.length < 2 ^ 62) :
    Ordered (latestMillis + changes.length) (applyAll changes state).1.items := by
  induction changes using List.reverseRecOn with
  | nil =>
      show Ordered _ state.1.items
      rw [empty]
      exact .nil _
  | append_singleton changes change ih =>
      rw [List.length_append, List.length_singleton] at few ⊢
      have before := ih (fun other member => dated other (List.mem_append_left _ member))
        (Nat.lt_of_succ_lt few)
      have last := dated change (List.mem_append_right _ (List.mem_singleton.mpr rfl))
      rw [applyAll_concat, Int.natCast_add, ← Int.add_assoc]
      cases change with
      | add expression result moment =>
          have early := last.millis_near
          rw [latestMillis] at before ⊢
          refine before.record ?_ ?_ expression result ?_
          · rw [Json.Numeral.minInt64]
            omega
          · rw [maxId, Json.Numeral.maxInt64]
            omega
          · omega
      | clear => exact .nil _
      | save => exact before.mono (by omega)

/-- What stands first after an addition is the calculation added, unless nothing is kept. -/
theorem head?_items_record (history : History) (expression : Text) (result : Float)
    (moment : Moment) :
    (history.record expression result moment).items.head? =
      if history.limit = 0 then none
      else some ⟨max moment.millis (nextId history.items), expression, result, moment⟩ := by
  show (List.take history.limit (_ :: history.items)).head? = _
  rw [List.head?_take]
  rfl

/-- **A history holds the latest calculations.** After additions and clears in memory, with a clock
that may stand still or go back, the items are the additions since the last clear, newest first, as
far as they fit; their identifiers decrease along the list, and none is less than the milliseconds
of its moment. Each addition brings the new item to the front, with an identifier above those that
were kept, or nothing if the history keeps nothing. -/
theorem applyAll_inMemory (limit : Nat) (store : Store) {changes : List Change}
    (dated : ∀ change ∈ changes, change.IsDated) (few : changes.length < 2 ^ 62) :
    (applyAll changes (inMemory limit, store)).1.items.map HistoryItem.content =
        (additions changes).take limit ∧
      (applyAll changes (inMemory limit, store)).1.items.Pairwise
        (fun newer older => older.id < newer.id) ∧
      (∀ item ∈ (applyAll changes (inMemory limit, store)).1.items,
        item.moment.millis ≤ item.id) ∧
      ∀ earlier expression result moment later,
        changes = earlier ++ .add expression result moment :: later →
        ∃ id, moment.millis ≤ id ∧
          (∀ item ∈ (applyAll earlier (inMemory limit, store)).1.items, item.id < id) ∧
          ((Change.add expression result moment).apply
              (applyAll earlier (inMemory limit, store))).1.items.head? =
            if limit = 0 then none else some ⟨id, expression, result, moment⟩ := by
  have ordered : Ordered _ (applyAll changes (inMemory limit, store)).1.items :=
    .applyAll rfl dated few
  refine ⟨content_applyAll changes rfl, ordered.descending, ordered.timely, ?_⟩
  rintro earlier expression result moment later rfl
  rw [List.length_append, List.length_cons] at few
  have before : Ordered _ (applyAll earlier (inMemory limit, store)).1.items :=
    .applyAll rfl (fun change member => dated change (List.mem_append_left _ member)) (by omega)
  obtain ⟨above, -⟩ := before.above
    (by rw [Json.Numeral.minInt64, latestMillis]; omega)
    (by rw [maxId, Json.Numeral.maxInt64, latestMillis]; omega)
  have capacity : (applyAll earlier (inMemory limit, store)).1.limit = limit :=
    limit_applyAll earlier _
  refine ⟨_, Int.le_max_left _ _, fun item member =>
    Int.lt_of_lt_of_le (above item member) (Int.le_max_right _ _), ?_⟩
  have first := head?_items_record (applyAll earlier (inMemory limit, store)).1 expression result
    moment
  rw [capacity] at first
  exact first

/-- Changes under a clock that stands still, counts an extra second inside a minute, goes back before
1970 and is then far ahead. -/
def unsteadyChanges : List Change :=
  [.add "1+1".toList 2 ⟨1710936000, 0⟩, .clear, .add "2+2".toList 4 ⟨1710936000, 0⟩,
    .add "3+3".toList 6 ⟨1710936000, 1500000000⟩, .add "π".toList 3.1415926536 ⟨-5, 999999999⟩,
    .add "0".toList 0 ⟨4102444800, 0⟩]

theorem applyAll_inMemory_unsteady :
    (∀ change ∈ unsteadyChanges, change.IsDated) ∧ unsteadyChanges.length < 2 ^ 62 ∧
      (applyAll unsteadyChanges (inMemory 3, {})).1.items.map HistoryItem.content =
        [("0".toList, 0, ⟨4102444800, 0⟩), ("π".toList, 3.1415926536, ⟨-5, 999999999⟩),
          ("3+3".toList, 6, ⟨1710936000, 1500000000⟩)] ∧
      (applyAll unsteadyChanges (inMemory 3, {})).1.items.Pairwise
        (fun newer older => older.id < newer.id) := by
  have dated : ∀ change ∈ unsteadyChanges, change.IsDated := by
    intro change member
    simp only [unsteadyChanges, List.mem_cons, List.not_mem_nil, or_false] at member
    rcases member with rfl | rfl | rfl | rfl | rfl | rfl
    · exact ⟨by decide, by decide⟩
    · trivial
    · exact ⟨by decide, by decide⟩
    · exact ⟨by decide, by decide⟩
    · exact ⟨by decide, by decide⟩
    · exact ⟨by decide, by decide⟩
  have few : unsteadyChanges.length < 2 ^ 62 := by decide
  obtain ⟨held, descending, -, -⟩ := applyAll_inMemory 3 {} dated few
  exact ⟨dated, few, held, descending⟩

end History

end Reckoner
