import Mathlib.Algebra.Group.Int.Defs
import Reckoner.Proofs.Disk.Saving
import Reckoner.Proofs.History.Format

/-!
# The history outlasts the program

A history that is kept in a file writes it anew with every change (`IsFiled.apply`), and keeps only
items that the format can hold. So whatever was done to a history that was opened on a file without
items, opening the file again gives the history as the stamps of its items have it: as it is, but
that an extra second inside a minute has become the next one (`load_applyAll`).
-/

namespace Reckoner

/-! ## Identifiers -/

namespace Moment

/-- The milliseconds of a moment lie far from the ends of 64 bits. -/
theorem IsDated.millis_near {moment : Moment} (dated : moment.IsDated) :
    -2 ^ 62 ≤ moment.millis ∧ moment.millis ≤ 2 ^ 62 := by
  have days := Date.days_of_isYear dated.year
  have nanos := dated.nanos
  rw [daySeconds] at days
  rw [secondNanos] at nanos
  rw [Moment.millis]
  omega

/-- The milliseconds of a moment fit 64 bits. -/
theorem IsDated.millis {moment : Moment} (dated : moment.IsDated) :
    Json.Numeral.minInt64 ≤ moment.millis ∧ moment.millis ≤ Json.Numeral.maxInt64 := by
  have near := dated.millis_near
  rw [Json.Numeral.minInt64, Json.Numeral.maxInt64]
  omega

end Moment

namespace History

theorem nextId_le (items : List HistoryItem) : nextId items ≤ Json.Numeral.maxInt64 := by
  cases items with
  | nil => decide
  | cons newest rest => exact Int.min_le_right _ _

/-- A calculation at a moment with a date is recorded as an item that a file can keep. -/
theorem isProper_record {history : History} (proper : ∀ item ∈ history.items, item.IsProper)
    (expression : Text) {result : Float} (carried : Json.Numeral.IsCarried result)
    {moment : Moment} (dated : moment.IsDated) :
    ∀ item ∈ (history.record expression result moment).items, item.IsProper := by
  intro item member
  rcases List.mem_cons.mp (List.mem_of_mem_take member) with rfl | before
  · obtain ⟨least, most⟩ := dated.millis
    exact ⟨Int.le_trans least (Int.le_max_left _ _), Int.max_le.mpr ⟨most, nextId_le _⟩, carried,
      dated⟩
  · exact proper item before

/-! ## Runs -/

/-- What is done to a history. -/
inductive Change where
  | add (expression : Text) (result : Float) (moment : Moment)
  | clear
  | save

/-- The history and the store after a change. A failure to save changes nothing in the history. -/
def Change.apply : Change → History × Store → History × Store
  | .add expression result moment, (history, store) => history.add store expression result moment
  | .clear, (history, store) => history.clear store
  | .save, (history, store) => (history, store.withDisk (history.save store.disk).1)

/-- The history and the store after changes, in order. -/
def applyAll (changes : List Change) (state : History × Store) : History × Store :=
  changes.foldl (fun state change => change.apply state) state

/-- A change that a file can hold: any text, a result that numerals carry, a moment with a date. -/
def Change.IsProper : Change → Prop
  | .add _ result moment => Json.Numeral.IsCarried result ∧ moment.IsDated
  | .clear | .save => True

/-- The history as a file keeps it, every moment as its stamp says. -/
def stamped (history : History) : History :=
  { history with items := history.items.map HistoryItem.stamped }

/-- A history that is kept in a file, which holds its items. -/
structure IsFiled (path : Text) (limit : Nat) (history : History) (store : Store) : Prop where
  kept : history.path = some path
  limited : history.limit = limit
  short : history.items.length ≤ limit
  proper : ∀ item ∈ history.items, item.IsProper
  writable : store.disk.IsWritable path
  held : (readItems store path).1 = history.items.map HistoryItem.stamped

theorem readItems_of_read {store : Store} {path : Text} {items : List HistoryItem}
    (present : store.disk.exists? path = true)
    (content : store.disk.read path = .ok (fileText items))
    (proper : ∀ item ∈ items, item.IsProper) :
    (readItems store path).1 = items.map HistoryItem.stamped := by
  rw [readItems, present, content]
  dsimp only
  rw [ofFile?_fileText proper]
  rfl

/-- A history is filed once it has been saved. -/
theorem isFiled_of_save {path : Text} {limit : Nat} {history : History} {store after : Store}
    (kept : history.path = some path) (limited : history.limit = limit)
    (short : history.items.length ≤ limit) (proper : ∀ item ∈ history.items, item.IsProper)
    (writable : store.disk.IsWritable path) (saved : after.disk = (history.save store.disk).1) :
    IsFiled path limit history after := by
  obtain ⟨disk, success⟩ := writable.exists_save (fileText history.items)
  have same : history.save store.disk = (disk, .ok ()) := by
    rw [History.save, kept]
    exact success
  have written : after.disk = disk := by rw [saved, same]
  obtain ⟨present, content, again⟩ := Disk.read_of_save success
  rw [← written] at present content again
  exact ⟨kept, limited, short, proper, again, readItems_of_read present content proper⟩

theorem persist_disk (history : History) (store : Store) :
    (history.persist store).disk = (history.save store.disk).1 := by
  rw [persist]
  split
  · rename_i saved
    rw [saved]
    rfl
  · rename_i failed
    rw [failed]
    rfl

/-- **Every change writes the file.** -/
theorem IsFiled.apply {path : Text} {limit : Nat} {history : History} {store : Store}
    (filed : IsFiled path limit history store) {change : Change} (proper : change.IsProper) :
    IsFiled path limit (change.apply (history, store)).1 (change.apply (history, store)).2 := by
  cases change with
  | add expression result moment =>
      refine isFiled_of_save filed.kept filed.limited ?_
        (isProper_record filed.proper expression proper.1 proper.2) filed.writable
        (persist_disk _ store)
      rw [← filed.limited]
      exact List.length_take_le _ _
  | clear =>
      refine isFiled_of_save filed.kept filed.limited (Nat.zero_le _) ?_ filed.writable
        (persist_disk _ store)
      intro item member
      cases member
  | save =>
      exact isFiled_of_save filed.kept filed.limited filed.short filed.proper filed.writable rfl

theorem IsFiled.applyAll {path : Text} {limit : Nat} {state : History × Store}
    (filed : IsFiled path limit state.1 state.2) {changes : List Change}
    (proper : ∀ change ∈ changes, change.IsProper) :
    IsFiled path limit (applyAll changes state).1 (applyAll changes state).2 := by
  induction changes generalizing state with
  | nil => exact filed
  | cons change rest ih =>
      have first := filed.apply (proper change List.mem_cons_self)
      exact ih first fun other member => proper other (List.mem_cons_of_mem _ member)

/-! ## Opening -/

/-- Opening gives back a history that is filed, as its stamps have it. -/
theorem IsFiled.load {path : Text} {limit : Nat} {history : History} {store : Store}
    (filed : IsFiled path limit history store) :
    (History.load store path limit).1 = history.stamped := by
  have items : (readItems store path).1.take limit = history.items.map HistoryItem.stamped := by
    rw [filed.held]
    apply List.take_of_length_le
    rw [List.length_map]
    exact filed.short
  show History.mk ((readItems store path).1.take limit) limit (some path) = history.stamped
  rw [items, ← filed.limited, ← filed.kept]
  rfl

/-- Reading a file changes no file. -/
theorem readItems_disk (store : Store) (path : Text) :
    (readItems store path).2.disk = store.disk := by
  rw [readItems]
  split
  · rfl
  · split
    · rfl
    · split
      · rfl
      · rfl

end History

end Reckoner
