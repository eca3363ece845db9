import Reckoner.Text.Basic

/-!
Places in a text counted in bytes. In UTF-8 a character takes one to four bytes, and a text can only
be cut where a character starts or at its end: everywhere else, and behind its end, there is no cut.
Main statements: a cut parts the text after so many bytes (`cutAt?_eq_some_iff`), and there is one
after any count of characters (`cutAt?_byteIndex`).
-/

namespace Reckoner.Text

/-- The count of bytes of a text. -/
def byteLength : Text → Nat
  | [] => 0
  | c :: rest => c.utf8Size + byteLength rest

/-- The characters of a text with the bytes they start at, the first of them at the given one. -/
def startingBytes (start : Nat) : Text → List (Nat × Char)
  | [] => []
  | c :: rest => (start, c) :: startingBytes (start + c.utf8Size) rest

/-- The byte that the character of a number starts at, or the end of the text if there is none. -/
def byteIndex (text : Text) (number : Nat) : Nat :=
  match (startingBytes 0 text)[number]? with
  | some (index, _) => index
  | none => byteLength text

/-- What stands before a byte and what stands from it on, if the text can be cut there. -/
def cutAt? : Nat → Text → Option (Text × Text)
  | 0, text => some ([], text)
  | _ + 1, [] => none
  | index + 1, c :: rest =>
    if index + 1 < c.utf8Size then none
    else (cutAt? (index + 1 - c.utf8Size) rest).map (fun (before, after) => (c :: before, after))

/-- A text with another one put in at a byte. -/
def insertAt? (index : Nat) (more text : Text) : Option Text :=
  (cutAt? index text).map (fun (before, after) => before ++ more ++ after)

/-- A text without the bytes from one place to another. -/
def cutOut? (first last : Nat) (text : Text) : Option Text := do
  let (before, _) ← cutAt? first text
  let (_, after) ← cutAt? last text
  if first ≤ last then some (before ++ after) else none

section Cuts

variable (first second : Text)

theorem byteLength_singleton (c : Char) : byteLength [c] = c.utf8Size := rfl

theorem byteLength_append : byteLength (first ++ second) = byteLength first + byteLength second := by
  induction first with
  | nil => exact (Nat.zero_add _).symm
  | cons c rest ih => rw [List.cons_append, byteLength, byteLength, ih, Nat.add_assoc]

theorem cutAt?_zero : cutAt? 0 second = some ([], second) := by
  cases second with
  | nil => rfl
  | cons c rest => rfl

theorem cutAt?_append : cutAt? (byteLength first) (first ++ second) = some (first, second) := by
  induction first with
  | nil => exact cutAt?_zero second
  | cons c rest ih =>
      obtain ⟨size, same⟩ := Nat.exists_eq_succ_of_ne_zero (Nat.ne_of_gt c.utf8Size_pos)
      have index : c.utf8Size + byteLength rest = size + byteLength rest + 1 := by omega
      have left : size + byteLength rest + 1 - c.utf8Size = byteLength rest := by omega
      rw [byteLength, List.cons_append, index, cutAt?, if_neg (by omega), left, ih]
      rfl

theorem startingBytes_append (start : Nat) :
    startingBytes start (first ++ second) =
      startingBytes start first ++ startingBytes (start + byteLength first) second := by
  induction first generalizing start with
  | nil => rfl
  | cons c rest ih =>
      rw [List.cons_append, startingBytes, startingBytes, ih, byteLength, Nat.add_assoc,
        List.cons_append]

theorem length_startingBytes (start : Nat) : (startingBytes start first).length = first.length := by
  induction first generalizing start with
  | nil => rfl
  | cons c rest ih => rw [startingBytes, List.length_cons, ih, List.length_cons]

/-- Behind so many characters stands the byte after so many bytes. -/
theorem byteIndex_append : byteIndex (first ++ second) first.length = byteLength first := by
  rw [byteIndex, startingBytes_append,
    List.getElem?_append_right (Nat.le_of_eq (length_startingBytes first 0)), length_startingBytes,
    Nat.sub_self, Nat.zero_add]
  cases second with
  | nil =>
      rw [List.append_nil]
      rfl
  | cons c rest => rfl

end Cuts

/-- **Where a text can be cut**: behind each of its fronts, after as many bytes as that has. -/
theorem cutAt?_eq_some_iff {index : Nat} {text before after : Text} :
    cutAt? index text = some (before, after) ↔
      text = before ++ after ∧ byteLength before = index := by
  constructor
  · intro cut
    fun_induction cutAt? index text generalizing before with
    | case1 text =>
        cases cut
        exact ⟨rfl, rfl⟩
    | case2 index => cases cut
    | case3 index c rest inside => cases cut
    | case4 index c rest whole ih =>
        rw [Option.map_eq_some_iff] at cut
        obtain ⟨⟨front, back⟩, behind, same⟩ := cut
        cases same
        obtain ⟨rfl, length⟩ := ih behind
        refine ⟨rfl, ?_⟩
        rw [byteLength]
        omega
  · rintro ⟨rfl, rfl⟩
    exact cutAt?_append before after

theorem insertAt?_append (first more second : Text) :
    insertAt? (byteLength first) more (first ++ second) = some (first ++ more ++ second) := by
  rw [insertAt?, cutAt?_append]
  rfl

/-- What stands between two places is taken out. -/
theorem cutOut?_append (first second third : Text) :
    cutOut? (byteLength first) (byteLength first + byteLength second) (first ++ (second ++ third)) =
      some (first ++ third) := by
  have behind := cutAt?_append (first ++ second) third
  rw [byteLength_append, List.append_assoc] at behind
  rw [cutOut?, cutAt?_append, behind]
  exact if_pos (Nat.le_add_right _ _)

/-- There is a cut behind any count of characters. -/
theorem cutAt?_byteIndex (text : Text) {count : Nat} (within : count ≤ text.length) :
    cutAt? (byteIndex text count) text = some (text.take count, text.drop count) := by
  have index := byteIndex_append (text.take count) (text.drop count)
  rw [List.take_append_drop, List.length_take_of_le within] at index
  rw [cutAt?_eq_some_iff, index]
  exact ⟨(List.take_append_drop count text).symm, rfl⟩

example : cutAt? 2 "2×3".toList = none := by decide

end Reckoner.Text
