/-!
Sets of characters given by ranges of code points. A table of ranges is sorted and its ranges do
not overlap, so a search may stop at the first range that starts beyond the code it looks for.
-/

namespace Reckoner.Text

/-- Ranges of code points, each given by its first and its last member. -/
abbrev CodeRanges := List (Nat × Nat)

namespace CodeRanges

/-- Whether every range is proper and ends before the next one starts. -/
def isSorted : CodeRanges → Bool
  | [] => true
  | [(first, last)] => first ≤ last
  | (first, last) :: (next, stop) :: later =>
    first ≤ last && last < next && isSorted ((next, stop) :: later)

/-- Whether a code point lies in one of the ranges of a sorted table. -/
def contains : CodeRanges → Nat → Bool
  | [], _ => false
  | (first, last) :: later, code =>
    if code < first then false
    else if code ≤ last then true
    else contains later code

theorem isSorted_tail {range : Nat × Nat} {later : CodeRanges}
    (sorted : isSorted (range :: later) = true) : isSorted later = true := by
  obtain ⟨first, last⟩ := range
  match later with
  | [] => rfl
  | (next, stop) :: rest =>
    simp only [isSorted, Bool.and_eq_true] at sorted
    exact sorted.2

/-- A sorted table starts with its least code point. -/
theorem first_le_of_isSorted {range : Nat × Nat} {later : CodeRanges}
    (sorted : isSorted (range :: later) = true) :
    range.1 ≤ range.2 ∧ ∀ r ∈ later, range.2 < r.1 ∧ r.1 ≤ r.2 := by
  induction later generalizing range with
  | nil => simpa [isSorted] using sorted
  | cons next rest ih =>
    obtain ⟨first, last⟩ := range
    obtain ⟨start, stop⟩ := next
    simp only [isSorted, Bool.and_eq_true, decide_eq_true_eq] at sorted
    obtain ⟨⟨proper, apart⟩, tailSorted⟩ := sorted
    obtain ⟨tailProper, beyond⟩ := ih tailSorted
    refine ⟨proper, fun r member => ?_⟩
    rcases List.mem_cons.1 member with rfl | member
    · exact ⟨apart, tailProper⟩
    · have := beyond r member
      simp only at tailProper this ⊢
      omega

/-- In a sorted table the search finds exactly the members of the ranges. -/
theorem contains_iff {table : CodeRanges} (sorted : table.isSorted = true) (code : Nat) :
    table.contains code = true ↔ ∃ range ∈ table, range.1 ≤ code ∧ code ≤ range.2 := by
  induction table with
  | nil => simp [contains]
  | cons range later ih =>
    have ends := first_le_of_isSorted sorted
    have rest := ih (isSorted_tail sorted)
    obtain ⟨first, last⟩ := range
    simp only [contains, List.mem_cons, exists_eq_or_imp]
    split
    · refine ⟨fun h => by simp at h, ?_⟩
      rintro (⟨low, _⟩ | ⟨r, member, low, _⟩)
      · omega
      · have := ends.2 r member
        simp only at ends this
        omega
    · split
      · exact ⟨fun _ => .inl ⟨by omega, by omega⟩, fun _ => rfl⟩
      · rw [rest]
        refine ⟨.inr, ?_⟩
        rintro (⟨_, high⟩ | found)
        · omega
        · exact found

end CodeRanges

end Reckoner.Text
