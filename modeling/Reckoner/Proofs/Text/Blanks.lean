import Mathlib.Data.List.TakeWhile
import Reckoner.Text.Letter

/-!
# White space

No visible character of ASCII is white space (`isBlank_of_visible`). Trimming takes white space from
both ends of a text and nothing else (`exists_trim`), a trimmed text is left as it is
(`IsTrimmed.trim_eq`), and nothing is left of white space alone (`trim_eq_nil_iff`).
-/

namespace Reckoner.Text

/-- The visible characters of ASCII are not white space. -/
theorem isBlank_of_visible {c : Char} (above : 0x20 < c.toNat) (below : c.toNat < 0x85) :
    isBlank c = false := by
  simp only [isBlank, blankRanges, CodeRanges.contains]
  rw [if_neg (by omega), if_neg (by omega), if_neg (by omega), if_neg (by omega),
    if_pos (by omega)]

theorem isBlank_of_isDigit {c : Char} (digit : isDigit c = true) : isBlank c = false := by
  simp only [isDigit, Bool.and_eq_true, decide_eq_true_eq, Char.le_def,
    UInt32.le_iff_toNat_le] at digit
  exact isBlank_of_visible (Nat.lt_of_lt_of_le (by decide) digit.1)
    (Nat.lt_of_le_of_lt digit.2 (by decide))

/-! ## Trimming -/

/-- A text that neither starts nor ends with white space. -/
structure IsTrimmed (text : Text) : Prop where
  starts : ∀ c ∈ text.head?, isBlank c = false
  ends : ∀ c ∈ text.getLast?, isBlank c = false

theorem exists_trimStart (text : Text) :
    ∃ front, text = front ++ trimStart text ∧ ∀ c ∈ front, isBlank c = true :=
  ⟨text.takeWhile isBlank, (List.takeWhile_append_dropWhile (p := isBlank)).symm,
    fun _ member => List.mem_takeWhile_imp member⟩

theorem exists_trimEnd (text : Text) :
    ∃ back, text = trimEnd text ++ back ∧ ∀ c ∈ back, isBlank c = true := by
  obtain ⟨front, whole, blank⟩ := exists_trimStart text.reverse
  refine ⟨front.reverse, ?_, fun c member => blank c (List.mem_reverse.mp member)⟩
  have turned := congrArg List.reverse whole
  rwa [List.reverse_reverse, List.reverse_append] at turned

/-- Trimming takes white space from both ends. -/
theorem exists_trim (text : Text) :
    ∃ front back, text = front ++ trim text ++ back ∧ (∀ c ∈ front, isBlank c = true) ∧
      ∀ c ∈ back, isBlank c = true := by
  obtain ⟨front, start, blank⟩ := exists_trimStart text
  obtain ⟨back, final, behind⟩ := exists_trimEnd (trimStart text)
  refine ⟨front, back, ?_, blank, behind⟩
  rw [List.append_assoc, trim, ← final]
  exact start

theorem head?_trimStart (text : Text) : ∀ c ∈ (trimStart text).head?, isBlank c = false := by
  intro c first
  have stopped := List.head?_dropWhile_not isBlank text
  rw [trimStart] at first
  rw [first] at stopped
  simpa using stopped

theorem isTrimmed_trim (text : Text) : IsTrimmed (trim text) where
  starts := by
    intro c first
    obtain ⟨back, whole, -⟩ := exists_trimEnd (trimStart text)
    apply head?_trimStart text c
    rw [whole, List.head?_append]
    rw [trim] at first
    rw [first]
    rfl
  ends := by
    intro c last
    apply head?_trimStart (trimStart text).reverse c
    rw [trim, trimEnd, List.getLast?_reverse] at last
    exact last

theorem trimStart_of_head {text : Text} (starts : ∀ c ∈ text.head?, isBlank c = false) :
    trimStart text = text := by
  cases text with
  | nil => rfl
  | cons c rest => exact List.dropWhile_cons_of_neg (by simp [starts c rfl])

theorem IsTrimmed.trim_eq {text : Text} (trimmed : IsTrimmed text) : trim text = text := by
  have turned : trimStart text.reverse = text.reverse := by
    apply trimStart_of_head
    rw [List.head?_reverse]
    exact trimmed.ends
  rw [trim, trimStart_of_head trimmed.starts, trimEnd]
  rw [trimStart] at turned
  rw [turned, List.reverse_reverse]

theorem trim_trim (text : Text) : trim (trim text) = trim text := (isTrimmed_trim text).trim_eq

/-- A trimmed text does not end behind white space. -/
theorem IsTrimmed.not_isAllBlank_behind {front rest : Text} {c : Char}
    (trimmed : IsTrimmed (front ++ c :: rest)) (blank : isBlank c = true) :
    isAllBlank rest = false := by
  by_contra all
  rw [Bool.not_eq_false, isAllBlank, List.all_eq_true] at all
  obtain ⟨last, among⟩ :=
    Option.isSome_iff_exists.mp (List.getLast?_isSome.mpr (List.cons_ne_nil c rest))
  have final : last ∈ (front ++ c :: rest).getLast? := by
    rw [List.getLast?_append, among]
    rfl
  have visible := trimmed.ends last final
  rcases List.mem_cons.mp (List.mem_of_getLast? among) with rfl | behind
  · rw [blank] at visible
    cases visible
  · rw [all last behind] at visible
    cases visible

/-- A trimmed text does not start with white space. -/
theorem IsTrimmed.not_isAllBlank_before {front rest : Text} {c : Char}
    (trimmed : IsTrimmed (front ++ c :: rest)) (blank : isBlank c = true) :
    isAllBlank front = false := by
  cases front with
  | nil =>
      have visible := trimmed.starts c rfl
      rw [blank] at visible
      cases visible
  | cons first others =>
      rw [isAllBlank, List.all_cons, trimmed.starts first rfl, Bool.false_and]

/-- White space at the end makes no difference to trimming. -/
theorem trim_concat {text : Text} {c : Char} (blank : isBlank c = true) :
    trim (text ++ [c]) = trim text := by
  have alone : trimStart [c] = [] := List.dropWhile_cons_of_pos blank
  rw [trim, trim, trimStart, trimStart, List.dropWhile_append]
  cases text.dropWhile isBlank with
  | nil =>
      rw [trimStart] at alone
      simp [alone]
  | cons first rest =>
      simp only [List.isEmpty_cons, Bool.false_eq_true, if_false, trimEnd, List.reverse_append,
        List.reverse_singleton, List.singleton_append, List.dropWhile_cons_of_pos blank]

/-- What is left after trimming stood there in one piece. -/
theorem isInfix_trim (text : Text) : trim text <:+: text := by
  obtain ⟨front, back, whole, -, -⟩ := exists_trim text
  exact ⟨front, back, whole.symm⟩

/-- Trimming leaves nothing of white space only. -/
theorem trim_eq_nil_iff {text : Text} : trim text = [] ↔ isAllBlank text = true := by
  obtain ⟨front, back, whole, before, behind⟩ := exists_trim text
  rw [isAllBlank, List.all_eq_true]
  constructor
  · intro empty c member
    rw [whole, empty, List.append_nil] at member
    rcases List.mem_append.mp member with first | last
    · exact before c first
    · exact behind c last
  · intro blank
    rw [← List.head?_eq_none_iff, Option.eq_none_iff_forall_ne_some]
    intro c first
    have visible := (isTrimmed_trim text).starts c first
    have inside : c ∈ text :=
      (isInfix_trim text).subset (List.mem_of_head? first)
    rw [blank c inside] at visible
    cases visible

end Reckoner.Text
