import Reckoner.Text.Bytes
import Reckoner.Text.Fold

/-!
# Words in any case

Lower case can be longer or shorter than a text, and what it makes of a character can depend on the
characters around it. All that is asked of it here is what it makes of ASCII, and that of the other
characters only the Kelvin sign and the dotted capital I have a part of ASCII in lower case
(`LowerCase`). Then a line starts with a keyword, ends with it or is it in lower case exactly if it
does so up to the case of its ASCII letters (`LowerCase.starts_iff`, `LowerCase.ends_iff`,
`LowerCase.eq_iff`), and the keyword takes as many bytes in the line as it has letters
(`byteLength_of_small`).
-/

namespace Reckoner.Text

/-! ## Characters of ASCII -/

/-- A character of ASCII. -/
def IsAscii (c : Char) : Prop := c.toNat < 128

instance (c : Char) : Decidable (IsAscii c) := inferInstanceAs (Decidable (c.toNat < 128))

/-- What holds of every character of ASCII can be tried out. -/
theorem forall_ascii {P : Char → Prop} (all : ∀ code < 128, P (Char.ofNat code)) {c : Char}
    (inside : IsAscii c) : P c := by
  have tried := all c.toNat inside
  rwa [Char.ofNat_toNat] at tried

/-- Only ASCII has ASCII as its small letters. -/
theorem isAscii_of_toLower {c : Char} (inside : IsAscii c.toLower) : IsAscii c := by
  unfold Char.toLower at inside
  split at inside
  · rename_i capital
    have most : c.val.toNat ≤ 'Z'.val.toNat := UInt32.le_iff_toNat_le.mp capital.2
    have top : 'Z'.val.toNat = 90 := rfl
    show c.val.toNat < 128
    omega
  · exact inside

theorem utf8Size_of_isAscii {c : Char} (inside : IsAscii c) : c.utf8Size = 1 :=
  forall_ascii (P := fun c => c.utf8Size = 1) (by decide) inside

/-! ## Small letters -/

/-- A text with its ASCII letters in lower case and everything else as it is. -/
def small (text : Text) : Text := text.map Char.toLower

theorem isAscii_of_small {text word : Text} (same : small text = word)
    (ascii : ∀ c ∈ word, IsAscii c) : ∀ c ∈ text, IsAscii c := by
  intro c member
  apply isAscii_of_toLower
  apply ascii
  rw [← same]
  exact List.mem_map_of_mem member

/-- A word of ASCII takes one byte for each letter, whatever their case. -/
theorem byteLength_of_small {text word : Text} (same : small text = word)
    (ascii : ∀ c ∈ word, IsAscii c) : byteLength text = word.length := by
  have inside := isAscii_of_small same ascii
  rw [← same, small, List.length_map]
  clear same ascii
  induction text with
  | nil => rfl
  | cons c rest ih =>
      obtain ⟨first, others⟩ := List.forall_mem_cons.mp inside
      rw [byteLength, utf8Size_of_isAscii first, ih others, List.length_cons, Nat.add_comm]

theorem starts_small_iff {word line : Text} :
    word <+: small line ↔ ∃ front rest, line = front ++ rest ∧ small front = word := by
  constructor
  · rintro ⟨others, whole⟩
    obtain ⟨front, rest, rfl, same, -⟩ := List.map_eq_append_iff.mp whole.symm
    exact ⟨front, rest, rfl, same⟩
  · rintro ⟨front, rest, rfl, rfl⟩
    exact ⟨small rest, List.map_append.symm⟩

theorem ends_small_iff {word line : Text} :
    word <:+ small line ↔ ∃ front back, line = front ++ back ∧ small back = word := by
  constructor
  · rintro ⟨others, whole⟩
    obtain ⟨front, back, rfl, -, same⟩ := List.map_eq_append_iff.mp whole.symm
    exact ⟨front, back, rfl, same⟩
  · rintro ⟨front, back, rfl, rfl⟩
    exact ⟨small front, List.map_append.symm⟩

/-! ## Lower case -/

/-- What the lower case of a character can be. -/
inductive LowersTo : Char → Text → Prop where
  | ascii {c : Char} (inside : IsAscii c) : LowersTo c [c.toLower]
  | kelvin : LowersTo (Char.ofNat 0x212A) ['k']
  | dotted : LowersTo (Char.ofNat 0x130) ['i', Char.ofNat 0x307]
  | foreign {c : Char} {image : Text} (outside : ¬IsAscii c) (proper : image ≠ [])
      (beyond : ∀ d ∈ image, ¬IsAscii d) : LowersTo c image

/-- What the lower case of a text can be, each character in its own place. -/
inductive LowerCase : Text → Text → Prop where
  | nil : LowerCase [] []
  | cons {c : Char} {image rest lowered : Text} (first : LowersTo c image)
      (others : LowerCase rest lowered) : LowerCase (c :: rest) (image ++ lowered)

theorem lowersTo_foldChar (c : Char) : LowersTo c (foldChar c) := by
  by_cases inside : IsAscii c
  · have same : foldChar c = [c.toLower] :=
      forall_ascii (P := fun c => foldChar c = [c.toLower]) (by decide) inside
    rw [same]
    exact .ascii inside
  · unfold foldChar
    split
    · rename_i capital
      simp only [Bool.and_eq_true, decide_eq_true_eq, Char.le_def, UInt32.le_iff_toNat_le] at capital
      have top : 'Z'.val.toNat = 90 := rfl
      have outside : ¬c.val.toNat < 128 := inside
      omega
    · split
      · rename_i kelvin
        rw [← Char.ofNat_toNat c, kelvin]
        exact .kelvin
      · split
        · rename_i dotted
          rw [← Char.ofNat_toNat c, dotted]
          exact .dotted
        · exact .foreign inside (List.cons_ne_nil c []) (by simpa using inside)

/-- Folding is a lower case. -/
theorem lowerCase_fold (text : Text) : LowerCase text (fold text) := by
  induction text with
  | nil => exact .nil
  | cons c rest ih => exact .cons (lowersTo_foldChar c) ih

/-- A word that cannot be taken for another one in lower case: it is of ASCII, without the letter of
the Kelvin sign, and does not end in the middle of what the dotted capital I becomes. -/
structure IsKeyword (word : Text) : Prop where
  ascii : ∀ c ∈ word, IsAscii c
  kelvin : 'k' ∉ word
  dotted : word.getLast? ≠ some 'i'

instance (word : Text) : Decidable (IsKeyword word) :=
  decidable_of_iff
    (word.all (fun c => decide (IsAscii c)) = true ∧ 'k' ∉ word ∧ word.getLast? ≠ some 'i')
    ⟨fun ⟨ascii, kelvin, dotted⟩ =>
        ⟨fun c member => of_decide_eq_true (List.all_eq_true.mp ascii c member), kelvin, dotted⟩,
      fun ⟨ascii, kelvin, dotted⟩ =>
        ⟨List.all_eq_true.mpr fun c member => decide_eq_true (ascii c member), kelvin, dotted⟩⟩

theorem IsKeyword.tail {w : Char} {word : Text} (keyword : IsKeyword (w :: word)) :
    IsKeyword word where
  ascii := fun c member => keyword.ascii c (List.mem_cons_of_mem w member)
  kelvin := fun member => keyword.kelvin (List.mem_cons_of_mem w member)
  dotted := by
    intro last
    apply keyword.dotted
    rw [List.getLast?_cons, last]
    rfl

section Characters

variable {c : Char} {image : Text} (first : LowersTo c image)

include first

theorem LowersTo.eq_of_isAscii (inside : IsAscii c) : image = [c.toLower] := by
  cases first with
  | ascii _ => rfl
  | kelvin => exact absurd inside (by decide)
  | dotted => exact absurd inside (by decide)
  | foreign outside _ _ => exact absurd inside outside

theorem LowersTo.ne_nil : image ≠ [] := by
  cases first with
  | ascii _ => exact List.cons_ne_nil _ _
  | kelvin => exact List.cons_ne_nil _ _
  | dotted => exact List.cons_ne_nil _ _
  | foreign _ proper _ => exact proper

/-- A keyword does not start with the lower case of a character outside ASCII. -/
theorem LowersTo.not_starts (outside : ¬IsAscii c) {word lowered : Text}
    (keyword : IsKeyword word) (starts : word <+: image ++ lowered) : word = [] := by
  cases word with
  | nil => rfl
  | cons w others =>
      exfalso
      have ascii := keyword.ascii w List.mem_cons_self
      cases first with
      | ascii inside => exact outside inside
      | kelvin =>
          obtain ⟨rfl, -⟩ := List.cons_prefix_cons.mp starts
          exact keyword.kelvin List.mem_cons_self
      | dotted =>
          obtain ⟨rfl, behind⟩ := List.cons_prefix_cons.mp starts
          cases others with
          | nil => exact keyword.dotted rfl
          | cons v _ =>
              obtain ⟨rfl, -⟩ := List.cons_prefix_cons.mp behind
              exact absurd (keyword.ascii _ (List.mem_cons_of_mem _ List.mem_cons_self)) (by decide)
      | foreign _ proper beyond =>
          obtain ⟨d, more, rfl⟩ := List.exists_cons_of_ne_nil proper
          obtain ⟨rfl, -⟩ := List.cons_prefix_cons.mp starts
          exact beyond w List.mem_cons_self ascii

/-- The lower case of a character outside ASCII ends in no letter of a keyword. -/
theorem LowersTo.exists_last (outside : ¬IsAscii c) {word : Text} (keyword : IsKeyword word) :
    ∃ front last, image = front ++ [last] ∧ last ∉ word := by
  cases first with
  | ascii inside => exact absurd inside outside
  | kelvin => exact ⟨[], 'k', rfl, keyword.kelvin⟩
  | dotted =>
      exact ⟨['i'], _, rfl, fun member => absurd (keyword.ascii _ member) (by decide)⟩
  | foreign _ proper beyond =>
      refine ⟨image.dropLast, image.getLast proper, (List.dropLast_concat_getLast proper).symm, ?_⟩
      exact fun member => beyond _ (List.getLast_mem proper) (keyword.ascii _ member)

end Characters

/-- A word that ends a text but lacks one of its characters ends what stands behind that. -/
theorem ends_of_not_mem {word front rest : Text} {c : Char} (missing : c ∉ word)
    (ends : word <:+ front ++ c :: rest) : word <:+ rest := by
  induction front with
  | nil =>
      rcases List.suffix_cons_iff.mp ends with rfl | behind
      · exact absurd List.mem_cons_self missing
      · exact behind
  | cons d front ih =>
      rcases List.suffix_cons_iff.mp ends with rfl | behind
      · exact absurd (List.mem_cons_of_mem d (List.mem_append_right front List.mem_cons_self)) missing
      · exact ih behind

namespace LowerCase

variable {line lowered : Text} (lower : LowerCase line lowered)

include lower

/-- Nothing disappears in lower case. -/
theorem length_le : line.length ≤ lowered.length := by
  induction lower with
  | nil => exact Nat.le_refl 0
  | cons first others ih =>
      have positive := List.length_pos_iff.mpr first.ne_nil
      rw [List.length_cons, List.length_append]
      omega

/-- ASCII has one lower case. -/
theorem eq_small (ascii : ∀ c ∈ line, IsAscii c) : lowered = small line := by
  induction lower with
  | nil => rfl
  | cons first others ih =>
      obtain ⟨inside, rest⟩ := List.forall_mem_cons.mp ascii
      rw [first.eq_of_isAscii inside, ih rest]
      rfl

/-- Each part of a text has its own lower case. -/
theorem exists_append {front rest : Text} (parts : line = front ++ rest) :
    ∃ first second, lowered = first ++ second ∧ LowerCase front first ∧ LowerCase rest second := by
  induction front generalizing line lowered with
  | nil =>
      subst parts
      exact ⟨[], lowered, rfl, .nil, lower⟩
  | cons c front ih =>
      subst parts
      cases lower with
      | cons head others =>
          obtain ⟨first, second, rfl, before, behind⟩ := ih others rfl
          exact ⟨_ ++ first, second, (List.append_assoc _ _ _).symm, .cons head before, behind⟩

variable {word : Text} (keyword : IsKeyword word)

include keyword

/-- **A keyword at the start of a line** is seen in lower case exactly if it stands there in any
case. -/
theorem starts_iff : word <+: lowered ↔ word <+: small line := by
  constructor
  · intro starts
    induction lower generalizing word with
    | nil => exact starts
    | @cons c image rest lowered first others ih =>
        by_cases inside : IsAscii c
        · rw [first.eq_of_isAscii inside, List.singleton_append] at starts
          cases word with
          | nil => exact List.nil_prefix
          | cons w word =>
              obtain ⟨rfl, behind⟩ := List.cons_prefix_cons.mp starts
              exact List.cons_prefix_cons.mpr ⟨rfl, ih keyword.tail behind⟩
        · rw [first.not_starts inside keyword starts]
          exact List.nil_prefix
  · intro starts
    obtain ⟨front, rest, parts, same⟩ := starts_small_iff.mp starts
    obtain ⟨first, second, rfl, before, -⟩ := lower.exists_append parts
    rw [before.eq_small (isAscii_of_small same keyword.ascii), same]
    exact List.prefix_append word second

/-- A line that is a keyword in lower case is one in any case, and the other way round. -/
theorem eq_iff : lowered = word ↔ small line = word := by
  constructor
  · rintro rfl
    have starts := (lower.starts_iff keyword).mp (List.prefix_refl lowered)
    have long := lower.length_le
    refine (starts.eq_of_length_le ?_).symm
    rwa [small, List.length_map]
  · intro same
    rw [lower.eq_small (isAscii_of_small same keyword.ascii), same]

/-- **A keyword at the end of a line** is seen in lower case exactly if it stands there in any
case. -/
theorem ends_iff : word <:+ lowered ↔ word <:+ small line := by
  constructor
  · intro ends
    induction lower with
    | nil => exact ends
    | @cons c image rest lowered first others ih =>
        by_cases inside : IsAscii c
        · have whole := (LowerCase.cons first others).eq_iff keyword
          rw [first.eq_of_isAscii inside, List.singleton_append] at ends whole
          rcases List.suffix_cons_iff.mp ends with same | behind
          · exact whole.mp same.symm ▸ List.suffix_refl _
          · exact (ih behind).trans (List.suffix_cons _ _)
        · obtain ⟨front, last, rfl, missing⟩ := first.exists_last inside keyword
          rw [List.append_assoc, List.singleton_append] at ends
          exact (ih (ends_of_not_mem missing ends)).trans (List.suffix_cons _ _)
  · intro ends
    obtain ⟨front, back, parts, same⟩ := ends_small_iff.mp ends
    obtain ⟨first, second, rfl, -, behind⟩ := lower.exists_append parts
    rw [behind.eq_small (isAscii_of_small same keyword.ascii), same]
    exact List.suffix_append first word

end LowerCase

end Reckoner.Text
