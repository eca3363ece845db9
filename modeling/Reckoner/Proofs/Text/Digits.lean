import Mathlib.Algebra.Group.Nat.Defs
import Reckoner.Text.Letter

/-!
# Decimal digits

A number is written in digits without a leading zero (`head?_ofNat`), or filled up with zeros to a
width, and is read off them again (`ofDigitChars_padded`). Where digits end, a reader that takes as
many as there are stops (`takeWhile_digits`).
-/

namespace Reckoner.Text

/-- Decimal digits, at least one. -/
structure IsDigits (text : Text) : Prop where
  proper : text ≠ []
  all : ∀ c ∈ text, isDigit c = true

theorem isDigit_of_char {c : Char} (digit : c.isDigit = true) : isDigit c = true := by
  rw [Char.isDigit, Bool.and_eq_true, decide_eq_true_eq, decide_eq_true_eq] at digit
  rw [isDigit, Bool.and_eq_true, decide_eq_true_eq, decide_eq_true_eq]
  exact digit

theorem isDigits_ofNat (n : Nat) : IsDigits (ofNat n) where
  proper := Nat.toDigits_ne_nil
  all := fun _ member =>
    isDigit_of_char (Nat.isDigit_of_mem_toDigits (by decide) (by decide) member)

theorem isDigits_append {first second : Text} (proper : first ++ second ≠ [])
    (front : ∀ c ∈ first, isDigit c = true) (back : ∀ c ∈ second, isDigit c = true) :
    IsDigits (first ++ second) where
  proper := proper
  all := by
    intro c member
    rcases List.mem_append.mp member with before | behind
    · exact front c before
    · exact back c behind

theorem IsDigits.take {digits : Text} (proper : IsDigits digits) {count : Nat} (counted : 0 < count) :
    IsDigits (digits.take count) where
  proper := by
    have length := List.length_pos_iff.mpr proper.proper
    apply List.length_pos_iff.mp
    rw [List.length_take]
    omega
  all := fun c member => proper.all c (List.mem_of_mem_take member)

theorem IsDigits.drop {digits : Text} (proper : IsDigits digits) {count : Nat}
    (more : count < digits.length) : IsDigits (digits.drop count) where
  proper := by
    apply List.length_pos_iff.mp
    rw [List.length_drop]
    omega
  all := fun c member => proper.all c (List.mem_of_mem_drop member)

theorem isDigit_of_mem_zeros {count : Nat} {c : Char} (member : c ∈ copies count '0') :
    isDigit c = true := by
  rw [List.eq_of_mem_replicate member]
  decide

theorem length_ofNat_pos (n : Nat) : 0 < (ofNat n).length :=
  List.length_pos_iff.mpr (isDigits_ofNat n).proper

/-- Numbers of at most so many digits. -/
theorem length_ofNat_le {width n : Nat} (wide : 0 < width) (small : n < 10 ^ width) :
    (ofNat n).length ≤ width := (Nat.length_toDigits_le_iff (by decide) wide).mpr small

theorem lt_pow_length (n : Nat) : n < 10 ^ (ofNat n).length :=
  (Nat.length_toDigits_le_iff (by decide) (length_ofNat_pos n)).mp (Nat.le_refl _)

theorem pow_length_le {n : Nat} (positive : 0 < n) : 10 ^ ((ofNat n).length - 1) ≤ n := by
  by_cases single : (ofNat n).length = 1
  · rw [single]
    exact positive
  · have longer := length_ofNat_pos n
    apply Nat.not_lt.mp
    intro small
    have fewer := length_ofNat_le (by omega) small
    omega

/-- Only zero starts with a zero. -/
theorem head?_ofNat {n : Nat} (positive : 0 < n) : (ofNat n).head? ≠ some '0' := by
  induction n using Nat.strongRecOn with
  | ind n ih =>
      rw [ofNat, Nat.toDigits_eq_if (by decide)]
      split
      · rename_i small
        have letter : ∀ d < 10, 0 < d → Nat.digitChar d ≠ '0' := by decide
        intro same
        exact letter n small positive (Option.some.inj same)
      · have leading := ih (n / 10) (by omega) (by omega)
        obtain ⟨first, rest, cut⟩ := List.exists_cons_of_ne_nil (isDigits_ofNat (n / 10)).proper
        rw [cut] at leading
        rw [ofNat] at cut
        rw [cut]
        exact leading

theorem ofDigitChars_ofNat (n : Nat) : Nat.ofDigitChars 10 (ofNat n) 0 = n :=
  Nat.ofDigitChars_ten_toDigits

section Padded

variable (width n : Nat)

theorem isDigits_padded : IsDigits (padded width n) :=
  isDigits_append (List.append_ne_nil_of_right_ne_nil _ (isDigits_ofNat n).proper)
    (fun _ zero => isDigit_of_mem_zeros zero) (isDigits_ofNat n).all

/-- Leading zeros do not change the number. -/
theorem ofDigitChars_padded : Nat.ofDigitChars 10 (padded width n) 0 = n := by
  rw [padded, copies, Nat.ofDigitChars_append, Nat.ofDigitChars_replicate_zero, Nat.mul_zero,
    ofDigitChars_ofNat]

end Padded

theorem length_padded {width n : Nat} (wide : 0 < width) (small : n < 10 ^ width) :
    (padded width n).length = width := by
  have fits := length_ofNat_le wide small
  rw [padded, copies, List.length_append, List.length_replicate]
  omega

/-! ## Where digits end -/

section Ends

variable {digits rest : Text} (all : ∀ c ∈ digits, isDigit c = true)
  (ends : ∀ c ∈ rest.head?, isDigit c = false)

include all ends

theorem takeWhile_digits : (digits ++ rest).takeWhile isDigit = digits := by
  rw [List.takeWhile_append_of_pos all]
  cases rest with
  | nil => exact List.append_nil digits
  | cons c rest => rw [List.takeWhile_cons_of_neg (by simp [ends c rfl]), List.append_nil]

theorem dropWhile_digits : (digits ++ rest).dropWhile isDigit = rest := by
  rw [List.dropWhile_append_of_pos all]
  cases rest with
  | nil => rfl
  | cons c rest => rw [List.dropWhile_cons_of_neg (by simp [ends c rfl])]

end Ends

end Reckoner.Text
