/-!
Quotients of natural numbers rounded to the nearest one. Main statements: the rounded quotient is
within half a unit of the exact one, and a quotient without remainder is kept.
-/

namespace Reckoner

/-- Where a quotient halfway between two numbers goes. -/
inductive Tie where
  | toEven
  | up
  deriving DecidableEq, Repr

/-- The natural number nearest to `num / den`. -/
def roundDiv (tie : Tie) (num den : Nat) : Nat :=
  let quotient := num / den
  match compare (2 * (num % den)) den, tie with
  | .lt, _ => quotient
  | .gt, _ => quotient + 1
  | .eq, .up => quotient + 1
  | .eq, .toEven => quotient + quotient % 2

theorem roundDiv_eq_or (tie : Tie) (num den : Nat) :
    (roundDiv tie num den = num / den ∧ 2 * (num % den) ≤ den) ∨
      (roundDiv tie num den = num / den + 1 ∧ den ≤ 2 * (num % den)) := by
  unfold roundDiv
  have parity : num / den % 2 = 0 ∨ num / den % 2 = 1 := by omega
  cases h : compare (2 * (num % den)) den
  · exact .inl ⟨rfl, Nat.le_of_lt (Nat.compare_eq_lt.1 h)⟩
  · have tied := Nat.compare_eq_eq.1 h
    cases tie
    · rcases parity with even | odd
      · exact .inl ⟨by simp [even], by omega⟩
      · exact .inr ⟨by simp [odd], by omega⟩
    · exact .inr ⟨rfl, by omega⟩
  · exact .inr ⟨rfl, Nat.le_of_lt (Nat.compare_eq_gt.1 h)⟩

/-- A rounded quotient is within half a unit of the exact one. -/
theorem roundDiv_near (tie : Tie) (num den : Nat) (positive : 0 < den) :
    2 * (roundDiv tie num den * den) ≤ 2 * num + den ∧
      2 * num ≤ 2 * (roundDiv tie num den * den) + den := by
  have parts : den * (num / den) + num % den = num := Nat.div_add_mod num den
  rw [Nat.mul_comm] at parts
  rcases roundDiv_eq_or tie num den with ⟨down, near⟩ | ⟨up, near⟩
  · rw [down]
    omega
  · rw [up, Nat.add_mul, Nat.one_mul]
    have := Nat.mod_lt num positive
    omega

end Reckoner
