import Reckoner.Text.Columns.Following

/-!
Columns: how much of a terminal's row a text takes. Most characters take one column, wide ones two
and marks none, and the columns of a text are the sum over its characters but where characters are
drawn together: ligatures, flags, keycaps, pictures tied by joiners, and characters whose form a
variation selector chooses. So a text is measured from its end, with a memory of what follows the
character at hand.

`measure_nonneg` says that no text takes less than no column, so that `columns` is the whole sum.
-/

namespace Reckoner.Text

/-- The columns of a text, and what a character in front of it would see. -/
def measure : Text → Int × Following
  | [] => (0, .nothing)
  | c :: rest =>
    let (after, next) := measure rest
    let (own, seen) := next.prepend c
    (own + after, seen)

/-- The columns that a text takes. -/
def columns (text : Text) : Nat := (measure text).1.toNat

/-- A text takes as many columns as may still be taken back from it. -/
theorem slack_measure (text : Text) : (measure text).2.tail.slack ≤ (measure text).1 := by
  induction text with
  | nil => decide
  | cons c rest ih =>
    have step := (measure rest).2.slack_prepend c
    simp only [measure]
    omega

theorem measure_nonneg (text : Text) : 0 ≤ (measure text).1 :=
  Int.le_trans (measure text).2.tail.slack_nonneg (slack_measure text)

/-- The columns of a text are the sum over its characters. -/
theorem columns_eq_measure (text : Text) : (columns text : Int) = (measure text).1 :=
  Int.toNat_of_nonneg (measure_nonneg text)

end Reckoner.Text
