import Mathlib.Data.List.Infix
import Reckoner.Proofs.Text.Words
import Reckoner.Text.Wrap

/-!
# Lines and pieces

A word cut into pieces is the pieces put together (`flatten_pieces`), and each of them fits the
width or is one character (`fitsOrSingle_of_mem_pieces`), by the sum of its characters' columns. The
lines made of words hold the words in order and nothing else but blanks
(`squeeze_flatten_linesFrom`, `unwords_linesFrom`). A line of whole words fits as a text, since
columns always add up across a blank (`columns_append_blank`), so each line fits or is a piece of a
word (`fitsOrPiece_of_mem_linesFrom`).
-/

namespace Reckoner.Text

/-- The sum of the columns that the characters of a text take by themselves. -/
def charSum : Text → Nat
  | [] => 0
  | c :: rest => charColumns c + charSum rest

/-- A text in which columns add up: each part of it takes the columns of its characters. -/
def IsAdditive (text : Text) : Prop := ∀ part, part <:+: text → columns part = charSum part

theorem isAdditive_iff (text : Text) :
    IsAdditive text ↔ ∀ back ∈ text.tails, ∀ part ∈ back.inits, columns part = charSum part := by
  constructor
  · intro additive back behind part before
    rw [List.mem_tails] at behind
    rw [List.mem_inits] at before
    exact additive part (before.isInfix.trans behind.isInfix)
  · intro each part inside
    obtain ⟨back, before, behind⟩ := List.infix_iff_prefix_suffix.mp inside
    exact each back ((List.mem_tails _ _).mpr behind) part ((List.mem_inits _ _).mpr before)

instance (text : Text) : Decidable (IsAdditive text) :=
  decidable_of_iff _ (isAdditive_iff text).symm

/-! ## Columns across a blank -/

/-- A text behind which nothing joins it is measured by itself. -/
theorem measure_append {rest : Text} (apart : (measure rest).2 = .nothing) (front : Text) :
    measure (front ++ rest) = ((measure front).1 + (measure rest).1, (measure front).2) := by
  induction front with
  | nil => rw [List.nil_append, measure, Int.zero_add, ← apart]
  | cons c others ih =>
      rw [List.cons_append, measure, ih, measure]
      simp only [Int.add_assoc]

theorem prepend_blank (next : Following) : next.prepend ' ' = (1, .nothing) := by
  have fixed : selectableRanges.contains ' '.toNat = false := by decide
  rw [Following.prepend, Following.makesPicture, fixed, Bool.and_false,
    if_neg Bool.false_ne_true, if_pos (by decide), if_neg (by decide), if_neg (by simp)]

theorem columns_append_blank (front rest : Text) :
    columns (front ++ ' ' :: rest) = columns front + 1 + columns rest := by
  have blank : measure (' ' :: rest) = (1 + (measure rest).1, .nothing) := by
    simp only [measure, prepend_blank]
  have whole := measure_append (congrArg Prod.snd blank) front
  have total := columns_eq_measure (front ++ ' ' :: rest)
  have before := columns_eq_measure front
  have behind := columns_eq_measure rest
  rw [whole, blank] at total
  simp only at total
  omega

/-! ## Pieces of a word -/

theorem flatten_piecesFrom (width : Nat) (begun : Text) (used : Nat) (rest : Text) :
    (piecesFrom width begun used rest).flatten = begun.reverse ++ rest := by
  fun_induction piecesFrom width begun used rest with
  | case1 used => rfl
  | case2 begun used proper => rw [List.flatten_singleton, List.append_nil]
  | case3 begun used c rest fits ih => rw [ih, List.reverse_cons, List.append_assoc]; rfl
  | case4 begun used c rest wide ih => rw [List.flatten_cons, ih]; rfl

theorem flatten_pieces (width : Nat) (word : Text) : (pieces width word).flatten = word :=
  flatten_piecesFrom width [] 0 word

theorem isInfix_of_mem_pieces {width : Nat} {word piece : Text}
    (member : piece ∈ pieces width word) : piece <:+: word := by
  have inside := List.infix_of_mem_flatten member
  rwa [flatten_pieces] at inside

theorem pieces_cons (width : Nat) (c : Char) (rest : Text) :
    pieces width (c :: rest) = piecesFrom width [c] (charColumns c) rest := by
  rw [pieces, piecesFrom, decide_eq_true rfl, Bool.true_or, if_pos rfl, Nat.zero_add]

theorem ne_nil_of_mem_piecesFrom {width : Nat} {begun : Text} {used : Nat} {rest : Text} :
    ∀ piece ∈ piecesFrom width begun used rest, piece ≠ [] := by
  fun_induction piecesFrom width begun used rest with
  | case1 used => exact List.forall_mem_nil _
  | case2 begun used proper =>
      rw [List.forall_mem_singleton]
      exact fun empty => proper (List.reverse_eq_nil_iff.mp empty)
  | case3 begun used c rest fits ih => exact ih
  | case4 begun used c rest wide ih =>
      refine List.forall_mem_cons.mpr ⟨fun empty => ?_, ih⟩
      rw [List.reverse_eq_nil_iff] at empty
      exact wide (by rw [empty]; rfl)

/-- A piece as wide as a line at most, or one character wider than that. -/
def FitsOrSingle (width : Nat) (piece : Text) : Prop :=
  charSum piece ≤ width ∨ ∃ c, piece = [c] ∧ width < charColumns c

theorem charSum_concat (text : Text) (c : Char) :
    charSum (text ++ [c]) = charSum text + charColumns c := by
  induction text with
  | nil => exact Nat.add_comm (charColumns c) 0
  | cons first rest ih => rw [List.cons_append, charSum, ih, charSum, Nat.add_assoc]

theorem fitsOrSingle_singleton (width : Nat) (c : Char) : FitsOrSingle width [c] := by
  rcases Nat.lt_or_ge width (charColumns c) with wide | fits
  · exact .inr ⟨c, rfl, wide⟩
  · exact .inl fits

theorem fitsOrSingle_of_mem_piecesFrom {width : Nat} {begun : Text} {used : Nat} {rest : Text}
    (counted : used = charSum begun.reverse) (fits : FitsOrSingle width begun.reverse) :
    ∀ piece ∈ piecesFrom width begun used rest, FitsOrSingle width piece := by
  fun_induction piecesFrom width begun used rest with
  | case1 used => exact List.forall_mem_nil _
  | case2 begun used proper => exact List.forall_mem_singleton.mpr fits
  | case3 begun used c rest room ih =>
      have longer : used + charColumns c = charSum (c :: begun).reverse := by
        rw [counted, List.reverse_cons, charSum_concat]
      refine ih longer ?_
      rw [Bool.or_eq_true, decide_eq_true_eq, decide_eq_true_eq] at room
      rcases room with rfl | room
      · exact fitsOrSingle_singleton width c
      · exact .inl (longer ▸ room)
  | case4 begun used c rest wide ih =>
      have alone : charColumns c = charSum [c].reverse := (Nat.add_zero _).symm
      exact List.forall_mem_cons.mpr ⟨fits, ih alone (fitsOrSingle_singleton width c)⟩

theorem fitsOrSingle_of_mem_pieces {width : Nat} {word : Text} :
    ∀ piece ∈ pieces width word, FitsOrSingle width piece :=
  fitsOrSingle_of_mem_piecesFrom rfl (.inl (Nat.zero_le width))

/-! ## Lines of words -/

/-- A line, if there is anything on it. -/
def asLine (line : Text) : List Text := if line = [] then [] else [line]

theorem asLine_nil : asLine [] = [] := rfl

theorem asLine_of_ne_nil {line : Text} (proper : line ≠ []) : asLine line = [line] := if_neg proper

theorem flatten_asLine (line : Text) : (asLine line).flatten = line := by
  rw [asLine]
  split
  next none => exact none.symm
  next => exact List.append_nil line

theorem mem_asLine {line member : Text} : member ∈ asLine line ↔ member = line ∧ line ≠ [] := by
  rw [asLine]
  split
  next none => simp [none]
  next some => simp [some]

section Lines

variable {width used : Nat} {line : Text}

theorem linesFrom_nil : linesFrom width line used [] = asLine line := by rw [linesFrom, asLine]

theorem linesFrom_wide {word : Text} {rest : List Text} (wide : width < columns word) :
    linesFrom width line used (word :: rest) =
      asLine line ++ pieces width word ++ linesFrom width [] 0 rest := by
  rw [linesFrom]
  exact if_pos wide

theorem linesFrom_start {word : Text} {rest : List Text} (fits : columns word ≤ width) :
    linesFrom width [] used (word :: rest) = linesFrom width word (columns word) rest := by
  rw [linesFrom]
  exact (if_neg (Nat.not_lt.mpr fits)).trans (if_pos rfl)

theorem linesFrom_full {word : Text} {rest : List Text} (fits : columns word ≤ width)
    (begun : line ≠ []) (full : width < used + columns word + 1) :
    linesFrom width line used (word :: rest) =
      line :: linesFrom width word (columns word) rest := by
  rw [linesFrom]
  exact (if_neg (Nat.not_lt.mpr fits)).trans ((if_neg begun).trans (if_pos full))

theorem linesFrom_room {word : Text} {rest : List Text} (fits : columns word ≤ width)
    (begun : line ≠ []) (room : ¬width < used + columns word + 1) :
    linesFrom width line used (word :: rest) =
      linesFrom width (line ++ [' '] ++ word) (used + 1 + columns word) rest := by
  rw [linesFrom]
  exact (if_neg (Nat.not_lt.mpr fits)).trans ((if_neg begun).trans (if_neg room))

theorem squeeze_append_blank (front rest : Text) :
    squeeze (front ++ [' '] ++ rest) = squeeze front ++ squeeze rest := by
  have blank : squeeze [' '] = [] := squeeze_of_isAllBlank rfl
  rw [squeeze_append, squeeze_append, blank, List.append_nil]

/-- **The lines hold what the words hold**, in order. -/
theorem squeeze_flatten_linesFrom {words : List Text} (whole : ∀ word ∈ words, IsWord word) :
    squeeze (linesFrom width line used words).flatten = squeeze line ++ words.flatten := by
  fun_induction linesFrom width line used words with
  | case1 used => rfl
  | case2 line used proper => rw [List.flatten_singleton, List.flatten_nil, List.append_nil]
  | case3 line used word rest columns begun wide ih =>
      rw [List.forall_mem_cons] at whole
      have front : begun.flatten = line := flatten_asLine line
      rw [List.flatten_append, List.flatten_append, front, flatten_pieces, squeeze_append,
        squeeze_append, ih whole.2, whole.1.squeeze, List.flatten_cons, List.append_assoc]
      rfl
  | case4 used word rest columns fits ih =>
      rw [List.forall_mem_cons] at whole
      rw [ih whole.2, whole.1.squeeze]
      rfl
  | case5 line used word rest columns fits some full ih =>
      rw [List.forall_mem_cons] at whole
      rw [List.flatten_cons, squeeze_append, ih whole.2, whole.1.squeeze, List.flatten_cons]
  | case6 line used word rest columns fits some room ih =>
      rw [List.forall_mem_cons] at whole
      rw [ih whole.2, squeeze_append_blank, whole.1.squeeze, List.flatten_cons, List.append_assoc]

theorem ne_nil_of_mem_linesFrom {words : List Text} :
    ∀ member ∈ linesFrom width line used words, member ≠ [] := by
  fun_induction linesFrom width line used words with
  | case1 used => exact List.forall_mem_nil _
  | case2 line used proper => exact List.forall_mem_singleton.mpr proper
  | case3 line used word rest columns begun wide ih =>
      refine List.forall_mem_append.mpr ⟨List.forall_mem_append.mpr ⟨?_, ?_⟩, ih⟩
      · intro member begins
        obtain ⟨rfl, proper⟩ := mem_asLine.mp begins
        exact proper
      · exact ne_nil_of_mem_piecesFrom
  | case4 used word rest columns fits ih => exact ih
  | case5 line used word rest columns fits proper full ih => exact List.forall_mem_cons.mpr ⟨proper, ih⟩
  | case6 line used word rest columns fits proper room ih => exact ih

/-- A line as wide as it may be at most, or a piece of one of the words. -/
def FitsOrPiece (width : Nat) (words : List Text) (line : Text) : Prop :=
  columns line ≤ width ∨ ∃ word ∈ words, line ∈ pieces width word

theorem FitsOrPiece.cons {words : List Text} (fits : FitsOrPiece width words line) (word : Text) :
    FitsOrPiece width (word :: words) line :=
  fits.imp_right (fun ⟨other, member, piece⟩ => ⟨other, List.mem_cons_of_mem word member, piece⟩)

/-- **Each line fits** as a text, or is a piece of a word. -/
theorem fitsOrPiece_of_mem_linesFrom {words : List Text}
    (counted : line ≠ [] → used = columns line) (fits : columns line ≤ width) :
    ∀ member ∈ linesFrom width line used words, FitsOrPiece width words member := by
  fun_induction linesFrom width line used words with
  | case1 used => exact List.forall_mem_nil _
  | case2 line used proper => exact List.forall_mem_singleton.mpr (.inl fits)
  | case3 line used word rest wide begun large ih =>
      have later := ih (fun proper => absurd rfl proper) (Nat.zero_le width)
      intro member among
      rw [List.mem_append, List.mem_append] at among
      rcases among with (begins | piece) | behind
      · rw [(mem_asLine.mp begins).1]
        exact .inl fits
      · exact .inr ⟨word, List.mem_cons_self, piece⟩
      · exact (later member behind).cons word
  | case4 used word rest wide small ih =>
      have later := ih (fun _ => rfl) (Nat.le_of_not_lt small)
      exact fun member among => (later member among).cons word
  | case5 line used word rest wide small proper full ih =>
      have later := ih (fun _ => rfl) (Nat.le_of_not_lt small)
      exact List.forall_mem_cons.mpr
        ⟨.inl fits, fun member among => (later member among).cons word⟩
  | case6 line used word rest wide small proper room ih =>
      have longer : used + 1 + wide = columns (line ++ [' '] ++ word) := by
        rw [List.append_assoc, List.singleton_append, columns_append_blank, counted proper]
      have later := ih (fun _ => longer) (by omega)
      exact fun member among => (later member among).cons word

theorem unwords_merge (word : Text) (rest : List Text) :
    unwords ((line ++ [' '] ++ word) :: rest) = unwords (line :: word :: rest) := by
  cases rest with
  | nil => rfl
  | cons next others =>
      rw [unwords_cons_cons, unwords_cons_cons line, unwords_cons_cons word, List.append_assoc,
        List.append_assoc]
      rfl

/-- **Lines of words that all fit** put together with single spaces are the words put together. -/
theorem unwords_linesFrom {words : List Text} (whole : ∀ word ∈ words, IsWord word)
    (fits : ∀ word ∈ words, columns word ≤ width) :
    unwords (linesFrom width line used words) = unwords (asLine line ++ words) := by
  fun_induction linesFrom width line used words with
  | case1 used => rfl
  | case2 line used proper => rw [asLine_of_ne_nil proper, List.append_nil]
  | case3 line used word rest wide begun large ih =>
      exact absurd large (Nat.not_lt.mpr (fits word List.mem_cons_self))
  | case4 used word rest wide small ih =>
      rw [List.forall_mem_cons] at whole fits
      rw [ih whole.2 fits.2, asLine_of_ne_nil whole.1.nonempty]
      rfl
  | case5 line used word rest wide small proper full ih =>
      rw [List.forall_mem_cons] at whole fits
      have same := ih whole.2 fits.2
      rw [asLine_of_ne_nil whole.1.nonempty] at same
      rw [asLine_of_ne_nil proper]
      have more : linesFrom width word wide rest ≠ [] := by
        intro empty
        have kept : squeeze (linesFrom width word wide rest).flatten = _ :=
          squeeze_flatten_linesFrom whole.2
        rw [empty, whole.1.squeeze] at kept
        exact whole.1.nonempty (List.append_eq_nil_iff.mp kept.symm).1
      rw [unwords_cons line more, same]
      exact (unwords_cons_cons line word rest).symm
  | case6 line used word rest wide small proper room ih =>
      rw [List.forall_mem_cons] at whole fits
      rw [ih whole.2 fits.2, asLine_of_ne_nil proper, asLine_of_ne_nil (by simp)]
      exact unwords_merge word rest

end Lines

end Reckoner.Text
