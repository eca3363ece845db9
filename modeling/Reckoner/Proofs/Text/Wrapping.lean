import Reckoner.Proofs.Text.Lines
import Reckoner.Text.Wrap.Passes

/-!
# Wrapping

The two loops that wrap a text come to an end, never cut inside a character, and make the lines of
`wrap` (`Wrapping.ends_start_iff`). The lines hold all that is not white space in order, none is
empty, and each fits the width, but for a character that is wider than that by itself.

Words are measured as whole texts and pieces of words by their characters, so the width of a piece
is only known where columns add up (`IsAdditive`).
-/

namespace Reckoner.Text

/-! ## The two loops -/

namespace Chunk

theorem push_empty (c : Char) :
    push {} c = { text := [c], columns := charColumns c, bytes := c.utf8Size } := by
  rw [push, Nat.zero_add, Nat.zero_add, List.nil_append]

/-- What the scan of a word takes: a front of it, with its bytes, which is the next piece unless
nothing was taken at all. -/
theorem exists_fill (width : Nat) (chunk : Chunk) (rest : Text) :
    ∃ taken behind, rest = taken ++ behind ∧
      (chunk.fill width rest).text = chunk.text ++ taken ∧
      (chunk.fill width rest).bytes = chunk.bytes + byteLength taken ∧
      (chunk.text ≠ [] → piecesFrom width chunk.text.reverse chunk.columns rest =
        (chunk.text ++ taken) :: pieces width behind) := by
  induction rest generalizing chunk with
  | nil =>
      refine ⟨[], [], rfl, (List.append_nil _).symm, rfl, fun proper => ?_⟩
      rw [piecesFrom, if_neg (fun empty => proper (List.reverse_eq_nil_iff.mp empty)),
        List.reverse_reverse, List.append_nil]
      rfl
  | cons c rest ih =>
      rw [fill]
      split
      next wide =>
        refine ⟨[], c :: rest, rfl, (List.append_nil _).symm, rfl, fun proper => ?_⟩
        rw [piecesFrom, if_neg (by simp [proper, wide]), List.reverse_reverse, List.append_nil,
          pieces_cons]
      next room =>
        obtain ⟨taken, behind, rfl, text, bytes, next⟩ := ih (chunk.push c)
        refine ⟨c :: taken, behind, rfl, ?_, ?_, fun _ => ?_⟩
        · rw [text, push, List.append_assoc]
          rfl
        · rw [bytes, push, byteLength, Nat.add_assoc]
        · have more := next (List.append_ne_nil_of_right_ne_nil _ (List.cons_ne_nil c []))
          rw [push, List.reverse_append, List.append_assoc] at more
          rw [piecesFrom, if_pos (by simp [Nat.le_of_not_lt room])]
          exact more

/-- A front wider than a line takes nothing more. -/
theorem fill_of_wide {width : Nat} {chunk : Chunk} (wide : width < chunk.columns) (rest : Text) :
    chunk.fill width rest = chunk := by
  cases rest with
  | nil => rfl
  | cons c rest => rw [fill, if_pos (Nat.lt_of_lt_of_le wide (Nat.le_add_right _ _))]

theorem bytes_le_fill (width : Nat) (chunk : Chunk) (rest : Text) :
    chunk.bytes ≤ (chunk.fill width rest).bytes := by
  obtain ⟨_, _, _, _, bytes, _⟩ := exists_fill width chunk rest
  omega

/-- The first character of a word is taken in any case. -/
theorem first_cons (width : Nat) (c : Char) (rest : Text) :
    (first width (c :: rest)).text = ((push {} c).fill width rest).text ∧
      (first width (c :: rest)).bytes = ((push {} c).fill width rest).bytes := by
  have size := c.utf8Size_pos
  rw [first, fill]
  split
  next wide =>
    rw [fill_of_wide wide, push_empty]
    exact ⟨rfl, rfl⟩
  next room =>
    have taken := bytes_le_fill width (push {} c) rest
    rw [if_neg]
    · exact ⟨rfl, rfl⟩
    · rw [push_empty] at taken ⊢
      exact Nat.ne_of_gt (Nat.lt_of_lt_of_le size taken)

/-- **The front cut from a word** is its next piece, with the bytes it has there. -/
theorem exists_first (width : Nat) {word : Text} (nonempty : word ≠ []) :
    ∃ taken behind, word = taken ++ behind ∧ taken ≠ [] ∧ (first width word).text = taken ∧
      (first width word).bytes = byteLength taken ∧
      pieces width word = taken :: pieces width behind := by
  cases word with
  | nil => exact absurd rfl nonempty
  | cons c rest =>
      obtain ⟨same, size⟩ := first_cons width c rest
      obtain ⟨taken, behind, rfl, text, bytes, next⟩ := exists_fill width (push {} c) rest
      refine ⟨c :: taken, behind, rfl, List.cons_ne_nil c taken, ?_, ?_, ?_⟩
      · rw [same, text, push_empty]
        rfl
      · rw [size, bytes, push_empty, byteLength]
      · rw [push_empty] at next
        rw [pieces_cons]
        exact next (List.cons_ne_nil c [])

end Chunk

namespace Wrapping

variable {width : Nat} {wrapping : Wrapping}

/-- What every pass keeps: the line begun has no white space at its ends, its columns are counted
from nothing, and what is left to take are words. -/
structure IsSound (wrapping : Wrapping) : Prop where
  trimmed : IsTrimmed wrapping.line
  fresh : wrapping.line = [] → wrapping.used = 0
  whole : ∀ word ∈ wrapping.words, IsWord word

/-- The lines that are done and those still to come. -/
def outcome (width : Nat) (wrapping : Wrapping) : List Text :=
  wrapping.lines ++
    if wrapping.remaining = [] then linesFrom width wrapping.line wrapping.used wrapping.words
    else linesFrom width wrapping.line wrapping.used [] ++ pieces width wrapping.remaining ++
      linesFrom width [] 0 wrapping.words

/-- How much is still to be taken. -/
def left (wrapping : Wrapping) : Nat :=
  wrapping.remaining.length + wrapping.words.flatten.length + wrapping.words.length

theorem outcome_of_line_eq_nil (empty : wrapping.line = []) (fresh : wrapping.used = 0) :
    wrapping.outcome width = wrapping.lines ++ (pieces width wrapping.remaining ++
      linesFrom width [] 0 wrapping.words) := by
  rw [outcome, empty, fresh]
  split
  next all =>
    rw [all]
    rfl
  next => rfl

theorem isTrimmed_nil : IsTrimmed [] := ⟨nofun, nofun⟩

/-- The line begun is put to those that are done if there is anything on it. -/
theorem IsSound.closed (sound : wrapping.IsSound) :
    (if wrapping.line = [] then wrapping else wrapping.close) =
      { wrapping with lines := wrapping.lines ++ asLine wrapping.line, line := [], used := 0 } := by
  obtain ⟨lines, line, used, remaining, words⟩ := wrapping
  split
  next none =>
    have fresh := sound.fresh none
    subst none fresh
    rw [asLine_nil, List.append_nil]
  next begun => rw [asLine_of_ne_nil begun, close, sound.trimmed.trim_eq]

theorem finish_eq (sound : wrapping.IsSound) :
    wrapping.finish = wrapping.lines ++ asLine wrapping.line := by
  have closed := congrArg lines sound.closed
  rw [apply_ite lines] at closed
  exact closed

/-- A pass of the inner loop takes the next piece. -/
theorem exists_cut (sound : wrapping.IsSound) (cutting : wrapping.remaining ≠ []) :
    ∃ after, wrapping.cut width = some after ∧ after.IsSound ∧
      after.outcome width = wrapping.outcome width ∧ after.left < wrapping.left := by
  obtain ⟨taken, behind, whole, more, text, bytes, next⟩ := Chunk.exists_first width cutting
  refine ⟨{ wrapping with lines := wrapping.lines ++ asLine wrapping.line ++ [taken],
                          line := [], used := 0, remaining := behind }, ?_, ?_, ?_, ?_⟩
  · rw [cut, sound.closed, text, bytes]
    simp only [whole, cutAt?_append, Option.map_some]
  · exact ⟨isTrimmed_nil, fun _ => rfl, sound.whole⟩
  · rw [outcome_of_line_eq_nil rfl rfl, outcome, if_neg cutting, next, linesFrom_nil]
    simp only [List.append_assoc, List.cons_append, List.nil_append]
  · have size := congrArg List.length whole
    rw [List.length_append] at size
    have begun := List.length_pos_of_ne_nil more
    simp only [left]
    omega

theorem isTrimmed_append_blank {line word : Text} (trimmed : IsTrimmed line) (begun : line ≠ [])
    (whole : IsWord word) : IsTrimmed (line ++ [' '] ++ word) where
  starts := by
    rw [List.append_assoc, List.head?_append_of_ne_nil _ begun]
    exact trimmed.starts
  ends := by
    rw [List.getLast?_append_of_ne_nil _ whole.nonempty]
    exact whole.isTrimmed.ends

/-- A pass of the outer loop puts a word where it belongs. -/
theorem add_of_isSound {word : Text} {rest : List Text} (sound : wrapping.IsSound)
    (taken : wrapping.remaining = []) (words : wrapping.words = word :: rest)
    (fits : columns word ≤ width) :
    ({ wrapping with words := rest }.add width word).IsSound ∧
      ({ wrapping with words := rest }.add width word).outcome width = wrapping.outcome width := by
  have whole := sound.whole
  rw [words, List.forall_mem_cons] at whole
  have begins : word = [] → columns word = 0 := fun empty => absurd empty whole.1.nonempty
  rw [outcome, outcome, if_pos taken, words]
  by_cases begun : wrapping.line = []
  · -- The line begun has nothing on it.
    have same : { wrapping with words := rest }.add width word =
        { wrapping with line := word, used := columns word, words := rest } := by
      simp [add, begun, sound.fresh begun]
    rw [same, if_pos taken, begun, linesFrom_start fits]
    exact ⟨⟨whole.1.isTrimmed, begins, whole.2⟩, rfl⟩
  · by_cases full : width < wrapping.used + columns word + 1
    · have same : { wrapping with words := rest }.add width word =
          { wrapping with lines := wrapping.lines ++ [wrapping.line], line := word,
                          used := columns word, words := rest } := by
        simp [add, begun, full, close, sound.trimmed.trim_eq]
      rw [same, if_pos taken, linesFrom_full fits begun full]
      exact ⟨⟨whole.1.isTrimmed, begins, whole.2⟩, List.append_assoc _ _ _⟩
    · have same : { wrapping with words := rest }.add width word =
          { wrapping with line := wrapping.line ++ [' '] ++ word,
                          used := wrapping.used + 1 + columns word, words := rest } := by
        simp [add, begun, full]
      rw [same, if_pos taken, linesFrom_room fits begun full]
      refine ⟨⟨isTrimmed_append_blank sound.trimmed begun whole.1, ?_, whole.2⟩, rfl⟩
      intro empty
      exact absurd empty (List.append_ne_nil_of_right_ne_nil _ whole.1.nonempty)

theorem remaining_add (width : Nat) (word : Text) (wrapping : Wrapping) :
    (wrapping.add width word).remaining = wrapping.remaining ∧
      (wrapping.add width word).words = wrapping.words := by
  simp only [add]
  constructor <;> split <;> split <;> rfl

/-- A word wider than a line is left to the inner loop. -/
theorem outcome_of_wide {word : Text} {rest : List Text} (taken : wrapping.remaining = [])
    (words : wrapping.words = word :: rest) (wide : width < columns word) (begun : word ≠ []) :
    { wrapping with remaining := word, words := rest }.outcome width = wrapping.outcome width := by
  rw [outcome, outcome, if_pos taken, if_neg begun, words, linesFrom_wide wide, linesFrom_nil]

/-- **One pass** ends with the lines there are, or keeps them and leaves less to be taken. -/
theorem pass_of_isSound (width : Nat) (sound : wrapping.IsSound) :
    wrapping.pass width = some (.ended (wrapping.outcome width)) ∨
      ∃ after, wrapping.pass width = some (.next after) ∧ after.IsSound ∧
        after.outcome width = wrapping.outcome width ∧ after.left < wrapping.left := by
  obtain ⟨lines, line, used, remaining, words⟩ := wrapping
  cases remaining with
  | cons c others =>
      obtain ⟨after, cut, kept, same, less⟩ :=
        exists_cut sound (List.cons_ne_nil c others)
      exact .inr ⟨after, congrArg (Option.map Pass.next) cut, kept, same, less⟩
  | nil =>
      cases words with
      | nil =>
          left
          rw [pass, finish_eq sound, outcome, if_pos rfl, linesFrom_nil]
      | cons word rest =>
          right
          have whole := List.forall_mem_cons.mp sound.whole
          rw [pass]
          by_cases wide : width < columns word
          · refine ⟨_, if_pos wide, ⟨sound.trimmed, sound.fresh, whole.2⟩,
              outcome_of_wide rfl rfl wide whole.1.nonempty, ?_⟩
            simp only [Wrapping.left, List.flatten_cons, List.length_append, List.length_cons,
              List.length_nil]
            omega
          · obtain ⟨kept, same⟩ := add_of_isSound sound rfl rfl (Nat.le_of_not_lt wide)
            refine ⟨_, if_neg wide, kept, same, ?_⟩
            obtain ⟨nothing, others⟩ := remaining_add width word ⟨lines, line, used, [], rest⟩
            simp only [Wrapping.left, nothing, others, List.flatten_cons, List.length_append,
              List.length_cons]
            omega

/-- **The loops come to an end**, with no other lines than those of the plain definition. -/
theorem ends_iff_of_isSound (sound : wrapping.IsSound) {lines : List Text} :
    Ends width wrapping lines ↔ lines = wrapping.outcome width := by
  constructor
  · intro ends
    induction ends with
    | ended last =>
        rcases pass_of_isSound width sound with done | ⟨after, passes, -⟩
        · rw [done] at last
          cases last
          rfl
        · rw [passes] at last
          cases last
    | next passes later ih =>
        rcases pass_of_isSound width sound with done | ⟨after, same, kept, outcome, -⟩
        · rw [done] at passes
          cases passes
        · rw [same] at passes
          cases passes
          rw [ih kept, outcome]
  · rintro rfl
    -- Each pass leaves less to be taken, so there is a last one.
    induction size : wrapping.left using Nat.strongRecOn generalizing wrapping with
    | ind size ih =>
        subst size
        rcases pass_of_isSound width sound with done | ⟨after, passes, kept, same, less⟩
        · exact .ended done
        · exact .next passes (same ▸ ih after.left less kept rfl)

theorem isSound_start (text : Text) : (start text).IsSound :=
  ⟨isTrimmed_nil, fun _ => rfl, fun _ => isWord_of_mem_words⟩

/-- **Wrapping by two loops is wrapping**: they end, and only so. -/
theorem ends_start_iff (positive : 0 < width) (text : Text) {lines : List Text} :
    Ends width (start text) lines ↔ lines = wrap width text := by
  rw [ends_iff_of_isSound (isSound_start text), wrap, if_neg (Nat.ne_of_gt positive)]
  rfl

end Wrapping

/-! ## What a reader sees -/

theorem isAdditive_of_isInfix {text part : Text} (additive : IsAdditive text)
    (inside : part <:+: text) : IsAdditive part :=
  fun smaller within => additive smaller (within.trans inside)

theorem columns_of_fitsOrSingle {width : Nat} {piece : Text} (fits : FitsOrSingle width piece)
    (additive : IsAdditive piece) :
    columns piece ≤ width ∨ ∃ c, piece = [c] ∧ width < columns piece := by
  have counted := additive piece (List.infix_refl piece)
  rw [counted]
  refine fits.imp_right (fun ⟨c, alone, wide⟩ => ⟨c, alone, ?_⟩)
  rw [alone]
  exact wide

/-- **Wrapping.** For a width that is not zero and a text in which columns add up, the loops end
with the lines of `wrap`. They hold all but the white space of the text, in order; none is empty;
each fits the width or is a single character that does not; and if all words fit, the lines put
together with single spaces are the words put together with single spaces. -/
theorem lines_of_isAdditive {width : Nat} (positive : 0 < width) {text : Text}
    (additive : IsAdditive text) :
    (∀ lines, Wrapping.Ends width (Wrapping.start text) lines ↔ lines = wrap width text) ∧
      squeeze (wrap width text).flatten = squeeze text ∧
      (∀ line ∈ wrap width text, line ≠ []) ∧
      (∀ line ∈ wrap width text,
        columns line ≤ width ∨ ∃ c, line = [c] ∧ width < columns line) ∧
      ((∀ word ∈ words text, columns word ≤ width) →
        unwords (wrap width text) = unwords (words text)) := by
  have whole : ∀ word ∈ words text, IsWord word := fun _ => isWord_of_mem_words
  have made : wrap width text = linesFrom width [] 0 (words text) :=
    if_neg (Nat.ne_of_gt positive)
  refine ⟨fun _ => Wrapping.ends_start_iff positive text, ?_, ?_, ?_, ?_⟩
  · rw [made, squeeze_flatten_linesFrom whole, flatten_words]
    rfl
  · rw [made]
    exact ne_nil_of_mem_linesFrom
  · intro line member
    rw [made] at member
    have fits := fitsOrPiece_of_mem_linesFrom (fun proper => absurd rfl proper) (Nat.zero_le width)
      line member
    rcases fits with short | ⟨word, among, piece⟩
    · exact .inl short
    · have inside := (isInfix_of_mem_pieces piece).trans ((isParted_words text).isInfix word among)
      exact columns_of_fitsOrSingle (fitsOrSingle_of_mem_pieces line piece)
        (isAdditive_of_isInfix additive inside)
  · intro fits
    rw [made, unwords_linesFrom whole fits]
    rfl

/-- A sign of two columns and a letter with a mark on it, on lines of one column. -/
theorem lines_of_isAdditive_narrow :
    0 < 1 ∧ IsAdditive "日 xe\u0301y".toList ∧
      Wrapping.Ends 1 (Wrapping.start "日 xe\u0301y".toList)
        ["日".toList, "x".toList, "e\u0301".toList, "y".toList] ∧
      ∀ line ∈ ["日".toList, "x".toList, "e\u0301".toList, "y".toList],
        columns line ≤ 1 ∨ ∃ c, line = [c] ∧ 1 < columns line := by
  have additive : IsAdditive "日 xe\u0301y".toList := by decide +kernel
  have lines : wrap 1 "日 xe\u0301y".toList =
      ["日".toList, "x".toList, "e\u0301".toList, "y".toList] := by decide +kernel
  obtain ⟨ends, -, -, fits, -⟩ := lines_of_isAdditive Nat.one_pos additive
  rw [lines] at fits
  exact ⟨Nat.one_pos, additive, (ends _).mpr lines.symm, fits⟩

example : wrap 5 "1 + 2 + 3 + 4".toList = ["1 + 2".toList, "+ 3 +".toList, "4".toList] := by
  decide +kernel

end Reckoner.Text
