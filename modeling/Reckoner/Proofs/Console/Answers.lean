import Reckoner.Console.EntryRows
import Reckoner.Proofs.Decimal.Notation
import Reckoner.Proofs.Screen.Writing

/-!
# Answers behind expressions

The first row of an entry ends in its answer, an equals sign and the result, and in its age. A result
is shown in characters of ASCII that are seen (`Answer.isSeen_text`), so it takes as many columns as
it has characters. The expression is wrapped without regard to it: the row holds the answer in full
exactly if there is room for it behind the first line (`Entry.holdsAnswer_iff`), and an expression
without a line has no such row. The row stands in the list where the block of the entry starts
(`Console.exists_blockStart`).
-/

namespace Reckoner

/-! ## The characters of an answer -/

namespace Text

/-- The characters of ASCII that are seen: all that are printed but the space. -/
def isSeen (c : Char) : Bool := within 0x21 0x7E c.toNat

theorem toNat_of_isSeen {c : Char} (seen : isSeen c = true) :
    0x21 ≤ c.toNat ∧ c.toNat ≤ 0x7E := by
  simpa only [isSeen, within, Bool.and_eq_true, decide_eq_true_eq] using seen

theorem isPrinted_of_isSeen {c : Char} (seen : isSeen c = true) : isPrinted c = true := by
  obtain ⟨low, high⟩ := toNat_of_isSeen seen
  simp only [isPrinted, within, Bool.and_eq_true, decide_eq_true_eq]
  omega

theorem isSeen_of_isDigit {c : Char} (digit : isDigit c = true) : isSeen c = true := by
  simp only [isDigit, Bool.and_eq_true, decide_eq_true_eq] at digit
  have low : '0'.toNat ≤ c.toNat := digit.1
  have high : c.toNat ≤ '9'.toNat := digit.2
  simp only [isSeen, within, Bool.and_eq_true, decide_eq_true_eq]
  exact ⟨(by decide : 0x21 ≤ '0'.toNat).trans low, high.trans (by decide)⟩

/-- A text of which something is seen, and everything. -/
structure IsSeen (text : Text) : Prop where
  proper : text ≠ []
  all : ∀ c ∈ text, isSeen c = true

theorem IsSeen.append {first second : Text} (front : IsSeen first) (back : IsSeen second) :
    IsSeen (first ++ second) where
  proper := List.append_ne_nil_of_left_ne_nil front.proper _
  all := List.forall_mem_append.mpr ⟨front.all, back.all⟩

theorem IsSeen.cons {c : Char} (first : isSeen c = true) {text : Text} (rest : IsSeen text) :
    IsSeen (c :: text) where
  proper := List.cons_ne_nil _ _
  all := List.forall_mem_cons.mpr ⟨first, rest.all⟩

theorem IsDigits.isSeen {digits : Text} (proper : IsDigits digits) : IsSeen digits :=
  ⟨proper.proper, fun c member => isSeen_of_isDigit (proper.all c member)⟩

theorem IsDecimal.isSeen {text : Text} (decimal : IsDecimal text) : IsSeen text := by
  cases decimal with
  | whole proper => exact proper.isSeen
  | pointed whole part => exact whole.isSeen.append (part.isSeen.cons (by decide))

theorem isSeen_ofInt (power : Int) : IsSeen (ofInt power) := by
  cases power with
  | ofNat n => exact (isDigits_ofNat n).isSeen
  | negSucc n => exact (isDigits_ofNat (n + 1)).isSeen.cons (by decide)

end Text

theorem isSeen_signed (x : Float) {text : Text} (seen : Text.IsSeen text) :
    Text.IsSeen (signed x text) := by
  rw [signed]
  split
  · exact seen.cons (by decide)
  · exact seen

/-- **Every double is shown in characters that are seen.** -/
theorem Answer.isSeen_text (x : Float) : Text.IsSeen (text x) := by
  have word : Text.IsSeen infiniteText ∧ Text.IsSeen undefinedText :=
    ⟨⟨by decide, List.all_eq_true.mp rfl⟩, by decide, List.all_eq_true.mp rfl⟩
  cases magnitude : Magnitude.ofFloat x with
  | finite value =>
      rw [text]
      split
      · obtain ⟨body, power, decimal, shown⟩ := scientificText_of_finite magnitude
        rw [shown, List.append_assoc]
        exact isSeen_signed x
          (decimal.isSeen.append ((Text.isSeen_ofInt power).cons (by decide)))
      · obtain ⟨body, decimal, shown⟩ := plainText_of_finite magnitude
        rw [shown]
        exact isSeen_signed x decimal.isSeen
  | infinite =>
      rw [text, scientificText, plainText, magnitude]
      split
      · exact isSeen_signed x word.1
      · exact isSeen_signed x word.1
  | undefined =>
      rw [text, scientificText, plainText, magnitude]
      split
      · exact word.2
      · exact word.2

/-! ## The first row of an entry -/

/-- The columns of an expression that is cut into spans. -/
def Highlight.columns (expression : Text) : Nat :=
  (expression.splitBy joins).foldr (fun run rest => Text.clusterColumns run + rest) 0

theorem Highlight.columns_spans (surroundings : Style) (palette : Palette) (expression : Text) :
    (spans surroundings palette expression).columns = columns expression := by
  rw [StyledLine.columns, spans, List.foldr_map, columns]

namespace Entry

/-- The result as it is shown behind the expression. -/
def answer (entry : Entry) : Text := " = ".toList ++ Answer.text entry.result

/-- The first line of the expression in a list of a given width. -/
def firstLine (entry : Entry) (width : Nat) : Option Text :=
  (Text.wrap (width - 4) (Spacing.format entry.input)).head?

/-- The columns of a first line with the sign in front of it. -/
def leadColumns (line : Text) : Nat := 2 + Highlight.columns line

/-- The expression has a first line, and there is room for the answer behind that. -/
def FitsIn (entry : Entry) (width : Nat) : Prop :=
  ∃ line, entry.firstLine width = some line ∧ leadColumns line + entry.answer.length ≤ width

theorem fitsIn_iff {entry : Entry} {width : Nat} {line : Text}
    (first : entry.firstLine width = some line) :
    entry.FitsIn width ↔ leadColumns line + entry.answer.length ≤ width := by
  constructor
  · rintro ⟨other, same, room⟩
    rw [first] at same
    cases same
    exact room
  · exact fun room => ⟨line, first, room⟩

/-- The answer stands in a row within its width, in two spans of its own before the last one. -/
def HoldsAnswer (entry : Entry) (width : Nat) (row : StyledLine) : Prop :=
  ∃ (front : StyledLine) (sign result age : Span), row = front ++ ([sign, result] ++ [age]) ∧
    StyledLine.text [sign, result] = entry.answer ∧
    front.columns + entry.answer.length ≤ width

theorem printed_answer (entry : Entry) : ∀ c ∈ entry.answer, Text.isPrinted c = true :=
  List.forall_mem_append.mpr ⟨List.all_eq_true.mp rfl, fun c member =>
    Text.isPrinted_of_isSeen ((Answer.isSeen_text entry.result).all c member)⟩

/-- The answer ends in a character that is seen. -/
theorem exists_getLast?_answer (entry : Entry) :
    ∃ c, entry.answer.getLast? = some c ∧ Text.isSeen c = true := by
  obtain ⟨proper, all⟩ := Answer.isSeen_text entry.result
  refine ⟨(Answer.text entry.result).getLast proper, ?_, all _ (List.getLast_mem proper)⟩
  rw [answer, List.getLast?_append_of_ne_nil _ proper, List.getLast?_eq_some_getLast proper]

section Rows

variable (entry : Entry) (palette : Palette) (now : Moment) (isSelected : Bool) {width : Nat}

/-- What stands in front of the answer. -/
def leadSpans (line : Text) : StyledLine :=
  ⟨"> ".toList, Style.colored palette.accent⟩ :: Highlight.spans
    (Style.colored (if isSelected then palette.secondAccent else palette.foreground)) palette line

/-- The spans of the answer. -/
def answerSpans : StyledLine :=
  [⟨" = ".toList, Style.colored palette.muted⟩,
    ⟨Answer.text entry.result, (Style.colored palette.accent).inBold⟩]

/-- The age behind the answer. -/
def ageSpan : Span :=
  ⟨"  (".toList ++ entry.moment.ageText now ++ ")".toList, Style.colored palette.muted⟩

theorem columns_leadSpans (line : Text) :
    (leadSpans palette isSelected line).columns = leadColumns line := by
  have printed : ∀ c ∈ "> ".toList, Text.isPrinted c = true := List.all_eq_true.mp rfl
  have sign : Text.clusterColumns "> ".toList = 2 := Text.clusterColumns_of_isPrinted printed
  rw [leadSpans, StyledLine.columns_cons, Highlight.columns_spans, sign, leadColumns]

theorem text_answerSpans : (entry.answerSpans palette).text = entry.answer := by
  have joined : (entry.answerSpans palette).text =
      " = ".toList ++ (Answer.text entry.result ++ []) := rfl
  rw [joined, List.append_nil, answer]

/-- The first row has the first line and the answer behind it. -/
theorem head?_expressionRows {line : Text} (first : entry.firstLine width = some line) :
    (entry.expressionRows palette now isSelected (width - 4)).head? =
      some (leadSpans palette isSelected line ++
        (entry.answerSpans palette ++ [entry.ageSpan palette now])) := by
  obtain ⟨rest, lines⟩ := List.head?_eq_some_iff.mp first
  rw [expressionRows, lines]
  rfl

theorem head?_rows {line : Text} (below : List StyledLine)
    (first : entry.firstLine width = some line) :
    (entry.rows palette now isSelected (width - 4) ++ below).head? =
      some (leadSpans palette isSelected line ++
        (entry.answerSpans palette ++ [entry.ageSpan palette now])) := by
  rw [rows, List.append_assoc, List.head?_append, entry.head?_expressionRows _ _ _ first]
  rfl

/-- Without a first line there are no rows of the expression. -/
theorem expressionRows_of_none (blank : entry.firstLine width = none) :
    entry.expressionRows palette now isSelected (width - 4) = [] := by
  rw [firstLine, List.head?_eq_none_iff] at blank
  rw [expressionRows, blank]

/-- The rows below the expression are of one span each. -/
theorem length_of_mem_detailRows {row : StyledLine}
    (member : row ∈ entry.detailRows palette width) : row.length = 1 := by
  rw [detailRows] at member
  split at member
  · rcases List.mem_append.mp member with step | time
    · obtain ⟨⟨step, index⟩, -, among⟩ := List.mem_flatMap.mp step
      have among : row ∈ stepRows palette width (index + 1) step := among
      rw [stepRows] at among
      split at among
      · cases among
      · rcases List.mem_cons.mp among with rfl | later
        · rfl
        · obtain ⟨line, -, rfl⟩ := List.mem_map.mp later
          rfl
    · rw [List.mem_singleton.mp time]
      rfl
  · cases member

/-- **The first row holds the answer exactly if there is room for it.** -/
theorem holdsAnswer_iff {below : List StyledLine} (single : ∀ row ∈ below, row.length = 1) :
    (∃ row, (entry.rows palette now isSelected (width - 4) ++ below).head? = some row ∧
        entry.HoldsAnswer width row) ↔
      entry.FitsIn width := by
  constructor
  · rintro ⟨row, top, front, sign, result, age, rfl, -, room⟩
    cases first : entry.firstLine width with
    | none =>
        -- The first row is below the expression, and too short.
        have rowless := entry.expressionRows_of_none palette now isSelected first
        rw [rows, rowless, List.nil_append] at top
        have short : (front ++ ([sign, result] ++ [age])).length = 1 := by
          rcases List.mem_append.mp (List.mem_of_mem_head? top) with detail | later
          · exact entry.length_of_mem_detailRows palette detail
          · exact single _ later
        rw [List.length_append, List.length_append] at short
        have two : [sign, result].length = 2 := rfl
        omega
    | some line =>
        rw [entry.head?_rows _ _ _ _ first] at top
        obtain ⟨same, -⟩ := List.append_inj' (Option.some.inj top) rfl
        rw [← same, columns_leadSpans] at room
        exact ⟨line, first, room⟩
  · rintro ⟨line, first, room⟩
    refine ⟨_, entry.head?_rows palette now isSelected below first,
      leadSpans palette isSelected line, _, _, entry.ageSpan palette now, rfl,
      entry.text_answerSpans palette, ?_⟩
    rw [columns_leadSpans]
    exact room

end Rows

end Entry

/-! ## The row in the list -/

namespace Console

/-- The block of an entry: its rows, and below them at most a line of one span. -/
theorem getElem?_entryBlocks {console : Console} {i : Nat} {entry : Entry}
    (listed : console.entries[i]? = some entry) (now : Moment) (width : Nat) :
    ∃ below, (∀ row ∈ below, row.length = 1) ∧ (console.entryBlocks now width)[i]? =
      some (entry.rows console.theme.palette now (i = console.selected) (width - 4) ++ below) := by
  refine ⟨if i + 1 < console.entries.length then [dashes console.theme.palette width] else [],
    ?_, ?_⟩
  · split
    · exact List.forall_mem_singleton.mpr rfl
    · exact List.forall_mem_nil _
  · rw [entryBlocks, List.getElem?_map, List.getElem?_zipIdx, listed]
    simp

/-- The first row of a block stands where the block starts. -/
theorem exists_blockStart {blocks : List (List StyledLine)} {i : Nat} {block : List StyledLine}
    (among : blocks[i]? = some block) {row : StyledLine} (top : block.head? = some row)
    (first : Nat) :
    ∃ start, (blockStarts first blocks)[i]? = some (first + start) ∧
      blocks.flatten[start]? = some row := by
  induction blocks generalizing first i with
  | nil => cases among
  | cons next rest ih =>
      cases i with
      | zero =>
          cases among
          obtain ⟨others, rfl⟩ := List.head?_eq_some_iff.mp top
          exact ⟨0, rfl, rfl⟩
      | succ i =>
          obtain ⟨start, starts, found⟩ := ih among (first + next.length)
          refine ⟨next.length + start, ?_, ?_⟩
          · rw [← Nat.add_assoc]
            exact starts
          · rw [List.flatten_cons, List.getElem?_append_right (Nat.le_add_right _ _),
              Nat.add_sub_cancel_left, found]

end Console

end Reckoner
