import Reckoner.Proofs.Screen.Cells
import Reckoner.Proofs.Text.Narrow

/-!
# Lines in a row of cells

A line is written cluster by cluster into the columns that are left of a row, and changes no other
cell (`Screen.changes_writeSpans`). The clusters of a line take a sum of columns
(`StyledLine.columns`); a line that fits takes just these, and what follows is written behind it
(`Screen.writeSpans_append`) at an open place (`Screen.Opens.writeSpans`). Characters of ASCII stand
one in each cell (`Screen.symbolAt_writeSpans`). So whatever fits of a line stands behind what is in
front of it (`Screen.stands_writeSpans`) and can be read there (`Screen.Stands.reads`).
-/

namespace Reckoner

/-- The columns that texts take that are drawn one behind the other. -/
def Text.totalColumns (texts : List Text) : Nat :=
  texts.foldr (fun text rest => columns text + rest) 0

theorem Text.totalColumns_cons (text : Text) (rest : List Text) :
    totalColumns (text :: rest) = columns text + totalColumns rest := rfl

/-- The columns that the clusters of a text take one after the other. -/
def Text.clusterColumns (text : Text) : Nat := totalColumns (clusters text)

/-- The columns that a line takes in a row of cells. -/
def StyledLine.columns (line : StyledLine) : Nat :=
  line.foldr (fun span rest => Text.clusterColumns span.text + rest) 0

theorem StyledLine.columns_cons (span : Span) (rest : StyledLine) :
    StyledLine.columns (span :: rest) = Text.clusterColumns span.text + rest.columns := rfl

theorem Text.clusterColumns_of_isPrinted {text : Text}
    (printed : ∀ c ∈ text, isPrinted c = true) : clusterColumns text = text.length := by
  rw [clusterColumns, clusters_of_isPrinted printed]
  induction text with
  | nil => rfl
  | cons c rest ih =>
      obtain ⟨first, others⟩ := List.forall_mem_cons.mp printed
      rw [List.map_cons, totalColumns_cons, columns_of_isPrinted first, ih others,
        List.length_cons, Nat.add_comm]

theorem StyledLine.columns_of_isPrinted {line : StyledLine}
    (printed : ∀ c ∈ line.text, Text.isPrinted c = true) : line.columns = line.text.length := by
  induction line with
  | nil => rfl
  | cons span rest ih =>
      have text : StyledLine.text (span :: rest) = span.text ++ StyledLine.text rest := rfl
      rw [text] at printed ⊢
      obtain ⟨first, others⟩ := List.forall_mem_append.mp printed
      rw [columns_cons, ih others, Text.clusterColumns_of_isPrinted first, List.length_append]

namespace Screen

/-! ## Clusters -/

/-- A cluster put into the first of its cells, and the cells blanked that it hides. -/
def putCluster (screen : Screen) (x y : Nat) (cluster : Text) (style : Style) : Screen :=
  (List.range (Text.columns cluster - 1)).foldl
    (fun screen dx => screen.modify (x + 1 + dx) y (fun _ => {})) (screen.put x y cluster style)

theorem changes_putCluster (screen : Screen) {x y : Nat} {cluster : Text} (style : Style)
    (wide : Text.columns cluster ≠ 0) :
    Changes (inArea ⟨x, y, Text.columns cluster, 1⟩) screen
      (screen.putCluster x y cluster style) := by
  have first : (⟨x, y, Text.columns cluster, 1⟩ : Area).Contains x y := by
    simp only [Area.Contains]
    omega
  refine (changes_put screen cluster style fun _ => first).trans (changes_foldl ?_ _)
  intro screen dx column
  have column := List.mem_range.mp column
  refine .modify .none ?_
  simp only [inArea, Area.Contains]
  omega

theorem IsWhole.symbolAt_putCluster {screen : Screen} (whole : screen.IsWhole) {x y : Nat}
    (column : x < screen.width) (row : y < screen.height) (cluster : Text) (style : Style) :
    (screen.putCluster x y cluster style).symbolAt x y = some cluster := by
  have later : Changes (inArea ⟨x + 1, y, Text.columns cluster - 1, 1⟩)
      (screen.put x y cluster style) (screen.putCluster x y cluster style) := by
    refine changes_foldl (fun screen dx column => .modify .none ?_) _
    have column := List.mem_range.mp column
    simp only [inArea, Area.Contains]
    omega
  rw [later.symbolAt_of_outside (by simp only [Area.Contains]; omega)]
  exact whole.symbolAt_put column row cluster style

section Clusters

variable {screen : Screen} {x y left : Nat} {style : Style} {cluster : Text} {rest : List Text}

theorem writeClusters_of_columns_eq_zero (empty : Text.columns cluster = 0) :
    screen.writeClusters x y style left (cluster :: rest) =
      screen.writeClusters x y style left rest := by
  rw [writeClusters]
  exact if_pos empty

theorem writeClusters_of_wide (shown : Text.columns cluster ≠ 0)
    (wide : left < Text.columns cluster) :
    screen.writeClusters x y style left (cluster :: rest) = (screen, x, left) := by
  rw [writeClusters]
  exact (if_neg shown).trans (if_pos wide)

theorem writeClusters_of_fits (shown : Text.columns cluster ≠ 0)
    (fits : Text.columns cluster ≤ left) :
    screen.writeClusters x y style left (cluster :: rest) =
      (screen.putCluster x y cluster style).writeClusters (x + Text.columns cluster) y style
        (left - Text.columns cluster) rest := by
  rw [writeClusters]
  exact (if_neg shown).trans (if_neg (Nat.not_lt.mpr fits))

end Clusters

section Clusters

variable {y : Nat} (style : Style)

/-- Clusters are written into the columns that are left, from the first one on. -/
theorem changes_writeClusters (screen : Screen) (x left : Nat) (clusters : List Text) :
    Changes (inArea ⟨x, y, left, 1⟩) screen (screen.writeClusters x y style left clusters).1 ∧
      x ≤ (screen.writeClusters x y style left clusters).2.1 ∧
      (screen.writeClusters x y style left clusters).2.1 +
        (screen.writeClusters x y style left clusters).2.2 = x + left := by
  induction clusters generalizing screen x left with
  | nil => exact ⟨.none, Nat.le_refl x, rfl⟩
  | cons cluster rest ih =>
      by_cases empty : Text.columns cluster = 0
      · rw [writeClusters_of_columns_eq_zero empty]
        exact ih screen x left
      · by_cases wide : left < Text.columns cluster
        · rw [writeClusters_of_wide empty wide]
          exact ⟨.none, Nat.le_refl x, rfl⟩
        · rw [writeClusters_of_fits empty (Nat.le_of_not_lt wide)]
          obtain ⟨changes, behind, kept⟩ := ih (screen.putCluster x y cluster style)
            (x + Text.columns cluster) (left - Text.columns cluster)
          refine ⟨(Changes.mono (changes_putCluster screen style empty) ?_).trans
            (changes.mono ?_), by omega, by omega⟩
          · simp only [inArea, Area.Contains]
            omega
          · simp only [inArea, Area.Contains]
            omega

/-- Clusters that fit are all written. -/
theorem writeClusters_of_total_le (screen : Screen) (x : Nat) {left : Nat} (clusters : List Text)
    (fits : Text.totalColumns clusters ≤ left) :
    (screen.writeClusters x y style left clusters).2 =
      (x + Text.totalColumns clusters, left - Text.totalColumns clusters) := by
  induction clusters generalizing screen x left with
  | nil => rfl
  | cons cluster rest ih =>
      rw [Text.totalColumns_cons] at fits ⊢
      by_cases empty : Text.columns cluster = 0
      · rw [writeClusters_of_columns_eq_zero empty, empty, Nat.zero_add]
        exact ih screen x (by omega)
      · rw [writeClusters_of_fits empty (by omega), ih _ _ (by omega), Nat.add_assoc,
          Nat.sub_sub]

/-- The place behind clusters is open if the one in front of them is. -/
theorem Opens.writeClusters {screen : Screen} (whole : screen.IsWhole) (row : y < screen.height)
    {x left : Nat} (inside : x + left ≤ screen.width) (start : screen.Opens y x)
    (clusters : List Text) :
    (screen.writeClusters x y style left clusters).1.Opens y
      (screen.writeClusters x y style left clusters).2.1 := by
  induction clusters generalizing screen x left with
  | nil => exact start
  | cons cluster rest ih =>
      by_cases empty : Text.columns cluster = 0
      · rw [writeClusters_of_columns_eq_zero empty]
        exact ih whole row inside start
      · by_cases wide : left < Text.columns cluster
        · rw [writeClusters_of_wide empty wide]
          exact start
        · rw [writeClusters_of_fits empty (Nat.le_of_not_lt wide)]
          have changes := changes_putCluster screen (x := x) (y := y) style empty
          have there : (screen.putCluster x y cluster style).symbolAt x y = some cluster :=
            whole.symbolAt_putCluster (by omega) row cluster style
          have before : (screen.putCluster x y cluster style).Opens y x :=
            start.of_same fun i left => changes.symbolAt_of_outside (by
              simp only [Area.Contains]
              omega)
          have behind := before.next there
          rw [Nat.max_eq_right (Nat.one_le_iff_ne_zero.mpr empty)] at behind
          refine ih (changes.isWhole whole) ?_ ?_ behind
          · rw [changes.height]
            exact row
          · rw [changes.width]
            omega

/-- Characters of ASCII stand one in each cell. -/
theorem symbolAt_writeClusters {screen : Screen} (whole : screen.IsWhole) (row : y < screen.height)
    {x left : Nat} (inside : x + left ≤ screen.width) {text : Text}
    (printed : ∀ c ∈ text, Text.isPrinted c = true) (fits : text.length ≤ left) {k : Nat} {c : Char}
    (place : text[k]? = some c) :
    (screen.writeClusters x y style left (text.map fun c => [c])).1.symbolAt (x + k) y =
      some [c] := by
  induction text generalizing screen x left k with
  | nil => cases place
  | cons first rest ih =>
      obtain ⟨printed, others⟩ := List.forall_mem_cons.mp printed
      have one := Text.columns_of_isPrinted printed
      have shown : Text.columns [first] ≠ 0 := by omega
      rw [List.length_cons] at fits
      rw [List.map_cons, writeClusters_of_fits shown (by omega), one]
      have changes := changes_putCluster screen (x := x) (y := y) style shown
      cases k with
      | zero =>
          obtain rfl : first = c := Option.some.inj place
          have later := (changes_writeClusters (y := y) style
            (screen.putCluster x y [first] style) (x + 1) (left - 1) (rest.map fun c => [c])).1
          rw [Nat.add_zero, later.symbolAt_of_outside (by simp only [Area.Contains]; omega)]
          exact whole.symbolAt_putCluster (by omega) row [first] style
      | succ k =>
          have behind := @ih (screen.putCluster x y [first] style) (changes.isWhole whole)
            (by rw [changes.height]; exact row) (x + 1) (left - 1)
            (by rw [changes.width]; omega) others (by omega) k place
          rw [← behind, Nat.add_right_comm, Nat.add_assoc]

theorem writeClusters_of_full (screen : Screen) (x : Nat) (clusters : List Text) :
    screen.writeClusters x y style 0 clusters = (screen, x, 0) := by
  induction clusters with
  | nil => rfl
  | cons cluster rest ih =>
      by_cases empty : Text.columns cluster = 0
      · rw [writeClusters_of_columns_eq_zero empty, ih]
      · exact writeClusters_of_wide empty (Nat.pos_of_ne_zero empty)

end Clusters

/-! ## Lines -/

section Lines

variable {y : Nat}

theorem writeSpans_of_full (screen : Screen) (x : Nat) (line : StyledLine) :
    screen.writeSpans x y 0 line = screen := by
  cases line with
  | nil => rfl
  | cons span rest => rfl

/-- The first span is written, and the others into what it leaves. -/
theorem writeSpans_cons (screen : Screen) (x left : Nat) (span : Span) (rest : StyledLine) :
    screen.writeSpans x y left (span :: rest) =
      (screen.writeClusters x y span.style left (Text.clusters span.text)).1.writeSpans
        (screen.writeClusters x y span.style left (Text.clusters span.text)).2.1 y
        (screen.writeClusters x y span.style left (Text.clusters span.text)).2.2 rest := by
  rw [writeSpans]
  split
  · rename_i full
    subst full
    rw [writeClusters_of_full]
    exact (writeSpans_of_full screen x rest).symm
  · rfl

/-- A line changes only the columns that are left for it. -/
theorem changes_writeSpans (screen : Screen) (x left : Nat) (line : StyledLine) :
    Changes (inArea ⟨x, y, left, 1⟩) screen (screen.writeSpans x y left line) := by
  induction line generalizing screen x left with
  | nil => exact .none
  | cons span rest ih =>
      obtain ⟨changes, behind, kept⟩ := changes_writeClusters (y := y) span.style
        screen x left (Text.clusters span.text)
      rw [writeSpans_cons]
      refine changes.trans ((ih _ _ _).mono ?_)
      simp only [inArea, Area.Contains]
      omega

/-- What follows a line that fits is written behind its columns. -/
theorem writeSpans_append (screen : Screen) (x : Nat) {left : Nat} {front : StyledLine}
    (fits : front.columns ≤ left) (back : StyledLine) :
    screen.writeSpans x y left (front ++ back) =
      (screen.writeSpans x y left front).writeSpans (x + front.columns) y (left - front.columns)
        back := by
  induction front generalizing screen x left with
  | nil => rfl
  | cons span rest ih =>
      rw [StyledLine.columns_cons, Text.clusterColumns] at fits ⊢
      have written := writeClusters_of_total_le (y := y) span.style screen x
        (Text.clusters span.text) (show _ ≤ left by omega)
      rw [List.cons_append, writeSpans_cons, writeSpans_cons, written, ih _ _ (by omega),
        Nat.add_assoc, Nat.sub_sub]

/-- The place behind a line that fits is open if the one in front of it is. -/
theorem Opens.writeSpans {screen : Screen} (whole : screen.IsWhole) (row : y < screen.height)
    {x left : Nat} (inside : x + left ≤ screen.width) (start : screen.Opens y x)
    {line : StyledLine} (fits : line.columns ≤ left) :
    (screen.writeSpans x y left line).Opens y (x + line.columns) := by
  induction line generalizing screen x left with
  | nil => exact start
  | cons span rest ih =>
      rw [StyledLine.columns_cons, Text.clusterColumns] at fits ⊢
      have written := writeClusters_of_total_le (y := y) span.style screen x
        (Text.clusters span.text) (show _ ≤ left by omega)
      have changes := (changes_writeClusters (y := y) span.style screen x left
        (Text.clusters span.text)).1
      have behind := start.writeClusters span.style whole row inside
        (Text.clusters span.text)
      rw [writeSpans_cons, written, ← Nat.add_assoc]
      rw [written] at behind
      refine ih (changes.isWhole whole) ?_ ?_ behind (by omega)
      · rw [changes.height]
        exact row
      · rw [changes.width]
        omega

/-- Characters of ASCII stand one in each cell, whatever their spans. -/
theorem symbolAt_writeSpans {screen : Screen} (whole : screen.IsWhole) (row : y < screen.height)
    {x left : Nat} (inside : x + left ≤ screen.width) {line : StyledLine}
    (printed : ∀ c ∈ line.text, Text.isPrinted c = true) (fits : line.text.length ≤ left) {k : Nat}
    {c : Char} (place : line.text[k]? = some c) :
    (screen.writeSpans x y left line).symbolAt (x + k) y = some [c] := by
  induction line generalizing screen x left k with
  | nil => cases place
  | cons span rest ih =>
      have text : StyledLine.text (span :: rest) = span.text ++ StyledLine.text rest := rfl
      rw [text] at printed place fits
      obtain ⟨first, others⟩ := List.forall_mem_append.mp printed
      rw [List.length_append] at fits
      have clusters := Text.clusters_of_isPrinted first
      have total : Text.totalColumns (Text.clusters span.text) = span.text.length :=
        Text.clusterColumns_of_isPrinted first
      have written := writeClusters_of_total_le (y := y) span.style screen x
        (Text.clusters span.text) (show _ ≤ left by omega)
      have changes := (changes_writeClusters (y := y) span.style screen x left
        (Text.clusters span.text)).1
      rw [total] at written
      rw [writeSpans_cons, written]
      by_cases here : k < span.text.length
      · rw [List.getElem?_append_left here] at place
        have later := changes_writeSpans (y := y)
          (screen.writeClusters x y span.style left (Text.clusters span.text)).1
          (x + span.text.length) (left - span.text.length) rest
        rw [later.symbolAt_of_outside (by simp only [Area.Contains]; omega), clusters]
        exact symbolAt_writeClusters _ whole row inside first (by omega) place
      · rw [List.getElem?_append_right (Nat.le_of_not_lt here)] at place
        have behind := @ih (screen.writeClusters x y span.style left (Text.clusters span.text)).1
          (changes.isWhole whole) (by rw [changes.height]; exact row) (x + span.text.length)
          (left - span.text.length) (by rw [changes.width]; omega) others (by omega) _ place
        rw [← behind]
        congr 1
        omega

end Lines

/-! ## Reading what was written -/

/-- Characters stand in cells of their own, from an open place on. -/
structure Stands (screen : Screen) (x y : Nat) (text : Text) : Prop where
  start : screen.Opens y x
  found : ∀ k c, text[k]? = some c → screen.symbolAt (x + k) y = some [c]

section Stands

variable {screen : Screen} {x y : Nat}

theorem Stands.of_same {text : Text} (stands : screen.Stands x y text) {after : Screen}
    (same : ∀ i, after.symbolAt i y = screen.symbolAt i y) : after.Stands x y text where
  start := stands.start.of_same fun i _ => same i
  found := fun k c place => (same _).trans (stands.found k c place)

/-- **Characters of ASCII that stand in a row can be read.** -/
theorem Stands.reads {text : Text} (stands : screen.Stands x y text) (row : y < screen.height)
    (printed : ∀ c ∈ text, Text.isPrinted c = true) : screen.Reads x y text := by
  refine reads_of_opens row (fun k inside => ?_) stands.found
  induction k with
  | zero => exact stands.start
  | succ k ih =>
      have here := ih (by omega)
      have place : text[k]? = some text[k] := List.getElem?_eq_getElem (by omega)
      have one := Text.columns_of_isPrinted (printed _ (List.mem_of_getElem? place))
      have next := here.next (stands.found k _ place)
      rw [one] at next
      exact next

/-- **What fits of a line stands behind what is in front of it.** -/
theorem stands_writeSpans (whole : screen.IsWhole) (row : y < screen.height) {left : Nat}
    (inside : x + left ≤ screen.width) (start : screen.Opens y x) (front : StyledLine)
    {middle : StyledLine} (printed : ∀ c ∈ middle.text, Text.isPrinted c = true)
    (fits : front.columns + middle.text.length ≤ left) (back : StyledLine) :
    (screen.writeSpans x y left (front ++ (middle ++ back))).Stands (x + front.columns) y
      middle.text := by
  have total := StyledLine.columns_of_isPrinted printed
  rw [writeSpans_append _ _ (by omega), writeSpans_append _ _ (by omega)]
  -- What is in front is written first, then the text, then what follows, each behind the other.
  have before := start.writeSpans whole row inside (show front.columns ≤ left by omega)
  have first := changes_writeSpans (y := y) screen x left front
  have second := changes_writeSpans (y := y) (screen.writeSpans x y left front)
    (x + front.columns) (left - front.columns) middle
  have third := changes_writeSpans (y := y) ((screen.writeSpans x y left front).writeSpans
    (x + front.columns) y (left - front.columns) middle) (x + front.columns + middle.columns)
    (left - front.columns - middle.columns) back
  constructor
  · refine before.of_same fun i earlier => ?_
    rw [third.symbolAt_of_outside (by simp only [Area.Contains]; omega),
      second.symbolAt_of_outside (by simp only [Area.Contains]; omega)]
  · intro k c place
    obtain ⟨short, -⟩ := List.getElem?_eq_some_iff.mp place
    rw [third.symbolAt_of_outside (by simp only [Area.Contains]; omega)]
    refine symbolAt_writeSpans (first.isWhole whole) ?_ ?_ printed (by omega) place
    · rw [first.height]
      exact row
    · rw [first.width]
      omega

end Stands

end Screen

end Reckoner
