import Reckoner.Proofs.Text.Lines
import Reckoner.Text.Cluster

/-!
# Narrow texts

Characters of one column may be drawn together, and then they take fewer columns. They never take
more: what makes a character wider, a joiner or a selector behind it, has no column of its own. So a
text of characters of one column takes at most as many columns as it has characters
(`columns_le_length`). Printed ASCII is never drawn together: each character is a cluster of one
column (`clusters_of_isPrinted`).
-/

namespace Reckoner.Text

/-- A text of characters that take one column each by themselves. -/
def IsNarrow (text : Text) : Prop := ∀ c ∈ text, charColumns c = 1

instance (text : Text) : Decidable (IsNarrow text) :=
  List.decidableBAll (fun c => charColumns c = 1) text

/-! ## What stands behind a narrow character -/

/-- Whether a tail has no joiner in it. -/
def Tail.isUntied : Tail → Bool
  | .joined | .joinedKeycap | .joinedIndicators _ | .joinedTags _ => false
  | .ligature _ tied => !tied
  | _ => true

/-- What follows has neither joiner nor selector in it. -/
structure Following.IsPlain (next : Following) : Prop where
  untied : next.tail.isUntied = true
  unselected : next.selector = none

theorem Tail.isUntied_ofChar (c : Char) : (Tail.ofChar c).isUntied = true := by
  unfold ofChar
  split
  · rfl
  split
  · rfl
  split
  · rfl
  split
  · rfl
  split
  · rfl
  · rfl

theorem Tail.isUntied_ofEnding (ending : Option Ending) :
    (Tail.ofEnding ending).isUntied = true := by
  cases ending with
  | none => rfl
  | some ending => rfl

/-- The joiner and the variation selectors have no column. -/
theorem codeColumns_of_tie :
    codeColumns 0x200D = 0 ∧ codeColumns 0xFE0E = 0 ∧ codeColumns 0xFE0F = 0 := by
  decide +kernel

theorem toNat_ne_of_narrow {c : Char} (narrow : charColumns c = 1) {code : Nat}
    (hidden : codeColumns code = 0) : c.toNat ≠ code := by
  intro same
  rw [charColumns, same, hidden] at narrow
  cases narrow

theorem Ending.extend?_le {c : Char} {joined : Bool} {ending : Ending} {own : Int}
    {more : Option Ending} (extended : ending.extend? c joined = some (own, more)) : own ≤ 1 := by
  cases ending <;> simp only [extend?] at extended <;> grind

/-- Without joiners a character that is drawn together with what follows adds one column at most. -/
theorem Tail.join?_of_isUntied {c : Char} (narrow : charColumns c = 1) {tail made : Tail} {own : Int}
    (untied : tail.isUntied = true) (joins : tail.join? c = some (own, made)) :
    own ≤ 1 ∧ made.isUntied = true := by
  have joiner : isJoiner c = false :=
    decide_eq_false (toNat_ne_of_narrow narrow codeColumns_of_tie.1)
  cases tail with
  | ligature ending tied =>
      cases tied with
      | true => cases untied
      | false =>
          simp only [join?, joiner, Bool.false_eq_true, if_false] at joins
          split at joins
          · cases joins
            exact ⟨by decide, rfl⟩
          · obtain ⟨⟨added, more⟩, extended, same⟩ := Option.map_eq_some_iff.mp joins
            cases same
            exact ⟨Ending.extend?_le extended, isUntied_ofEnding more⟩
  | joined | joinedKeycap | joinedIndicators count | joinedTags tags => cases untied
  | _ =>
      simp only [join?, joiner] at joins
      grind [isUntied]

theorem Following.prepend_of_isPlain {c : Char} (narrow : charColumns c = 1) {next : Following}
    (plain : next.IsPlain) : (next.prepend c).1 ≤ 1 ∧ (next.prepend c).2.IsPlain := by
  obtain ⟨tail, selector⟩ := next
  obtain ⟨untied, rfl⟩ := plain
  have picture : (⟨tail, none⟩ : Following).makesPicture c = false := rfl
  have text : (⟨tail, none⟩ : Following).makesText c = false := rfl
  obtain ⟨-, asText, asPicture⟩ := codeColumns_of_tie
  rw [prepend, picture, text, if_neg Bool.false_ne_true]
  split
  · split
    · exact ⟨Int.le_refl 1, rfl, rfl⟩
    · split
      · exact ⟨by decide, rfl, rfl⟩
      · exact ⟨Int.le_refl 1, rfl, rfl⟩
  · rw [if_neg (toNat_ne_of_narrow narrow asPicture), if_neg (toNat_ne_of_narrow narrow asText),
      if_neg Bool.false_ne_true]
    cases joins : (⟨tail, none⟩ : Following).unselected.join? c with
    | none =>
        refine ⟨?_, Tail.isUntied_ofChar c, rfl⟩
        rw [narrow]
        exact Int.le_refl 1
    | some pair =>
        obtain ⟨own, made⟩ := pair
        obtain ⟨least, kept⟩ := Tail.join?_of_isUntied narrow untied joins
        exact ⟨least, kept, rfl⟩

theorem measure_of_isNarrow {text : Text} (narrow : IsNarrow text) :
    (measure text).1 ≤ text.length ∧ (measure text).2.IsPlain := by
  induction text with
  | nil => exact ⟨Int.le_refl 0, rfl, rfl⟩
  | cons c rest ih =>
      obtain ⟨first, others⟩ := List.forall_mem_cons.mp narrow
      obtain ⟨short, plain⟩ := ih others
      obtain ⟨own, kept⟩ := Following.prepend_of_isPlain first plain
      rw [measure, List.length_cons]
      exact ⟨by push_cast; omega, kept⟩

/-- **A narrow text takes no more columns than it has characters.** -/
theorem columns_le_length {text : Text} (narrow : IsNarrow text) : columns text ≤ text.length := by
  have measured := (measure_of_isNarrow narrow).1
  rw [← columns_eq_measure] at measured
  exact Int.ofNat_le.mp measured

/-! ## Printed ASCII -/

/-- The characters of ASCII that are printed, the space among them. -/
def isPrinted (c : Char) : Bool := within 0x20 0x7E c.toNat

section Printed

variable {c : Char} (printed : isPrinted c = true)

include printed

theorem toNat_of_isPrinted : 0x20 ≤ c.toNat ∧ c.toNat ≤ 0x7E := by
  simpa only [isPrinted, within, Bool.and_eq_true, decide_eq_true_eq] using printed

theorem columns_of_isPrinted : columns [c] = 1 := by
  obtain ⟨low, high⟩ := toNat_of_isPrinted printed
  have feed : c ≠ '\n' := by
    rintro rfl
    exact absurd low (by decide)
  have own : Following.nothing.prepend c = (1, .nothing) := by
    rw [Following.prepend, Following.makesPicture]
    simp [Following.nothing, feed, show c.toNat ≤ 0xA0 by omega]
  simp only [columns, measure, own]
  rfl

theorem class_of_isPrinted : ClusterClass.of c = .other := by
  obtain ⟨low, high⟩ := toNat_of_isPrinted printed
  have inside : within 0x20 0x7E c.toNat = true := printed
  rw [ClusterClass.of]
  simp only [inside, if_true]
  rw [if_neg (by omega), if_neg (by omega)]

/-- Printed ASCII does not join the cluster before it if that ends in printed ASCII. -/
theorem joins_of_isPrinted {scan : ClusterScan} (last : scan.last = .other) :
    scan.joins c = false := by
  obtain ⟨low, high⟩ := toNat_of_isPrinted printed
  have consonant : isConsonant c = false := by
    rw [isConsonant, consonantRanges, CodeRanges.contains, if_pos (by omega)]
  rw [ClusterScan.joins, last, class_of_isPrinted printed]
  simp [consonant]

end Printed

theorem clustersFrom_of_isPrinted {scan : ClusterScan} (last : scan.last = .other) (begun : Text)
    {text : Text} (printed : ∀ c ∈ text, isPrinted c = true) :
    clustersFrom scan begun text = begun.reverse :: text.map fun c => [c] := by
  induction text generalizing scan begun with
  | nil => rfl
  | cons c rest ih =>
      obtain ⟨first, others⟩ := List.forall_mem_cons.mp printed
      have next : (scan.advance c).last = .other := class_of_isPrinted first
      rw [clustersFrom, joins_of_isPrinted first last, if_neg Bool.false_ne_true, ih next [c] others]
      rfl

/-- **Printed ASCII is cut into its characters.** -/
theorem clusters_of_isPrinted {text : Text} (printed : ∀ c ∈ text, isPrinted c = true) :
    clusters text = text.map fun c => [c] := by
  cases text with
  | nil => rfl
  | cons c rest =>
      obtain ⟨first, others⟩ := List.forall_mem_cons.mp printed
      have next : (ClusterScan.start.advance c).last = .other := class_of_isPrinted first
      rw [clusters, clustersFrom_of_isPrinted next [c] others]
      rfl

end Reckoner.Text
