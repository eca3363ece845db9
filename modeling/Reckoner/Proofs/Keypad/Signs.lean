import Reckoner.Proofs.Expression.Glyph
import Reckoner.Proofs.Keypad.Operators

/-!
# Display signs at the keypad

The signs × and ÷ stand for the operators `*` and `/`, and an evaluation spells them out. A
calculator and the same calculator with operators in place of the signs (`inSymbols`) do the same
key by key, as long as no key overlooks a sign (`Calculator.press_inSymbols`). The keypad looks at
characters as they were entered, so there are three ways to overlook one (`Calculator.overlooks`):
an operator does not replace a sign at the end of the expression, nor a sign an operator; a point is
not counted to a new number behind a sign; and a text that starts with a sign does not go on from a
displayed result. Each of them sets the two apart at once (`Calculator.spelt_press_ne`).
-/

namespace Reckoner

/-! ## Signs and operators -/

namespace Glyph

/-- A display sign of an operator. -/
def isSign (c : Char) : Bool := c = '×' || c = '÷'

/-- The operator that a display sign stands for; any other character stands for itself. -/
def symbol (c : Char) : Char := if c = '×' then '*' else if c = '÷' then '/' else c

/-- A text with operators in place of their display signs. -/
def inSymbols (text : Text) : Text := text.map symbol

theorem isSign_iff {c : Char} : isSign c = true ↔ c = '×' ∨ c = '÷' := by
  rw [isSign, Bool.or_eq_true, decide_eq_true_eq, decide_eq_true_eq]

theorem symbol_of_not_isSign {c : Char} (plain : isSign c = false) : symbol c = c := by
  rw [isSign, Bool.or_eq_false_iff, decide_eq_false_iff_not, decide_eq_false_iff_not] at plain
  rw [symbol, if_neg plain.1, if_neg plain.2]

theorem isSymbol_of_isSign {c : Char} (sign : isSign c = true) :
    BinaryOperator.isSymbol c = false := by
  rcases isSign_iff.mp sign with rfl | rfl
  · rfl
  · rfl

theorem isSign_of_isPlain {c : Char} (plain : Lexeme.isPlain c = true) : isSign c = false := by
  rw [Bool.eq_false_iff, ne_eq, isSign_iff]
  rintro (rfl | rfl)
  · exact absurd plain (by decide)
  · exact absurd plain (by decide)

theorem isSymbol_symbol (c : Char) :
    BinaryOperator.isSymbol (symbol c) = (BinaryOperator.isSymbol c || isSign c) := by
  cases sign : isSign c with
  | false => rw [symbol_of_not_isSign sign, Bool.or_false]
  | true =>
      rcases isSign_iff.mp sign with rfl | rfl
      · rfl
      · rfl

/-- Only `*` and `/` are stood for by anything else. -/
theorem symbol_eq_iff {c d : Char} (other : d ∉ ['*', '/', '×', '÷']) : symbol c = d ↔ c = d := by
  simp only [List.mem_cons, List.not_mem_nil, or_false, not_or] at other
  obtain ⟨times, divide, first, second⟩ := other
  rw [symbol]
  split
  · rename_i same
    rw [same]
    exact iff_of_false (Ne.symm times) (Ne.symm first)
  · split
    · rename_i same
      rw [same]
      exact iff_of_false (Ne.symm divide) (Ne.symm second)
    · rfl

theorem spell_symbol (c : Char) : spell (symbol c) = spell c := by
  cases sign : isSign c with
  | false => rw [symbol_of_not_isSign sign]
  | true =>
      rcases isSign_iff.mp sign with rfl | rfl
      · rfl
      · rfl

theorem isAllBlank_spellAll (text : Text) :
    Text.isAllBlank (spellAll text) = Text.isAllBlank text := by
  have each (c : Char) : (spell c).all Text.isBlank = Text.isBlank c := by
    by_cases glyph : IsGlyph c
    · rcases glyph with rfl | rfl | rfl
      · rfl
      · rfl
      · rfl
    · rw [spell_of_not_glyph glyph, List.all_cons, List.all_nil, Bool.and_true]
  rw [Text.isAllBlank, spellAll, List.all_flatMap, funext each]
  rfl

/-- Spelt out, the signs are the operators. -/
theorem spellAll_inSymbols (text : Text) : spellAll (inSymbols text) = spellAll text := by
  rw [spellAll, inSymbols, List.flatMap_map]
  exact List.flatMap_congr fun c _ => spell_symbol c

theorem length_spell_pos (c : Char) : 0 < (spell c).length := by
  obtain ⟨behind, spelt⟩ := exists_spell_eq_cons c
  rw [spelt]
  exact Nat.succ_pos _

theorem length_spellAll_concat (text : Text) (c : Char) :
    (spellAll (text ++ [c])).length = (spellAll text).length + (spell c).length := by
  rw [spellAll, List.flatMap_append, List.length_append, List.flatMap_singleton]
  rfl

theorem inSymbols_append (front back : Text) :
    inSymbols (front ++ back) = inSymbols front ++ inSymbols back := List.map_append

theorem inSymbols_of_plain {text : Text} (plain : ∀ c ∈ text, isSign c = false) :
    inSymbols text = text :=
  (List.map_congr_left fun c member => symbol_of_not_isSign (plain c member)).trans (List.map_id _)

theorem inSymbols_eq_nil_iff {text : Text} : inSymbols text = [] ↔ text = [] := List.map_eq_nil_iff

/-- Nothing in a displayed result is a sign. -/
theorem inSymbols_plainText (x : Float) : inSymbols (plainText x) = plainText x := by
  obtain ⟨sign, body, shown, marked, isShown⟩ := Calculator.exists_shown x
  rw [shown]
  refine inSymbols_of_plain (List.forall_mem_append.mpr ⟨?_, fun c member => ?_⟩)
  · rcases marked with rfl | rfl
    · exact List.forall_mem_nil _
    · exact List.forall_mem_singleton.mpr rfl
  · exact isSign_of_isPlain (isShown.plain c member)

end Glyph

/-! ## Clusters -/

namespace Text

/-- Characters that are alike wherever a text is cut into clusters. -/
structure ClusterAlike (c d : Char) : Prop where
  joins (scan : ClusterScan) : scan.joins c = scan.joins d
  advance (scan : ClusterScan) : scan.advance c = scan.advance d

theorem clustersFrom_map {f : Char → Char} (alike : ∀ c, ClusterAlike (f c) c)
    (scan : ClusterScan) (begun rest : Text) :
    clustersFrom scan (begun.map f) (rest.map f) =
      (clustersFrom scan begun rest).map (List.map f) := by
  induction rest generalizing scan begun with
  | nil => simp [clustersFrom]
  | cons c rest ih =>
      have longer := ih (scan.advance c) (c :: begun)
      have parted := ih (scan.advance c) [c]
      rw [List.map_cons] at longer
      rw [List.map_cons, List.map_nil] at parted
      rw [List.map_cons, clustersFrom, clustersFrom, (alike c).joins, (alike c).advance]
      split
      · exact longer
      · rw [parted, List.map_cons, List.map_reverse]

/-- What leaves the clusters alone leaves the last one alone. -/
theorem dropLastCluster_map {f : Char → Char} (alike : ∀ c, ClusterAlike (f c) c) (text : Text) :
    dropLastCluster (text.map f) = (dropLastCluster text).map f := by
  have clusters_map : clusters (text.map f) = (clusters text).map (List.map f) := by
    cases text with
    | nil => rfl
    | cons c rest =>
        have cut := clustersFrom_map alike (ClusterScan.start.advance c) [c] rest
        rw [List.map_cons, clusters, (alike c).advance]
        exact cut
  rw [dropLastCluster, clusters_map, ← List.map_dropLast, ← List.map_flatten]
  rfl

/-- A sign and its operator are characters by themselves. -/
theorem clusterAlike_symbol (c : Char) : ClusterAlike (Glyph.symbol c) c := by
  have alike {c d : Char} (cls : ClusterClass.of c = ClusterClass.of d)
      (consonant : isConsonant c = isConsonant d) (linker : isLinker c = isLinker d)
      (joiner : (c.toNat = 0x200C) = (d.toNat = 0x200C)) : ClusterAlike c d := by
    constructor
    · intro scan
      simp only [ClusterScan.joins, cls, consonant]
    · intro scan
      simp only [ClusterScan.advance, cls, consonant, linker, joiner]
  cases sign : Glyph.isSign c with
  | false =>
      rw [Glyph.symbol_of_not_isSign sign]
      exact ⟨fun _ => rfl, fun _ => rfl⟩
  | true =>
      rcases Glyph.isSign_iff.mp sign with rfl | rfl
      · exact alike (by decide +kernel) (by decide +kernel) (by decide +kernel) (by decide)
      · exact alike (by decide +kernel) (by decide +kernel) (by decide +kernel) (by decide)

end Text

/-- The calculation with its expression spelt out. -/
def Calculation.spelt (calculation : Calculation) : Calculation :=
  { calculation with expression := Glyph.spellAll calculation.expression }

namespace Calculator

/-! ## The same keys with operators -/

/-- The key with operators in place of display signs in what it enters. -/
def Key.inSymbols : Key → Key
  | .number entered => .number (Glyph.inSymbols entered)
  | .operator entered => .operator (Glyph.symbol entered)
  | .text entered => .text (Glyph.inSymbols entered)
  | .expression entered => .expression (Glyph.inSymbols entered)
  | key => key

/-- The calculator with operators in place of display signs in its expression. -/
def inSymbols (calculator : Calculator) : Calculator :=
  { calculator with expression := Glyph.inSymbols calculator.expression }

/-- The calculator with its expression spelt out as for an evaluation. -/
def spelt (calculator : Calculator) : Calculator :=
  { calculator with expression := Glyph.spellAll calculator.expression }

/-- What a calculation answers, its expression spelt out. -/
def answer (calculator : Calculator) (detailed : Bool) :
    Except ExpressionError (Option Calculation) :=
  (calculator.calculate detailed).2.map (·.map Calculation.spelt)

/-- Two operators side by side that the keypad does not both take for operators, since one of them
is a display sign. -/
def partsOperators (last next : Char) : Bool :=
  BinaryOperator.isSymbol (Glyph.symbol last) && BinaryOperator.isSymbol (Glyph.symbol next) &&
    (Glyph.isSign last || Glyph.isSign next)

/-- The key passes over a display sign where it would see an operator: in front of the number that
a point belongs to, beside an operator at the end of the expression, or at the start of a text that
is entered behind a result. -/
def overlooks (calculator : Calculator) : Key → Bool
  | .number entered =>
    entered = ['.'] && (currentNumber calculator.startAfresh.expression).contains '.' &&
      !(currentNumber (Glyph.inSymbols calculator.startAfresh.expression)).contains '.'
  | .operator entered =>
    calculator.continueFromResult.expression.getLast?.any (partsOperators · entered)
  | .text entered => calculator.showsResult && entered.head?.any Glyph.isSign
  | _ => false

/-! ## What depends on the spelling only -/

theorem spelt_inSymbols (calculator : Calculator) :
    calculator.inSymbols.spelt = calculator.spelt := by
  rw [spelt, inSymbols, Glyph.spellAll_inSymbols]
  rfl

/-- Calculators that are the same once spelt out answer the same. -/
theorem answer_of_spelt {first second : Calculator} (same : first.spelt = second.spelt)
    (detailed : Bool) : first.answer detailed = second.answer detailed := by
  have spelt : Glyph.spellAll first.expression = Glyph.spellAll second.expression :=
    congrArg expression same
  rw [answer, answer, calculate, calculate, ← Glyph.isAllBlank_spellAll first.expression,
    ← Glyph.isAllBlank_spellAll second.expression, spelt]
  split
  · rfl
  · cases Expression.run detailed (Glyph.spellAll second.expression) with
    | mk steps outcome =>
        cases outcome with
        | error cause => rfl
        | ok value =>
            show Except.ok (some (Calculation.spelt _)) = .ok (some (Calculation.spelt _))
            rw [Calculation.spelt, Calculation.spelt, spelt]

/-! ## One key -/

variable {calculator : Calculator}

theorem startAfresh_of_not_showsResult (hidden : calculator.showsResult = false) :
    calculator.startAfresh = calculator := by
  rw [startAfresh, if_neg (by simp [hidden])]

theorem startAfresh_inSymbols :
    calculator.inSymbols.startAfresh = calculator.startAfresh.inSymbols := by
  rw [startAfresh, startAfresh, inSymbols]
  split
  · rfl
  · rfl

theorem continueFromResult_inSymbols :
    calculator.inSymbols.continueFromResult = calculator.continueFromResult.inSymbols := by
  rw [continueFromResult, continueFromResult, inSymbols]
  split
  · rw [inSymbols, Glyph.inSymbols_plainText]
  · rfl

theorem append_inSymbols (text : Text) :
    calculator.inSymbols.append (Glyph.inSymbols text) = (calculator.append text).inSymbols := by
  rw [append, append, inSymbols, inSymbols, Glyph.inSymbols_append]

theorem enterFunction_inSymbols (f : Function) :
    calculator.inSymbols.enterFunction f = (calculator.enterFunction f).inSymbols := by
  have plain : Glyph.inSymbols (f.name ++ ['(']) = f.name ++ ['('] := by
    cases f <;> rfl
  rw [enterFunction, enterFunction, startAfresh_inSymbols, ← append_inSymbols, plain]

theorem percent_inSymbols : calculator.inSymbols.percent = calculator.percent.inSymbols := by
  have plain : Glyph.inSymbols "/100*".toList = "/100*".toList := by decide
  have empty : calculator.continueFromResult.inSymbols.expression = [] ↔
      calculator.continueFromResult.expression = [] := Glyph.inSymbols_eq_nil_iff
  rw [percent, percent, continueFromResult_inSymbols, apply_ite inSymbols, ← append_inSymbols, plain]
  exact if_congr empty rfl rfl

theorem backspace_inSymbols : calculator.inSymbols.backspace = calculator.backspace.inSymbols := by
  rw [backspace, backspace, apply_ite inSymbols]
  refine if_congr Iff.rfl rfl ?_
  rw [inSymbols, inSymbols, Glyph.inSymbols, Text.dropLastCluster_map Text.clusterAlike_symbol]
  rfl

theorem recallMemory_inSymbols :
    calculator.inSymbols.recallMemory = calculator.recallMemory.inSymbols := by
  have plain := Glyph.inSymbols_plainText calculator.memory
  rw [recallMemory, recallMemory, startAfresh_inSymbols, ← append_inSymbols, plain]
  rfl

theorem calculate_inSymbols (detailed : Bool) :
    (calculator.inSymbols.calculate detailed).1 = (calculator.calculate detailed).1.inSymbols := by
  have spelt : Glyph.spellAll calculator.inSymbols.expression =
      Glyph.spellAll calculator.expression := Glyph.spellAll_inSymbols _
  rw [calculate, calculate, ← Glyph.isAllBlank_spellAll calculator.inSymbols.expression,
    ← Glyph.isAllBlank_spellAll calculator.expression, spelt]
  split
  · rfl
  · cases Expression.run detailed (Glyph.spellAll calculator.expression) with
    | mk steps outcome =>
        cases outcome with
        | error cause => rfl
        | ok value =>
            show _ = Calculator.mk (Glyph.inSymbols (plainText (Answer.settle value))) _ _ _
            rw [Glyph.inSymbols_plainText]
            rfl

/-! ## The keys that look at operators -/

/-- The sign parts the number behind it from the one in front of it, so the number at the end can
only be shorter with an operator in its place. -/
theorem mem_currentNumber_of_inSymbols {text : Text}
    (member : '.' ∈ currentNumber (Glyph.inSymbols text)) : '.' ∈ currentNumber text := by
  have separates {c : Char} (separator : separatesNumbers c = true) :
      separatesNumbers (Glyph.symbol c) = true := by
    cases sign : Glyph.isSign c with
    | false => rwa [Glyph.symbol_of_not_isSign sign]
    | true => simp [separatesNumbers, Glyph.isSymbol_symbol, sign]
  rw [currentNumber, List.mem_reverse] at member ⊢
  rw [Glyph.inSymbols, ← List.map_reverse] at member
  generalize text.reverse = row at member ⊢
  induction row with
  | nil => cases member
  | cons c rest ih =>
      rw [List.map_cons, List.takeWhile_cons] at member
      split at member
      · rename_i kept
        have plain : (!separatesNumbers c) = true := by
          rw [Bool.not_eq_true', Bool.eq_false_iff] at kept ⊢
          exact fun separator => kept (separates separator)
        rw [List.takeWhile_cons, if_pos plain, List.mem_cons]
        rcases List.mem_cons.mp member with point | later
        · exact .inl ((Glyph.symbol_eq_iff (by decide)).mp point.symm).symm
        · exact .inr (ih later)
      · cases member

theorem inSymbols_eq_point_iff {text : Text} : Glyph.inSymbols text = ['.'] ↔ text = ['.'] := by
  rw [Glyph.inSymbols, List.map_eq_singleton_iff]
  constructor
  · rintro ⟨c, rfl, same⟩
    rw [(Glyph.symbol_eq_iff (by decide)).mp same]
  · rintro rfl
    exact ⟨'.', rfl, rfl⟩

theorem enterNumber_inSymbols {entered : Text}
    (seen : calculator.overlooks (.number entered) = false) :
    calculator.inSymbols.enterNumber (Glyph.inSymbols entered) =
      (calculator.enterNumber entered).inSymbols := by
  rw [enterNumber, enterNumber, startAfresh_inSymbols, apply_ite inSymbols, ← append_inSymbols]
  refine if_congr ?_ rfl rfl
  simp only [Bool.and_eq_true, decide_eq_true_eq, inSymbols_eq_point_iff, List.contains_iff_mem]
  refine and_congr_right fun point => ⟨mem_currentNumber_of_inSymbols, fun member => ?_⟩
  show '.' ∈ currentNumber (Glyph.inSymbols calculator.startAfresh.expression)
  simpa [overlooks, point, member] using seen

/-- On an empty expression the operator key enters a minus only. -/
theorem enterOperator_of_nil (empty : calculator.continueFromResult.expression = [])
    (entered : Char) :
    calculator.enterOperator entered =
      if entered = '-' then calculator.continueFromResult.append [entered]
      else calculator.continueFromResult := by
  rw [enterOperator]
  simp only [empty, List.getLast?_nil]

/-- Behind anything else the operator key looks at the last character. -/
theorem enterOperator_of_concat {front : Text} {last : Char}
    (ends : calculator.continueFromResult.expression = front ++ [last]) (entered : Char) :
    calculator.enterOperator entered =
      if BinaryOperator.isSymbol last && BinaryOperator.isSymbol entered then
        { calculator.continueFromResult with expression := front ++ [entered] }
      else calculator.continueFromResult.append [entered] := by
  rw [enterOperator]
  simp only [ends, List.getLast?_concat, List.dropLast_concat]

/-- With operators in place of the signs, no sign is overlooked. -/
theorem isSymbol_symbol_and (last next : Char) :
    (BinaryOperator.isSymbol (Glyph.symbol last) && BinaryOperator.isSymbol (Glyph.symbol next)) =
      (BinaryOperator.isSymbol last && BinaryOperator.isSymbol next || partsOperators last next) := by
  rw [partsOperators, Glyph.isSymbol_symbol, Glyph.isSymbol_symbol]
  cases BinaryOperator.isSymbol last <;> cases BinaryOperator.isSymbol next <;>
    cases Glyph.isSign last <;> cases Glyph.isSign next <;> rfl

theorem enterOperator_inSymbols {entered : Char}
    (seen : calculator.overlooks (.operator entered) = false) :
    calculator.inSymbols.enterOperator (Glyph.symbol entered) =
      (calculator.enterOperator entered).inSymbols := by
  have single : [Glyph.symbol entered] = Glyph.inSymbols [entered] := rfl
  rcases List.eq_nil_or_concat' calculator.continueFromResult.expression with
    empty | ⟨front, last, whole⟩
  · have minus : Glyph.symbol entered = '-' ↔ entered = '-' := Glyph.symbol_eq_iff (by decide)
    have still : calculator.inSymbols.continueFromResult.expression = [] := by
      rw [continueFromResult_inSymbols, inSymbols, empty]
      rfl
    rw [enterOperator_of_nil still, enterOperator_of_nil empty, apply_ite inSymbols,
      ← append_inSymbols, continueFromResult_inSymbols, single]
    exact if_congr minus rfl rfl
  · have ends : calculator.inSymbols.continueFromResult.expression =
        Glyph.inSymbols front ++ [Glyph.symbol last] := by
      rw [continueFromResult_inSymbols, inSymbols, whole, Glyph.inSymbols_append]
      rfl
    rw [overlooks, whole, List.getLast?_concat, Option.any_some] at seen
    rw [enterOperator_of_concat ends, enterOperator_of_concat whole, isSymbol_symbol_and, seen,
      Bool.or_false, apply_ite inSymbols, ← append_inSymbols, continueFromResult_inSymbols, single]
    refine if_congr Iff.rfl ?_ rfl
    rw [inSymbols, inSymbols, Glyph.inSymbols_append]

theorem enterText_inSymbols {entered : Text}
    (seen : calculator.overlooks (.text entered) = false) :
    calculator.inSymbols.enterText (Glyph.inSymbols entered) =
      (calculator.enterText entered).inSymbols := by
  rw [enterText, enterText, startAfresh_inSymbols, continueFromResult_inSymbols,
    apply_ite inSymbols, ← append_inSymbols, ← append_inSymbols]
  cases shows : calculator.showsResult with
  | false =>
      rw [continueFromResult_of_not_showsResult shows, startAfresh_of_not_showsResult shows,
        ite_self, ite_self]
  | true =>
      rw [overlooks, shows, Bool.true_and] at seen
      refine if_congr ?_ rfl rfl
      cases entered with
      | nil => rfl
      | cons c rest =>
          rw [List.head?_cons, Option.any_some] at seen
          rw [Glyph.inSymbols, List.map_cons, Glyph.symbol_of_not_isSign seen]
          rfl

/-- **Key by key the calculator does the same with operators in place of the signs**, unless it
overlooks one. -/
theorem press_inSymbols {key : Key} (seen : calculator.overlooks key = false) :
    calculator.inSymbols.press key.inSymbols = (calculator.press key).inSymbols := by
  cases key with
  | number entered => exact enterNumber_inSymbols seen
  | operator entered => exact enterOperator_inSymbols seen
  | function f => exact enterFunction_inSymbols f
  | text entered => exact enterText_inSymbols seen
  | expression entered => rfl
  | percent => exact percent_inSymbols
  | backspace => exact backspace_inSymbols
  | clear => rfl
  | memoryClear => rfl
  | memoryAdd => rfl
  | memoryRecall => exact recallMemory_inSymbols
  | equals detailed => exact calculate_inSymbols detailed

/-! ## A sign overlooked -/

theorem plainText_ne_nil (x : Float) : plainText x ≠ [] := by
  obtain ⟨sign, body, shown, -, isShown⟩ := exists_shown x
  rw [shown]
  exact List.append_ne_nil_of_right_ne_nil sign isShown.proper

/-- How long an expression is once it is spelt out. -/
def weight (calculator : Calculator) : Nat := (Glyph.spellAll calculator.expression).length

theorem weight_inSymbols : calculator.inSymbols.weight = calculator.weight := by
  rw [weight, weight, inSymbols, Glyph.spellAll_inSymbols]

theorem weight_append (text : Text) :
    (calculator.append text).weight = calculator.weight + (Glyph.spellAll text).length := by
  rw [weight, append, Glyph.spellAll, List.flatMap_append, List.length_append]
  rfl

theorem weight_pressed_number {entered : Text}
    (overlooked : calculator.overlooks (.number entered) = true) :
    (calculator.inSymbols.press (Key.number entered).inSymbols).weight =
      (calculator.press (.number entered)).weight + 1 := by
  simp only [overlooks, Bool.and_eq_true, decide_eq_true_eq, Bool.not_eq_true'] at overlooked
  obtain ⟨⟨rfl, behind⟩, parted⟩ := overlooked
  have kept : calculator.press (.number ['.']) = calculator.startAfresh := by
    rw [press, enterNumber, behind]
    rfl
  have taken : calculator.inSymbols.press (Key.number ['.']).inSymbols =
      calculator.startAfresh.inSymbols.append ['.'] := by
    show calculator.inSymbols.enterNumber ['.'] = _
    rw [enterNumber, startAfresh_inSymbols]
    show (if (decide (['.'] = ['.']) &&
      (currentNumber (Glyph.inSymbols calculator.startAfresh.expression)).contains '.') = true
      then _ else _) = _
    rw [parted]
    rfl
  rw [kept, taken, weight_append, weight_inSymbols]
  rfl

/-- The sign that should have been replaced is still there. -/
theorem weight_pressed_operator {entered : Char}
    (overlooked : calculator.overlooks (.operator entered) = true) :
    (calculator.inSymbols.press (Key.operator entered).inSymbols).weight <
      (calculator.press (.operator entered)).weight := by
  rcases List.eq_nil_or_concat' calculator.continueFromResult.expression with
    empty | ⟨front, last, whole⟩
  · rw [overlooks, empty] at overlooked
    cases overlooked
  · rw [overlooks, whole, List.getLast?_concat, Option.any_some] at overlooked
    have both := isSymbol_symbol_and last entered
    rw [overlooked, Bool.or_true] at both
    have parted : (BinaryOperator.isSymbol last && BinaryOperator.isSymbol entered) = false := by
      rw [partsOperators, Bool.and_eq_true, Bool.or_eq_true] at overlooked
      rcases overlooked.2 with sign | sign
      · rw [Glyph.isSymbol_of_isSign sign, Bool.false_and]
      · rw [Glyph.isSymbol_of_isSign sign, Bool.and_false]
    have ends : calculator.inSymbols.continueFromResult.expression =
        Glyph.inSymbols front ++ [Glyph.symbol last] := by
      rw [continueFromResult_inSymbols, inSymbols, whole, Glyph.inSymbols_append]
      rfl
    have positive := Glyph.length_spell_pos last
    show (calculator.inSymbols.enterOperator (Glyph.symbol entered)).weight <
      (calculator.enterOperator entered).weight
    rw [enterOperator_of_concat ends, enterOperator_of_concat whole, both, parted, if_pos rfl,
      if_neg (by decide), weight, weight, append, whole, Glyph.length_spellAll_concat,
      Glyph.length_spellAll_concat, Glyph.length_spellAll_concat, Glyph.spellAll_inSymbols,
      Glyph.spell_symbol]
    omega

/-- The result that should have been gone on from is lost. -/
theorem weight_pressed_text {entered : Text}
    (overlooked : calculator.overlooks (.text entered) = true) :
    (calculator.press (.text entered)).weight <
      (calculator.inSymbols.press (Key.text entered).inSymbols).weight := by
  rw [overlooks, Bool.and_eq_true] at overlooked
  obtain ⟨shows, starts⟩ := overlooked
  cases entered with
  | nil => cases starts
  | cons c rest =>
      rw [List.head?_cons, Option.any_some] at starts
      have fresh : calculator.press (.text (c :: rest)) = calculator.startAfresh.append (c :: rest) := by
        rw [press, enterText, List.head?_cons, Option.any_some, Glyph.isSymbol_of_isSign starts]
        rfl
      have continued : calculator.inSymbols.press (Key.text (c :: rest)).inSymbols =
          (calculator.continueFromResult.append (c :: rest)).inSymbols := by
        rw [← append_inSymbols, ← continueFromResult_inSymbols]
        show (if BinaryOperator.isSymbol (Glyph.symbol c) = true then _ else _) = _
        rw [Glyph.isSymbol_symbol, starts, Bool.or_true]
        rfl
      have empty : calculator.startAfresh.weight = 0 := by
        rw [weight, startAfresh, if_pos shows]
        rfl
      have positive : 0 < calculator.continueFromResult.weight := by
        rw [weight, continueFromResult_of_showsResult shows, Glyph.length_spellAll]
        exact Nat.add_pos_left (List.length_pos_iff.mpr (plainText_ne_nil _)) _
      rw [fresh, continued, weight_inSymbols, weight_append, weight_append, empty]
      exact Nat.add_lt_add_right positive _

/-- **A key that overlooks a sign does something else than it does at an operator.** -/
theorem spelt_press_ne {key : Key} (overlooked : calculator.overlooks key = true) :
    (calculator.inSymbols.press key.inSymbols).spelt ≠ (calculator.press key).spelt := by
  intro same
  have weights : (calculator.inSymbols.press key.inSymbols).weight =
      (calculator.press key).weight := congrArg (fun spelt => spelt.expression.length) same
  cases key with
  | number entered => exact absurd (weight_pressed_number overlooked) (by omega)
  | operator entered => exact absurd (weight_pressed_operator overlooked) (by omega)
  | text entered => exact absurd (weight_pressed_text overlooked) (by omega)
  | _ => cases overlooked

/-! ## Rows of keys -/

/-- The calculator after a row of keys, and what it would answer then, are the same with operators
in place of the signs, up to the spelling of expressions. -/
def Interchangeable (keys : List Key) : Prop :=
  (fresh.pressAll (keys.map Key.inSymbols)).spelt = (fresh.pressAll keys).spelt ∧
    ∀ detailed, (fresh.pressAll (keys.map Key.inSymbols)).answer detailed =
      (fresh.pressAll keys).answer detailed

theorem interchangeable_iff (keys : List Key) :
    Interchangeable keys ↔
      (fresh.pressAll (keys.map Key.inSymbols)).spelt = (fresh.pressAll keys).spelt :=
  ⟨And.left, fun same => ⟨same, answer_of_spelt same⟩⟩

/-- A row of keys of which none overlooks a sign. -/
theorem pressAll_inSymbols {keys : List Key}
    (seen : ∀ front key, front ++ [key] <+: keys → (fresh.pressAll front).overlooks key = false) :
    fresh.pressAll (keys.map Key.inSymbols) = (fresh.pressAll keys).inSymbols := by
  induction keys using List.reverseRecOn with
  | nil => rfl
  | append_singleton keys key ih =>
      have before : fresh.pressAll (keys.map Key.inSymbols) = (fresh.pressAll keys).inSymbols :=
        ih fun front next begins => seen front next (begins.trans (List.prefix_append keys [key]))
      rw [List.map_append, List.map_singleton, pressAll_concat, pressAll_concat, before,
        press_inSymbols (seen keys key List.prefix_rfl)]

/-- **When display signs are interchangeable with operators.** Whatever keys are pressed on a new
calculator, at each of them it has the same registers, the same expression and the same answer to a
calculation with operators in place of the signs, expressions being compared as they are spelt out,
as long as no key overlooks a sign; the first key that overlooks one sets the two apart. -/
theorem interchangeable_pressAll_iff (keys : List Key) :
    (∀ front, front <+: keys → Interchangeable front) ↔
      ∀ front key, front ++ [key] <+: keys → (fresh.pressAll front).overlooks key = false := by
  constructor
  · intro alike front
    -- By induction on the row: what no key has overlooked so far has kept the two together.
    induction size : front.length using Nat.strongRecOn generalizing front with
    | ind length ih =>
        intro key begins
        have shorter : front <+: keys := (List.prefix_append front [key]).trans begins
        have before : fresh.pressAll (front.map Key.inSymbols) = (fresh.pressAll front).inSymbols := by
          refine pressAll_inSymbols fun earlier next within => ?_
          have less : earlier.length < length := by
            have bound := within.length_le
            rw [List.length_append, List.length_singleton] at bound
            omega
          exact ih earlier.length less earlier rfl next (within.trans shorter)
        by_contra overlooked
        rw [Bool.not_eq_false] at overlooked
        have same := (alike _ begins).1
        rw [List.map_append, List.map_singleton, pressAll_concat, pressAll_concat, before] at same
        exact spelt_press_ne overlooked same
  · intro seen front begins
    rw [interchangeable_iff, pressAll_inSymbols fun earlier key within =>
      seen earlier key (within.trans begins), spelt_inSymbols]

/-- A plus behind a × that it does not replace, a point in the number behind a ×, and a × behind a
displayed result. -/
theorem not_interchangeable_of_overlooked :
    ¬Interchangeable
      [.number ['5'], .operator '×', .operator '+', .number ['2'], .equals false] ∧
      ¬Interchangeable [.text "1.5×2".toList, .number ['.']] ∧
      ¬Interchangeable [.text ['3'], .equals false, .text "×2".toList] := by
  refine ⟨fun alike => ?_, fun alike => ?_, fun alike => ?_⟩
  · have ten : (fresh.pressAll [.number ['5'], .operator '×', .operator '+', .number ['2'],
        .equals false]).spelt.lastResult = 10.0 := by decide +kernel
    have seven : (fresh.pressAll ([.number ['5'], .operator '×', .operator '+', .number ['2'],
        .equals false].map Key.inSymbols)).spelt.lastResult = 7.0 := by decide +kernel
    rw [alike.1, ten] at seven
    exact absurd seven (by decide)
  · exact absurd (congrArg expression alike.1) (by decide +kernel)
  · exact absurd (congrArg expression alike.1) (by decide +kernel)

end Calculator

end Reckoner
