import Reckoner.Proofs.Decimal.Notation
import Reckoner.Proofs.Prompt.Registers

/-!
# What the memory can hold

The evaluator refuses a value that is not finite, but `m+` adds to the memory without such a check.
From finite results the memory gets out of range in one way only (`memorySum_cases`): an `m+`
adds two finite doubles whose sum is beyond all numbers (`Overflows`). From then on it is infinite
until the next `mc`, and `mr` offers a word for it; it is never undefined.
-/

namespace Reckoner

/-- Since the last `mc`, an `m+` has added up two finite doubles to an infinite one. The latest
exchange comes first. -/
inductive Overflows : List Exchange → Prop where
  | here {latest : Exchange} {earlier : List Exchange} (adds : latest.addsToMemory = true)
      (held : (memorySum earlier).isFinite = true)
      (beyond : (memorySum earlier + lastValue earlier).isInf = true) :
      Overflows (latest :: earlier)
  | before {latest : Exchange} {earlier : List Exchange} (kept : latest.emptiesMemory = false)
      (past : Overflows earlier) : Overflows (latest :: earlier)

/-- The exchange brings no value but a finite one. -/
def Exchange.isFinite (exchange : Exchange) : Bool := exchange.reply.value?.all Float.isFinite

/-- A line does not empty the memory and add to it. -/
theorem Exchange.emptiesMemory_of_addsToMemory {exchange : Exchange}
    (adds : exchange.addsToMemory = true) : exchange.emptiesMemory = false := by
  cases empties : exchange.emptiesMemory with
  | false => rfl
  | true =>
      rw [emptiesMemory_iff] at empties
      rw [addsToMemory_iff, empties] at adds
      cases adds

theorem lastValue_isFinite {exchanges : List Exchange}
    (finite : ∀ exchange ∈ exchanges, exchange.isFinite = true) :
    (lastValue exchanges).isFinite = true := by
  induction exchanges with
  | nil => rfl
  | cons latest earlier ih =>
      obtain ⟨now, before⟩ := List.forall_mem_cons.mp finite
      rw [lastValue_cons]
      rw [Exchange.isFinite] at now
      split
      · rfl
      · cases said : latest.reply.value? with
        | none => exact ih before
        | some value =>
            rw [said] at now
            exact now

theorem overflows_cons_iff {latest : Exchange} {earlier : List Exchange} :
    Overflows (latest :: earlier) ↔ latest.emptiesMemory = false ∧
      (Overflows earlier ∨ latest.addsToMemory = true ∧ (memorySum earlier).isFinite = true ∧
        (memorySum earlier + lastValue earlier).isInf = true) := by
  constructor
  · rintro (⟨adds, held, beyond⟩ | ⟨kept, past⟩)
    · exact ⟨Exchange.emptiesMemory_of_addsToMemory adds, .inr ⟨adds, held, beyond⟩⟩
    · exact ⟨kept, .inl past⟩
  · rintro ⟨kept, past | ⟨adds, held, beyond⟩⟩
    · exact .before kept past
    · exact .here adds held beyond

/-- **The memory is infinite after an overflow and finite without one**, as long as the results are
finite. -/
theorem memorySum_cases {exchanges : List Exchange}
    (finite : ∀ exchange ∈ exchanges, exchange.isFinite = true) :
    (memorySum exchanges).isFinite = true ∧ ¬Overflows exchanges ∨
      (memorySum exchanges).isInf = true ∧ Overflows exchanges := by
  induction exchanges with
  | nil => exact .inl ⟨rfl, fun past => nomatch past⟩
  | cons latest earlier ih =>
      obtain ⟨-, before⟩ := List.forall_mem_cons.mp finite
      have last : (lastValue earlier).isFinite = true := lastValue_isFinite before
      rw [memorySum, overflows_cons_iff]
      cases latest.emptiesMemory with
      | true =>
          left
          rw [if_pos rfl]
          exact ⟨rfl, by simp⟩
      | false =>
          cases latest.addsToMemory with
          | false => simpa using ih before
          | true =>
              rcases ih before with ⟨held, within⟩ | ⟨infinite, past⟩
              · rcases add_of_isFinite held last with sum | sum
                · exact .inl ⟨sum, by simp [within, isInf_of_isFinite sum]⟩
                · exact .inr ⟨sum, by simp [held, sum]⟩
              · have stays := add_of_isInf infinite last
                exact .inr ⟨by simpa [stays] using infinite, by simp [past]⟩

namespace Session

/-- `mr` offers the memory as it is shown, for the next line. -/
theorem submit_memoryRecall (session : Session) (now : Moment) {line : Text}
    (said : Text.fold (Text.trim line) = "mr".toList) :
    (session.submit now line).2 = .insert (Answer.text session.calculator.memory) := by
  have asked : Command.parse? line = some .memoryRecall :=
    Command.parse?_of_mem_words (by rw [said]; decide)
  rw [submit, asked]
  rfl

/-- **The memory after any lines.** As long as all results are finite, the memory is infinite if
some `m+` since the last `mc` has added up two finite doubles to an infinite one, and finite in all
other cases. `mr` offers a word in the first case and a number in the others. -/
theorem memory_of_submitEach {session : Session} (fresh : session.calculator = Calculator.fresh)
    (lines : List (Moment × Text))
    (finite : ∀ exchange ∈ session.exchanges lines, exchange.isFinite = true) :
    ((session.submitEach lines).calculator.memory.isInf = true ↔
        Overflows (session.exchanges lines)) ∧
      ((session.submitEach lines).calculator.memory.isFinite = true ↔
        ¬Overflows (session.exchanges lines)) ∧
      ∀ now line, Text.fold (Text.trim line) = "mr".toList →
        ∃ text, ((session.submitEach lines).submit now line).2 = .insert text ∧
          (Overflows (session.exchanges lines) → text = "inf".toList ∨ text = "-inf".toList) ∧
          (¬Overflows (session.exchanges lines) → Answer.IsNumeral text) := by
  have offered (now : Moment) {line : Text} (said : Text.fold (Text.trim line) = "mr".toList) :=
    (session.submitEach lines).submit_memoryRecall now said
  rw [(registers_of_exchanges fresh lines).2] at offered ⊢
  rcases memorySum_cases finite with ⟨held, within⟩ | ⟨infinite, past⟩
  · refine ⟨by simp [isInf_of_isFinite held, within], by simp [held, within], ?_⟩
    intro now line said
    exact ⟨_, offered now said, fun past => absurd past within,
      fun _ => Answer.isNumeral_text held⟩
  · have unbounded : (memorySum (session.exchanges lines)).isFinite = false := by
      cases held : (memorySum (session.exchanges lines)).isFinite with
      | false => rfl
      | true =>
          rw [isInf_of_isFinite held] at infinite
          cases infinite
    refine ⟨by simp [infinite, past], by simp [unbounded, past], ?_⟩
    intro now line said
    exact ⟨_, offered now said, fun _ => Answer.text_of_isInf infinite,
      fun within => absurd past within⟩

/-- The greatest power of ten that is a double, added to the memory twice. -/
def hugeLines : List (Moment × Text) :=
  [(⟨0, 0⟩, '1' :: Text.copies 308 '0'), (⟨1, 0⟩, "m+".toList), (⟨2, 0⟩, "m+".toList)]

/-- The same, and then an `mc`. -/
def emptiedLines : List (Moment × Text) := hugeLines ++ [(⟨3, 0⟩, "mc".toList)]

theorem memory_of_submitEach_emptied :
    (inMemory {} Settings.standard).calculator = Calculator.fresh ∧
      (∀ exchange ∈ (inMemory {} Settings.standard).exchanges emptiedLines,
        exchange.isFinite = true) ∧
      ((inMemory {} Settings.standard).submitEach emptiedLines).calculator.memory.isFinite = true ∧
      ∃ text, (((inMemory {} Settings.standard).submitEach emptiedLines).submit ⟨4, 0⟩
        "mr".toList).2 = .insert text ∧ Answer.IsNumeral text := by
  have fresh : (inMemory {} Settings.standard).calculator = Calculator.fresh := rfl
  have finite : ∀ exchange ∈ (inMemory {} Settings.standard).exchanges emptiedLines,
      exchange.isFinite = true := by
    decide +kernel
  have within : ¬Overflows ((inMemory {} Settings.standard).exchanges emptiedLines) := by
    rw [emptiedLines, exchanges_concat, overflows_cons_iff]
    intro past
    exact absurd past.1 (by decide)
  obtain ⟨-, held, offers⟩ := memory_of_submitEach fresh emptiedLines finite
  obtain ⟨text, offered, -, number⟩ := offers ⟨4, 0⟩ "mr".toList (by decide)
  exact ⟨fresh, finite, held.mpr within, text, offered, number within⟩

/-- One finite result, added twice, makes the memory infinite, and `mr` offers a word. -/
theorem memory_not_finite_of_huge :
    (∀ exchange ∈ (inMemory {} Settings.standard).exchanges hugeLines,
        exchange.isFinite = true) ∧
      ((inMemory {} Settings.standard).submitEach hugeLines).calculator.memory.isFinite = false ∧
      (((inMemory {} Settings.standard).submitEach hugeLines).submit ⟨3, 0⟩ "mr".toList).2 =
        .insert "inf".toList := by
  have sum : ((inMemory {} Settings.standard).submitEach hugeLines).calculator.memory =
      infinity := by
    decide +kernel
  refine ⟨by decide +kernel, by rw [sum]; decide, ?_⟩
  rw [submit_memoryRecall _ _ (by decide), sum]
  exact congrArg Reply.insert (by decide +kernel)

end Session

end Reckoner
