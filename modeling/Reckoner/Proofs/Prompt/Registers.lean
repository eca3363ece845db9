import Mathlib.Data.List.Induction
import Reckoner.Proofs.Prompt.Replay

/-!
# The registers behind the prompt

A session has two registers, the last result and the memory, and a line sets at most one of them
(`Session.sets_submit`). What they hold can be told from the lines and the answers alone:

* the last result is the latest value in the answers since the last `clear` (`lastValue`);
* the memory adds up the last results at every `m+` since the last `mc` (`memorySum`), and a `clear`
  has no part in it.
-/

namespace Reckoner

/-! ## Commands without an argument -/

namespace Command

/-- A command that comes without a name, a path or an expression. -/
def isBare : Command → Bool
  | .theme (some _) | .exportTo _ | .evaluate _ _ => false
  | _ => true

/-- A word that is a command is recognised in any case and between any blanks. -/
theorem parse?_of_mem_words {line : Text} {command : Command}
    (member : (Text.fold (Text.trim line), command) ∈ words) : parse? line = some command := by
  have found := lookup_of_mem_words member
  have visible : Text.trim line ≠ [] := by
    intro blank
    rw [blank] at found
    cases found
  rw [parse?]
  show (if Text.trim line = [] then none else some (ofLine (Text.trim line))) = _
  rw [if_neg visible, ofLine, found]

/-- **A bare command is one of the command words**, in any case and between any blanks. -/
theorem parse?_eq_bare_iff {line : Text} {command : Command} (bare : command.isBare = true) :
    parse? line = some command ↔ (Text.fold (Text.trim line), command) ∈ words := by
  refine ⟨fun asked => ?_, parse?_of_mem_words⟩
  have whole : ofLine (Text.trim line) = command := by
    rw [parse?] at asked
    split at asked
    · cases asked
    · exact Option.some.inj asked
  subst whole
  unfold ofLine at bare ⊢
  -- Only the look-up of whole words brings a command that is bare.
  split
  · rename_i found
    exact mem_words_of_lookup found
  · rename_i unlisted
    rw [unlisted] at bare
    dsimp only at bare
    split at bare
    · cases bare
    · split at bare
      · cases bare
      · split at bare
        · cases bare
        · split at bare
          · cases bare
          · cases bare

end Command

/-! ## What a line sets -/

/-- The value that an answer brings, if an expression was evaluated. -/
def Reply.value? : Reply → Option Float
  | .evaluated evaluation => evaluation.result.toOption
  | _ => none

/-- A calculation leaves the memory, and only its result becomes the last one. -/
theorem Calculator.calculate_registers (calculator : Calculator) (detailed : Bool) :
    (calculator.calculate detailed).1.memory = calculator.memory ∧
      (calculator.calculate detailed).1.lastResult =
        match (calculator.calculate detailed).2 with
        | .ok (some calculation) => calculation.result
        | _ => calculator.lastResult := by
  rcases calculator.calculate_cases detailed with nothing | ⟨cause, -, failure⟩ |
    ⟨steps, value, -, success⟩
  · rw [nothing]
    exact ⟨rfl, rfl⟩
  · rw [failure]
    exact ⟨rfl, rfl⟩
  · rw [success]
    exact ⟨rfl, rfl⟩

namespace Session

/-- What has become of the two registers of a session, by the command and the answer to it. -/
structure Sets (session : Session) (asked : Option Command) (after : Session) (reply : Reply) :
    Prop where
  last : after.calculator.lastResult =
    if asked = some .clear then 0.0 else reply.value?.getD session.calculator.lastResult
  memory : after.calculator.memory =
    if asked = some .memoryClear then 0.0
    else if asked = some .memoryAdd then session.calculator.memory + session.calculator.lastResult
    else session.calculator.memory
  answer : asked = some .memoryClear ∨ asked = some .memoryAdd →
    reply = .memory after.calculator.memory

/-- What leaves the registers alone and brings no value is none of the three commands. -/
theorem Sets.of_frame {session after : Session} {asked : Option Command} {reply : Reply}
    (other : asked ≠ some .clear ∧ asked ≠ some .memoryClear ∧ asked ≠ some .memoryAdd)
    (valueless : reply.value? = none)
    (frame : after.calculator.lastResult = session.calculator.lastResult ∧
      after.calculator.memory = session.calculator.memory) : session.Sets asked after reply where
  last := by rw [if_neg other.1, valueless, frame.1]; rfl
  memory := by rw [if_neg other.2.1, if_neg other.2.2, frame.2]
  answer := by
    rintro (clear | add)
    · exact absurd clear other.2.1
    · exact absurd add other.2.2

theorem calculator_setTheme (session : Session) (theme : Theme) :
    (session.setTheme theme).calculator = session.calculator := by
  rw [setTheme]
  split
  · rfl
  · split
    · rfl
    · rfl

theorem calculator_exportTo (session : Session) (path : Text) :
    (session.exportTo path).1.calculator = session.calculator := by
  rw [exportTo]
  split
  · rfl
  · rfl

theorem evaluate_registers (session : Session) (now : Moment) (expression : Text)
    (detailed : Bool) :
    (session.evaluate now expression detailed).1.calculator.memory = session.calculator.memory ∧
      (session.evaluate now expression detailed).1.calculator.lastResult =
        (session.evaluate now expression detailed).2.result.toOption.getD
          session.calculator.lastResult := by
  obtain ⟨memory, last⟩ :=
    (session.calculator.setExpression expression).calculate_registers detailed
  rw [evaluate]
  cases outcome : (session.calculator.setExpression expression).calculate detailed with
  | mk calculator result =>
      rw [outcome] at memory last
      cases result with
      | error cause => exact ⟨memory, last⟩
      | ok found =>
          cases found with
          | none => exact ⟨memory, last⟩
          | some calculation => exact ⟨memory, last⟩

theorem sets_perform (session : Session) (now : Moment) (command : Command) :
    session.Sets (some command) (session.perform now command).1
      (session.perform now command).2 := by
  cases command with
  | clear => exact ⟨rfl, rfl, by simp⟩
  | memoryClear => exact ⟨rfl, rfl, fun _ => rfl⟩
  | memoryAdd => exact ⟨rfl, rfl, fun _ => rfl⟩
  | theme name =>
      cases name with
      | none =>
          have kept := session.calculator_setTheme session.theme.next
          exact .of_frame (by simp) rfl ⟨congrArg _ kept, congrArg _ kept⟩
      | some name =>
          rw [perform]
          split
          · rename_i theme _
            have kept := session.calculator_setTheme theme
            exact .of_frame (by simp) rfl ⟨congrArg _ kept, congrArg _ kept⟩
          · exact .of_frame (by simp) rfl ⟨rfl, rfl⟩
  | exportTo path =>
      have kept := session.calculator_exportTo path
      have valueless : (session.exportTo path).2.value? = none := by
        rw [exportTo]
        split
        · rfl
        · rfl
      exact .of_frame (by simp) valueless ⟨congrArg _ kept, congrArg _ kept⟩
  | evaluate expression detailed =>
      cases expression with
      | nil => exact .of_frame (by simp) rfl ⟨rfl, rfl⟩
      | cons c rest =>
          obtain ⟨memory, last⟩ := session.evaluate_registers now (c :: rest) detailed
          exact ⟨last, memory, by simp⟩
  | _ => exact .of_frame (by simp) rfl ⟨rfl, rfl⟩

/-- **A line sets at most one register**: a value becomes the last result, `clear` forgets it, `mc`
and `m+` set the memory and answer with it. -/
theorem sets_submit (session : Session) (now : Moment) (line : Text) :
    session.Sets (Command.parse? line) (session.submit now line).1 (session.submit now line).2 := by
  rw [submit]
  cases Command.parse? line with
  | none => exact .of_frame (by simp) rfl ⟨rfl, rfl⟩
  | some command =>
      obtain ⟨last, memory, answer⟩ := (session.note .debug .session
        ("command: ".toList ++ command.logText)).sets_perform now command
      exact ⟨last, memory, answer⟩

end Session

/-! ## What was said -/

/-- A line and the answer to it. -/
structure Exchange where
  line : Text
  reply : Reply

namespace Exchange

/-- The line without the white space around it, in lower case. -/
def word (exchange : Exchange) : Text := Text.fold (Text.trim exchange.line)

/-- The line forgets the last result. -/
def clears (exchange : Exchange) : Bool :=
  exchange.word = "clear".toList || exchange.word = "reset".toList

/-- The line empties the memory. -/
def emptiesMemory (exchange : Exchange) : Bool := exchange.word = "mc".toList

/-- The line adds the last result to the memory. -/
def addsToMemory (exchange : Exchange) : Bool := exchange.word = "m+".toList

theorem clears_iff (exchange : Exchange) :
    exchange.clears = true ↔ Command.parse? exchange.line = some .clear := by
  rw [Command.parse?_eq_bare_iff rfl, clears, Bool.or_eq_true, decide_eq_true_eq,
    decide_eq_true_eq]
  simp [word, Command.words]

theorem emptiesMemory_iff (exchange : Exchange) :
    exchange.emptiesMemory = true ↔ Command.parse? exchange.line = some .memoryClear := by
  rw [Command.parse?_eq_bare_iff rfl, emptiesMemory, decide_eq_true_eq]
  simp [word, Command.words]

theorem addsToMemory_iff (exchange : Exchange) :
    exchange.addsToMemory = true ↔ Command.parse? exchange.line = some .memoryAdd := by
  rw [Command.parse?_eq_bare_iff rfl, addsToMemory, decide_eq_true_eq]
  simp [word, Command.words]

end Exchange

/-- The value of the latest exchange that has one since the last clear, and zero without one. The
latest exchange comes first. -/
def lastValue (exchanges : List Exchange) : Float :=
  ((exchanges.takeWhile (fun exchange => !exchange.clears)).findSome?
    (fun exchange => exchange.reply.value?)).getD 0.0

/-- The memory by what was said: `mc` brings it back to zero, every `m+` adds the last result of its
time, and nothing else changes it. The latest exchange comes first. -/
def memorySum : List Exchange → Float
  | [] => 0.0
  | latest :: earlier =>
    if latest.emptiesMemory then 0.0
    else if latest.addsToMemory then memorySum earlier + lastValue earlier
    else memorySum earlier

theorem lastValue_cons (latest : Exchange) (earlier : List Exchange) :
    lastValue (latest :: earlier) =
      if latest.clears then 0.0 else latest.reply.value?.getD (lastValue earlier) := by
  cases cleared : latest.clears with
  | true => simp [lastValue, cleared]
  | false =>
      rw [lastValue, List.takeWhile_cons_of_pos (by simp [cleared]), List.findSome?_cons]
      cases latest.reply.value? with
      | some value => rfl
      | none => rfl

namespace Session

/-- What is said while lines are submitted, each at its own moment. -/
def converse (session : Session) : List (Moment × Text) → List Exchange
  | [] => []
  | (now, line) :: rest =>
    ⟨line, (session.submit now line).2⟩ :: (session.submit now line).1.converse rest

theorem submitEach_concat (session : Session) (lines : List (Moment × Text))
    (line : Moment × Text) :
    session.submitEach (lines ++ [line]) =
      ((session.submitEach lines).submit line.1 line.2).1 := List.foldl_append

theorem converse_concat (session : Session) (lines : List (Moment × Text))
    (line : Moment × Text) :
    session.converse (lines ++ [line]) =
      session.converse lines ++
        [⟨line.2, ((session.submitEach lines).submit line.1 line.2).2⟩] := by
  induction lines generalizing session with
  | nil => rfl
  | cons first rest ih =>
      show _ :: (session.submit first.1 first.2).1.converse (rest ++ [line]) = _
      rw [ih]
      rfl

/-- The exchanges so far, the latest one first. -/
def exchanges (session : Session) (lines : List (Moment × Text)) : List Exchange :=
  (session.converse lines).reverse

theorem exchanges_concat (session : Session) (lines : List (Moment × Text))
    (line : Moment × Text) :
    session.exchanges (lines ++ [line]) =
      ⟨line.2, ((session.submitEach lines).submit line.1 line.2).2⟩ ::
        session.exchanges lines := by
  rw [exchanges, converse_concat, List.reverse_append, List.reverse_singleton,
    List.singleton_append, exchanges]

/-- The registers after any lines, by what was said. -/
theorem registers_of_exchanges {session : Session} (fresh : session.calculator = Calculator.fresh)
    (lines : List (Moment × Text)) :
    (session.submitEach lines).calculator.lastResult = lastValue (session.exchanges lines) ∧
      (session.submitEach lines).calculator.memory = memorySum (session.exchanges lines) := by
  induction lines using List.reverseRecOn with
  | nil =>
      show session.calculator.lastResult = _ ∧ session.calculator.memory = _
      rw [fresh]
      exact ⟨rfl, rfl⟩
  | append_singleton lines line ih =>
      obtain ⟨last, memory, -⟩ := (session.submitEach lines).sets_submit line.1 line.2
      rw [submitEach_concat, exchanges_concat, last, memory, ih.1, ih.2, lastValue_cons, memorySum]
      simp only [Exchange.clears_iff, Exchange.emptiesMemory_iff, Exchange.addsToMemory_iff,
        and_self]

/-- **The last result and the memory.** After any lines submitted to a new session, the last result
is the latest value answered since the last clear, or zero; the memory is what `mc` and `m+` have
made of zero, each `m+` adding the last result of its time, whatever other lines and failures came
between. Either command answers with the new memory. -/
theorem registers_of_submitEach {session : Session}
    (fresh : session.calculator = Calculator.fresh) (lines : List (Moment × Text)) :
    (session.submitEach lines).calculator.lastResult = lastValue (session.exchanges lines) ∧
      (session.submitEach lines).calculator.memory = memorySum (session.exchanges lines) ∧
      ∀ now line reply, ((session.submitEach lines).submit now line).2 = reply →
        (Exchange.mk line reply).emptiesMemory = true ∨
          (Exchange.mk line reply).addsToMemory = true →
        reply = .memory (memorySum (⟨line, reply⟩ :: session.exchanges lines)) := by
  obtain ⟨last, memory⟩ := registers_of_exchanges fresh lines
  refine ⟨last, memory, ?_⟩
  rintro now line reply rfl said
  obtain ⟨-, after⟩ := registers_of_exchanges fresh (lines ++ [(now, line)])
  rw [submitEach_concat, exchanges_concat] at after
  rw [Exchange.emptiesMemory_iff, Exchange.addsToMemory_iff] at said
  rw [← after]
  exact ((session.submitEach lines).sets_submit now line).answer said

/-- A clear and a failure between two additions, in mixed case and between blanks. -/
def mixedLines : List (Moment × Text) :=
  [(⟨0, 0⟩, "6*7".toList), (⟨1, 0⟩, " M+ ".toList), (⟨2, 0⟩, "Reset".toList),
    (⟨3, 0⟩, "2+2".toList), (⟨4, 0⟩, "5/0".toList)]

theorem registers_of_submitEach_mixed :
    (inMemory {} Settings.standard).calculator = Calculator.fresh ∧
      ((inMemory {} Settings.standard).submitEach mixedLines).calculator.lastResult = 4.0 ∧
      ((inMemory {} Settings.standard).submitEach mixedLines).calculator.memory = 42.0 ∧
      (((inMemory {} Settings.standard).submitEach mixedLines).submit ⟨5, 0⟩ "m+".toList).2 =
        .memory 46.0 := by
  have fresh : (inMemory {} Settings.standard).calculator = Calculator.fresh := rfl
  have four : lastValue ((inMemory {} Settings.standard).exchanges mixedLines) = 4.0 := by
    decide +kernel
  have sum : memorySum ((inMemory {} Settings.standard).exchanges mixedLines) = 42.0 := by
    decide +kernel
  obtain ⟨last, memory, answers⟩ := registers_of_submitEach fresh mixedLines
  have added := answers ⟨5, 0⟩ "m+".toList _ rfl (.inr (by decide))
  refine ⟨fresh, last.trans four, memory.trans sum, added.trans ?_⟩
  show Reply.memory (memorySum ((inMemory {} Settings.standard).exchanges mixedLines) +
    lastValue ((inMemory {} Settings.standard).exchanges mixedLines)) = _
  rw [sum, four]
  exact congrArg Reply.memory (by decide)

end Session

end Reckoner
