import Reckoner.Proofs.History.Persistence
import Reckoner.Session

/-!
# What a line changes

Every line that is submitted has one of five effects (`Session.submit_answered`): nothing is kept of
it, a result is recorded, the history is cleared, another theme is taken, or the history is
exported. Each writes at most one file. What an answer means for the history can be told from the
answer alone (`Session.submit_history`), and no line changes the settings in more than the theme
(`Session.submit_settings`).
-/

namespace Reckoner

/-! ## What an answer records -/

/-- What an answer means for what is recorded. -/
inductive Reply.Effect where
  | kept
  | cleared
  | recorded (expression : Text) (result : Float)

/-- Only an expression with a value is recorded, and only one command clears what was. -/
def Reply.effect : Reply → Effect
  | .cleared => .cleared
  | .evaluated evaluation =>
    match evaluation.result with
    | .ok result => .recorded evaluation.input result
    | .error _ => .kept
  | _ => .kept

/-- The effect on a history. -/
def Reply.Effect.onHistory (now : Moment) (history : History) : Effect → History
  | .kept => history
  | .cleared => { history with items := [] }
  | .recorded expression result => history.record expression result now

namespace Session

/-! ## Answers -/

/-- A session with the same files and, as given, the history, the settings and the disk. -/
structure Became (session after : Session) (history : History) (settings : Settings)
    (disk : Disk) : Prop where
  files : after.files = session.files
  history : after.history = history
  settings : after.settings = settings
  disk : after.store.disk = disk

/-- The disk once the settings have been saved with another theme, if the session has files. -/
def themedDisk (session : Session) (theme : Theme) : Disk :=
  match session.files with
  | none => session.store.disk
  | some files =>
    (Settings.save { session.settings with theme := theme } session.store.disk files.settings).1

/-- What a line has done to a session, by its answer. -/
inductive Answered (session : Session) (now : Moment) (line : Text) (after : Session)
    (reply : Reply) : Prop where
  | kept (effect : reply.effect = .kept)
      (became : session.Became after session.history session.settings session.store.disk)
  | recorded (expression : Text) (result : Float)
      (effect : reply.effect = .recorded expression result)
      (became : session.Became after (session.history.record expression result now)
        session.settings
        ((session.history.record expression result now).save session.store.disk).1)
  | cleared (effect : reply.effect = .cleared)
      (became : session.Became after { session.history with items := [] } session.settings
        (History.save { session.history with items := [] } session.store.disk).1)
  | themed (theme : Theme) (effect : reply.effect = .kept)
      (became : session.Became after session.history { session.settings with theme := theme }
        (session.themedDisk theme))
  | exported (path : Text) (asked : Command.parse? line = some (.exportTo path))
      (effect : reply.effect = .kept)
      (became : session.Became after session.history session.settings
        ((session.store.disk.write path (History.exportText session.history.items)).toOption.getD
          session.store.disk))

theorem became_setTheme (session : Session) (theme : Theme) :
    session.Became (session.setTheme theme) session.history
      { session.settings with theme := theme } (session.themedDisk theme) := by
  obtain ⟨calculator, history, settings, files, store⟩ := session
  cases files with
  | none => exact ⟨rfl, rfl, rfl, rfl⟩
  | some files =>
      simp only [setTheme, themedDisk]
      generalize Settings.save _ store.disk files.settings = saving
      obtain ⟨disk, _ | _⟩ := saving
      · exact ⟨rfl, rfl, rfl, rfl⟩
      · exact ⟨rfl, rfl, rfl, rfl⟩

theorem answered_evaluate (session : Session) (now : Moment) (line expression : Text)
    (detailed : Bool) :
    session.Answered now line (session.evaluate now expression detailed).1
      (.evaluated (session.evaluate now expression detailed).2) := by
  rw [evaluate]
  cases (session.calculator.setExpression expression).calculate detailed with
  | mk calculator result =>
      cases result with
      | error cause => exact .kept rfl ⟨rfl, rfl, rfl, rfl⟩
      | ok found =>
          cases found with
          | none => exact .kept rfl ⟨rfl, rfl, rfl, rfl⟩
          | some calculation =>
              exact .recorded calculation.expression calculation.result rfl
                ⟨rfl, rfl, rfl, History.persist_disk _ _⟩

theorem answered_exportTo (session : Session) (now : Moment) {line path : Text}
    (asked : Command.parse? line = some (.exportTo path)) :
    session.Answered now line (session.exportTo path).1 (session.exportTo path).2 := by
  rw [exportTo, History.exportTo]
  cases wrote : session.store.disk.write path (History.exportText session.history.items) with
  | error fault => exact .exported path asked rfl ⟨rfl, rfl, rfl, by rw [wrote]; rfl⟩
  | ok disk => exact .exported path asked rfl ⟨rfl, rfl, rfl, by rw [wrote]; rfl⟩

theorem answered_perform (session : Session) (now : Moment) {line : Text} {command : Command}
    (asked : Command.parse? line = some command) :
    session.Answered now line (session.perform now command).1 (session.perform now command).2 := by
  cases command with
  | clear => exact .cleared rfl ⟨rfl, rfl, rfl, History.persist_disk _ _⟩
  | theme name =>
      cases name with
      | none => exact .themed _ rfl (session.became_setTheme _)
      | some name =>
          rw [perform]
          split
          · exact .themed _ rfl (session.became_setTheme _)
          · exact .kept rfl ⟨rfl, rfl, rfl, rfl⟩
  | exportTo path => exact session.answered_exportTo now asked
  | evaluate expression detailed =>
      cases expression with
      | nil => exact .kept rfl ⟨rfl, rfl, rfl, rfl⟩
      | cons c rest => exact session.answered_evaluate now line (c :: rest) detailed
  | _ => exact .kept rfl ⟨rfl, rfl, rfl, rfl⟩

/-- What is logged of a line is none of its effects. -/
theorem Answered.of_note {session after : Session} {now : Moment} {line message : Text}
    {reply : Reply} {level : Level} {source : Source}
    (answered : (session.note level source message).Answered now line after reply) :
    session.Answered now line after reply := by
  have became {history : History} {settings : Settings} {disk : Disk}
      (noted : (session.note level source message).Became after history settings disk) :
      session.Became after history settings disk :=
    ⟨noted.files, noted.history, noted.settings, noted.disk⟩
  cases answered with
  | kept effect noted => exact .kept effect (became noted)
  | recorded expression result effect noted =>
      exact .recorded expression result effect (became noted)
  | cleared effect noted => exact .cleared effect (became noted)
  | themed theme effect noted => exact .themed theme effect (became noted)
  | exported path asked effect noted => exact .exported path asked effect (became noted)

/-- **Every line has one of five effects.** -/
theorem submit_answered (session : Session) (now : Moment) (line : Text) :
    session.Answered now line (session.submit now line).1 (session.submit now line).2 := by
  rw [submit]
  cases asked : Command.parse? line with
  | none => exact .kept rfl ⟨rfl, rfl, rfl, rfl⟩
  | some command => exact .of_note (answered_perform _ now asked)

/-- **The answer to a line says what has become of the history.** -/
theorem submit_history (session : Session) (now : Moment) (line : Text) :
    (session.submit now line).1.history =
      (session.submit now line).2.effect.onHistory now session.history := by
  cases session.submit_answered now line with
  | kept effect became => rw [became.history, effect]; rfl
  | recorded expression result effect became => rw [became.history, effect]; rfl
  | cleared effect became => rw [became.history, effect]; rfl
  | themed theme effect became => rw [became.history, effect]; rfl
  | exported path asked effect became => rw [became.history, effect]; rfl

/-- **A line changes nothing in the settings but the theme.** -/
theorem submit_settings (session : Session) (now : Moment) (line : Text) :
    ∃ theme, (session.submit now line).1.settings = { session.settings with theme := theme } := by
  cases session.submit_answered now line with
  | kept effect became => exact ⟨session.settings.theme, became.settings⟩
  | recorded expression result effect became => exact ⟨session.settings.theme, became.settings⟩
  | cleared effect became => exact ⟨session.settings.theme, became.settings⟩
  | themed theme effect became => exact ⟨theme, became.settings⟩
  | exported path asked effect became => exact ⟨session.settings.theme, became.settings⟩

end Session

end Reckoner
