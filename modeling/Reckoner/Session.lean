import Reckoner.Calculator
import Reckoner.Command
import Reckoner.DataDir
import Reckoner.History
import Reckoner.Settings

/-!
A session: the calculator, the history and the settings behind a prompt, and the store that they
are kept in. A line is submitted at a moment and answered by a reply; what it changes in files and
in the log is in the session that comes with the reply.
-/

namespace Reckoner

/-- An expression that was evaluated. -/
structure Evaluation where
  input : Text
  /-- The value, or the wording of the error. -/
  result : Except Text Float
  steps : List Step
  detailed : Bool

/-- The answer to a line. -/
inductive Reply where
  | nothing
  | quit
  | cleared
  | showHelp
  | themeChanged (theme : Theme)
  | memory (value : Float)
  /-- Text to be put into the next line. -/
  | insert (text : Text)
  | exported (path : Text) (count : Nat)
  | evaluated (evaluation : Evaluation)
  | failed (message : Text)

/-- The state behind a prompt. -/
structure Session where
  calculator : Calculator := Calculator.fresh
  history : History
  settings : Settings
  /-- Where settings and history are kept, if they are. -/
  files : Option DataDir := none
  store : Store := {}

namespace Session

/-- A session that keeps nothing in files of its own. -/
def inMemory (store : Store) (settings : Settings) : Session where
  history := History.inMemory settings.maxHistory
  settings := settings
  store := store

/-- A session on a data directory. -/
def start (store : Store) (files : DataDir) (settings : Settings) : Session :=
  let (history, store) :=
    if settings.persistHistory then History.load store files.history settings.maxHistory
    else (History.inMemory settings.maxHistory, store)
  { history := history, settings := settings, files := some files, store := store }

/-- The theme in use. -/
def theme (session : Session) : Theme := session.settings.theme

/-- The session with one more record in its log. -/
def note (session : Session) (level : Level) (source : Source) (message : Text) : Session :=
  { session with store := session.store.note level source message }

/-- Takes another theme and saves the settings; a failure to save is only logged. -/
def setTheme (session : Session) (theme : Theme) : Session :=
  let session := { session with settings := { session.settings with theme := theme } }
  match session.files with
  | none => session
  | some files =>
    match session.settings.save session.store.disk files.settings with
    | (disk, .ok ()) => { session with store := session.store.withDisk disk }
    | (disk, .error error) =>
      { session with store := session.store.withDisk disk }.note .error .session
        ("Failed to save theme: ".toList ++ error.message)

/-- Takes the next theme. -/
def cycleTheme (session : Session) : Session × Theme :=
  let theme := session.theme.next
  (session.setTheme theme, theme)

/-- Evaluates an expression on the calculator and adds it to the history if it has a value. -/
def evaluate (session : Session) (now : Moment) (expression : Text) (detailed : Bool) :
    Session × Evaluation :=
  let calculator := session.calculator.setExpression expression
  let store := session.store.noteAll calculator.calculationRecords
  let failed (message : Text) : Evaluation := ⟨expression, .error message, [], detailed⟩
  match calculator.calculate detailed with
  | (calculator, .ok (some calculation)) =>
    let (history, store) :=
      session.history.add store calculation.expression calculation.result now
    ({ session with calculator := calculator, history := history, store := store },
      ⟨calculation.expression, .ok calculation.result, calculation.steps, detailed⟩)
  | (calculator, .ok none) =>
    ({ session with calculator := calculator, store := store },
      failed SyntaxError.notOneValue.message)
  | (calculator, .error cause) =>
    ({ session with calculator := calculator, store := store }.note .info .session
        (Text.quote expression ++ ": ".toList ++ cause.message),
      failed cause.message)

/-- What is said when an evaluation in steps is asked for without an expression. -/
def missingExpressionMessage : Text := "Please enter a valid expression after 'details'".toList

/-- Writes the history to a file for people to read. -/
def exportTo (session : Session) (path : Text) : Session × Reply :=
  match session.history.exportTo session.store path with
  | (store, .ok count) => ({ session with store := store }, .exported path count)
  | (store, .error error) => ({ session with store := store }, .failed error.message)

/-- Carries out a command. -/
def perform (session : Session) (now : Moment) : Command → Session × Reply
  | .quit => (session, .quit)
  | .clear =>
    let (history, store) := session.history.clear session.store
    ({ session with calculator := session.calculator.clear, history := history, store := store },
      .cleared)
  | .help => (session, .showHelp)
  | .theme none =>
    let (session, theme) := session.cycleTheme
    (session, .themeChanged theme)
  | .theme (some name) =>
    match Theme.ofName? name with
    | some theme => (session.setTheme theme, .themeChanged theme)
    | none => (session, .failed (Theme.unknownMessage name))
  | .memoryClear =>
    let calculator := session.calculator.clearMemory
    ({ session with calculator := calculator }, .memory calculator.memory)
  | .memoryAdd =>
    let calculator := session.calculator.addToMemory
    ({ session with calculator := calculator }, .memory calculator.memory)
  | .memoryRecall => (session, .insert (Answer.text session.calculator.memory))
  | .exportTo path => session.exportTo path
  | .evaluate [] _ => (session, .failed missingExpressionMessage)
  | .evaluate expression detailed =>
    let (session, evaluation) := session.evaluate now expression detailed
    (session, .evaluated evaluation)

/-- Answers a line. -/
def submit (session : Session) (now : Moment) (line : Text) : Session × Reply :=
  match Command.parse? line with
  | none => (session, .nothing)
  | some command =>
    (session.note .debug .session ("command: ".toList ++ command.logText)).perform now command

end Session

end Reckoner
