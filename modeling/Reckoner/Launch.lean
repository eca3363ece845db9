import Reckoner.Console.Event
import Reckoner.Console.HelpPage
import Reckoner.Launch.Arguments
import Reckoner.Launch.Log

/-!
One run of the program, from its command line and its surroundings to its exit code, what it says,
and the files it leaves. An expression on the command line is evaluated and its value printed;
otherwise a front end is started on the data directory.
-/

namespace Reckoner

/-- A terminal: its size, and what happens at it and when. -/
structure Terminal where
  width : Nat
  height : Nat
  events : List (Moment × Event)

/-- What the program is started with. -/
structure Launch where
  arguments : List Text
  /-- The data directory of the environment. -/
  dataHome : Option Text := none
  /-- The home directory. -/
  home : Option Text := none
  disk : Disk
  now : Moment
  /-- The terminal, if the program is started at one. -/
  terminal : Option Terminal := none

/-- How a run ends. -/
structure Outcome where
  code : Nat
  output : Text := []
  /-- What is said beside the output: errors, and the log where it has no file. -/
  messages : Text := []
  disk : Disk

namespace Console

/-- What happens before an event is waited for: the message may be taken away, and the page is
drawn. -/
def refresh (console : Console) (now : Moment) (width height : Nat) : Console :=
  ((console.expireFlash now).draw now width height).1

/-- The front end with the records of its session written to a log. -/
def flush (console : Console) (log : Log) (now : Moment) : Console :=
  { console with
    session := { console.session with store := (log.flush now console.session.store).1 } }

/-- Handles events until the front end is to be left. -/
def handleAll (console : Console) (log : Log) (width height : Nat) :
    List (Moment × Event) → Console
  | [] => console
  | (now, event) :: rest =>
    let refreshed := console.refresh now width height
    if refreshed.wantsQuit then refreshed
    else handleAll ((refreshed.handle now event).flush log now) log width height rest

end Console

namespace Launch

/-- The name of the program. -/
def programName : Text := "cybercalc".toList

/-- The version of the program. -/
def programVersion : Text := "0.1.0".toList

/-- What is printed when the version is asked for. -/
def versionText : Text := programName ++ [' '] ++ programVersion ++ ['\n']

/-- What is printed when help is asked for. -/
def helpText : Text :=
  Text.join ['\n']
    ["Terminal calculator with a shunting-yard expression evaluator".toList,
      [],
      "Usage: cybercalc [OPTIONS] [EXPRESSION]".toList,
      [],
      "Arguments:".toList,
      "  [EXPRESSION]  Evaluate EXPRESSION once, print the result and exit".toList,
      [],
      "Options:".toList,
      "  -m, --mode <MODE>          Front-end to start [possible values: tui, line]".toList,
      "      --data-dir <DATA_DIR>  Directory for settings, history and logs".toList,
      "      --theme <THEME>        Color theme: cyber, dark, light or nord".toList,
      "      --no-persist           Keep history in memory only".toList,
      "  -v, --verbose...           More log output (-v info, -vv debug, -vvv trace)".toList,
      "  -h, --help                 Print help".toList,
      "  -V, --version              Print version".toList,
      []]

/-- The exit code of a run that failed. -/
def failureCode : Nat := 1

/-- The exit code of a command line that cannot be used. -/
def usageCode : Nat := 2

/-- The message of a run that fails. -/
def errorLine (message : Text) : Text := "Error: ".toList ++ message ++ ['\n']

/-- What is said of a front end that the program does not have. -/
def missingMode (mode : Mode) : Text :=
  "this build does not include the ".toList ++ mode.title ++ " front-end".toList

/-- What is said where there is no terminal. -/
def missingTerminal : Text := "No such device or address (os error 6)".toList

/-- What is logged when a front end is started. -/
def startMessage (mode : Mode) : Text :=
  programName ++ " v".toList ++ programVersion ++ " starting in ".toList ++ mode.title
    ++ " mode".toList

/-- What is logged when the full screen is left. -/
def endMessage (count : Nat) : Text :=
  "leaving TUI after ".toList ++ Text.ofNat count ++ " calculations".toList

/-- Evaluates one expression. -/
def evaluateOnce (launch : Launch) (verbosity : Nat) (expression : Text) : Outcome :=
  let log : Log := ⟨.messages, verbosity⟩
  let logged := log.text launch.now (Expression.records (Glyph.spellAll expression))
  match Answer.ofExpression expression with
  | .ok text =>
    { code := 0, output := text ++ ['\n'], messages := logged, disk := launch.disk }
  | .error cause =>
    { code := failureCode, messages := logged ++ errorLine cause.message, disk := launch.disk }

/-- The settings that are loaded, changed as the command line asks. -/
def overridden (arguments : Arguments) (settings : Settings) : Settings :=
  { settings with
    theme := arguments.theme.getD settings.theme
    persistHistory := settings.persistHistory && !arguments.noPersist }

/-- The session on a data directory. -/
def openSession (store : Store) (files : DataDir) (arguments : Arguments) : Session :=
  let (settings, store) := Settings.load store files.settings
  Session.start store files (overridden arguments settings)

/-- Runs the full screen at a terminal until it is left. -/
def runScreen (terminal : Terminal) (log : Log) (now : Moment) (session : Session) : Disk :=
  let console :=
    ((Console.ofSession session).flush log now).handleAll log terminal.width terminal.height
      terminal.events
  let noted := console.session.note .info .screen (endMessage console.entries.length)
  (log.flush now noted.store).1.disk

/-- The data directory of a run. -/
def dataDir (launch : Launch) (arguments : Arguments) : DataDir :=
  DataDir.locate arguments.dataDir launch.dataHome launch.home

/-- Starts a front end. -/
def startMode (launch : Launch) (arguments : Arguments) (mode : Mode) : Outcome :=
  let files := launch.dataDir arguments
  let (log, disk) : Log × Disk :=
    match mode with
    | .tui => Log.openFile launch.disk files.log arguments.verbosity
    | .line => (⟨.messages, arguments.verbosity⟩, launch.disk)
  let store := Store.note { disk := disk } .info .program (startMessage mode)
  let session := openSession store files arguments
  match mode, launch.terminal with
  | .tui, some terminal =>
    { code := 0, disk := runScreen terminal log launch.now session }
  | .tui, none =>
    let (store, logged) := log.flush launch.now session.store
    { code := failureCode, messages := logged ++ errorLine missingTerminal, disk := store.disk }
  | .line, _ =>
    let (store, logged) := log.flush launch.now session.store
    { code := failureCode, messages := logged ++ errorLine (missingMode .line), disk := store.disk }

/-- The paths that a run may look at. -/
def paths (launch : Launch) : List Text :=
  match Arguments.read launch.arguments with
  | .ok arguments =>
    let files := launch.dataDir arguments
    if arguments.expression.isSome then [] else [files.settings, files.history, files.log]
  | .error _ => []

/-- Runs the program. -/
def run (launch : Launch) : Outcome :=
  match Arguments.read launch.arguments with
  | .error .help => { code := 0, output := helpText, disk := launch.disk }
  | .error .version => { code := 0, output := versionText, disk := launch.disk }
  | .error (.usage error) =>
    { code := usageCode, messages := "error: ".toList ++ error.message ++ ['\n'],
      disk := launch.disk }
  | .ok arguments =>
    match arguments.expression with
    | some expression => launch.evaluateOnce arguments.verbosity expression
    | none => launch.startMode arguments (arguments.mode.getD .tui)

end Launch

end Reckoner
