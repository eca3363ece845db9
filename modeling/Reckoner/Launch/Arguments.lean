import Reckoner.Theme

/-!
The command line. Options stand anywhere, and one argument that is no option is the expression to
evaluate. Until there is an expression, an argument that starts with a hyphen but is no known option
is taken as a value, so that `-5+3` is an expression; `--` makes expressions of all that follows.
Arguments are read from left to right, and the first fault, or the first request for help or the
version, ends the reading.
-/

namespace Reckoner

/-- The front ends. -/
inductive Mode where
  /-- The full screen. -/
  | tui
  /-- A prompt, line by line. -/
  | line
  deriving DecidableEq, Repr

/-- The name of a front end. -/
def Mode.name : Mode → Text
  | .tui => "tui".toList
  | .line => "line".toList

/-- The name of a front end at the start of a sentence. -/
def Mode.title : Mode → Text
  | .tui => "Tui".toList
  | .line => "Line".toList

/-- The front end of a name. -/
def Mode.ofName? (name : Text) : Option Mode := [.tui, .line].find? (fun mode => mode.name = name)

/-- What a command line asks for. -/
structure Arguments where
  expression : Option Text := none
  mode : Option Mode := none
  dataDir : Option Text := none
  theme : Option Theme := none
  /-- The history is kept in memory only. -/
  noPersist : Bool := false
  /-- How often more log output was asked for. -/
  verbosity : Nat := 0
  deriving DecidableEq, Repr

/-- The options that a value follows. -/
inductive Setting where
  | mode
  | dataDir
  | theme
  deriving DecidableEq, Repr

/-- The options that stand by themselves. -/
inductive Switch where
  | noPersist
  | verbose
  | help
  | version
  deriving DecidableEq, Repr

/-- The options. -/
inductive Flag where
  | setting (setting : Setting)
  | switch (switch : Switch)
  deriving DecidableEq, Repr

namespace Flag

/-- Every option. -/
def all : List Flag :=
  [.setting .mode, .setting .dataDir, .setting .theme, .switch .noPersist, .switch .verbose,
    .switch .help, .switch .version]

/-- The name of an option after two hyphens. -/
def name : Flag → Text
  | .setting .mode => "mode".toList
  | .setting .dataDir => "data-dir".toList
  | .setting .theme => "theme".toList
  | .switch .noPersist => "no-persist".toList
  | .switch .verbose => "verbose".toList
  | .switch .help => "help".toList
  | .switch .version => "version".toList

/-- The letter of an option after one hyphen. -/
def letter? : Flag → Option Char
  | .setting .mode => some 'm'
  | .switch .verbose => some 'v'
  | .switch .help => some 'h'
  | .switch .version => some 'V'
  | .setting .dataDir | .setting .theme | .switch .noPersist => none

/-- The option of a name. -/
def ofName? (name : Text) : Option Flag := all.find? (fun flag => flag.name = name)

/-- The option of a letter. -/
def ofLetter? (c : Char) : Option Flag := all.find? (fun flag => flag.letter? = some c)

end Flag

/-- Why a command line cannot be used. -/
inductive UsageError where
  | missingValue (setting : Setting)
  | invalidValue (setting : Setting) (value : Text)
  | needlessValue (switch : Switch)
  | repeated (flag : Flag)
  | unexpected (argument : Text)
  deriving DecidableEq, Repr

/-- The wording of a fault in the command line. -/
def UsageError.message : UsageError → Text
  | .missingValue setting =>
    "a value is required for '--".toList ++ (Flag.setting setting).name
      ++ "' but none was supplied".toList
  | .invalidValue setting value =>
    "invalid value '".toList ++ value ++ "' for '--".toList ++ (Flag.setting setting).name ++ ['\'']
  | .needlessValue switch =>
    "no value is expected for '--".toList ++ (Flag.switch switch).name ++ ['\'']
  | .repeated flag =>
    "the argument '--".toList ++ flag.name ++ "' cannot be used multiple times".toList
  | .unexpected argument => "unexpected argument '".toList ++ argument ++ "' found".toList

/-- Why the reading of a command line ends early. -/
inductive Halt where
  | help
  | version
  | usage (error : UsageError)
  deriving DecidableEq, Repr

/-- A command line that has been read in part. -/
structure CommandLine where
  found : Arguments := {}
  /-- An option whose value has to come next. -/
  awaiting : Option Setting := none
  /-- Nothing that follows is an option. -/
  onlyExpressions : Bool := false
  deriving DecidableEq, Repr

namespace CommandLine

/-- The most that more log output can be asked for. -/
def maxVerbosity : Nat := 255

/-- Gives an option its value. An option has one value at most. -/
def assign (line : CommandLine) (setting : Setting) (value : Text) : Except Halt CommandLine :=
  let found := line.found
  let isRepeated :=
    match setting with
    | .mode => found.mode.isSome
    | .dataDir => found.dataDir.isSome
    | .theme => found.theme.isSome
  let changed? : Option Arguments :=
    match setting with
    | .mode => (Mode.ofName? value).map (fun mode => { found with mode := some mode })
    | .dataDir => if value = [] then none else some { found with dataDir := some value }
    | .theme => (Theme.ofName? value).map (fun theme => { found with theme := some theme })
  if isRepeated then .error (.usage (.repeated (.setting setting)))
  else
    match changed? with
    | some changed => .ok { line with found := changed, awaiting := none }
    | none => .error (.usage (.invalidValue setting value))

/-- The same command line, if no value has to come next. -/
def settled (line : CommandLine) : Except Halt CommandLine :=
  match line.awaiting with
  | some setting => .error (.usage (.missingValue setting))
  | none => .ok line

/-- Throws a switch. -/
def throwSwitch (line : CommandLine) (switch : Switch) : Except Halt CommandLine := do
  let line ← line.settled
  match switch with
  | .noPersist =>
    if line.found.noPersist then .error (.usage (.repeated (.switch .noPersist)))
    else .ok { line with found := { line.found with noPersist := true } }
  | .verbose =>
    let verbosity := min (line.found.verbosity + 1) maxVerbosity
    .ok { line with found := { line.found with verbosity := verbosity } }
  | .help => .error .help
  | .version => .error .version

/-- An option with the value that is attached to it, if there is one. -/
def takeFlag (line : CommandLine) (flag : Flag) (attached : Option Text) :
    Except Halt CommandLine :=
  match flag, attached with
  | .switch switch, none => line.throwSwitch switch
  | .switch switch, some _ => .error (.usage (.needlessValue switch))
  | .setting setting, some value => do (← line.settled).assign setting value
  | .setting setting, none => do return { ← line.settled with awaiting := some setting }

/-- An argument that is no option: the value that has to come next, or else the expression. -/
def takeValue (line : CommandLine) (argument : Text) : Except Halt CommandLine :=
  match line.awaiting, line.found.expression with
  | some setting, _ => line.assign setting argument
  | none, some _ => .error (.usage (.unexpected argument))
  | none, none => .ok { line with found := { line.found with expression := some argument } }

/-- Options by their letters. What follows a letter that needs a value is its value. -/
def takeLetters (line : CommandLine) : Text → Except Halt CommandLine
  | [] => .ok line
  | c :: rest =>
    match Flag.ofLetter? c with
    | none => .error (.usage (.unexpected ['-', c]))
    | some (.switch switch) => do takeLetters (← line.throwSwitch switch) rest
    | some (.setting setting) =>
      let attached :=
        match rest with
        | [] => none
        | '=' :: value => some value
        | value => some value
      line.takeFlag (.setting setting) attached

/-- Whether an unknown option may still be an expression. -/
def admitsUnknown (line : CommandLine) : Bool := line.found.expression.isNone

/-- An option by its name, which an equals sign may end and a value follow. -/
def takeNamed (line : CommandLine) (argument body : Text) : Except Halt CommandLine :=
  let name := body.takeWhile (· ≠ '=')
  let attached :=
    match body.dropWhile (· ≠ '=') with
    | [] => none
    | _ :: value => some value
  match Flag.ofName? name with
  | some flag => line.takeFlag flag attached
  | none =>
    if line.admitsUnknown then line.takeValue argument
    else .error (.usage (.unexpected argument))

/-- The command line with one more argument read. -/
def take (line : CommandLine) (argument : Text) : Except Halt CommandLine :=
  if line.onlyExpressions then line.takeValue argument
  else
    match argument with
    | ['-', '-'] => do return { ← line.settled with onlyExpressions := true }
    | '-' :: '-' :: body => line.takeNamed argument body
    | '-' :: c :: letters =>
      if line.admitsUnknown && (c :: letters).any (fun c => (Flag.ofLetter? c).isNone) then
        line.takeValue argument
      else line.takeLetters (c :: letters)
    | _ => line.takeValue argument

end CommandLine

/-- Reads a command line. -/
def Arguments.read (arguments : List Text) : Except Halt Arguments := do
  let line ← arguments.foldlM CommandLine.take {}
  return (← line.settled).found

namespace Arguments

example : read ["-5+3".toList] = .ok { expression := some "-5+3".toList } := rfl

example : read ["-vv".toList, "--mode=line".toList] =
    .ok { verbosity := 2, mode := some .line } := rfl

example : read ["1".toList, "-5".toList] = .error (.usage (.unexpected "-5".toList)) := rfl

example : read ["--mode".toList, "--help".toList] = .error (.usage (.missingValue .mode)) := rfl

end Arguments

end Reckoner
