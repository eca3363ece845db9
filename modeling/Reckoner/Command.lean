import Reckoner.Text.Fold
import Reckoner.Text.Quoted

/-!
Commands typed at the prompt. A line is a command if it is one of the command words, in any case,
or starts or ends with one that takes an argument; every other line is an expression to evaluate.
-/

namespace Reckoner

/-- What a line asks for. -/
inductive Command where
  | quit
  | clear
  | help
  /-- A theme by its name, or the next one. -/
  | theme (name : Option Text)
  | memoryClear
  | memoryAdd
  | memoryRecall
  | exportTo (path : Text)
  | evaluate (expression : Text) (detailed : Bool)
  deriving DecidableEq, Repr

namespace Command

/-- The commands that are single words. -/
def words : List (Text × Command) :=
  [("quit".toList, .quit), ("exit".toList, .quit), ("q".toList, .quit),
   ("clear".toList, .clear), ("reset".toList, .clear), ("help".toList, .help),
   ("theme".toList, .theme none), ("mc".toList, .memoryClear), ("m+".toList, .memoryAdd),
   ("mr".toList, .memoryRecall), ("details".toList, .evaluate [] true)]

/-- The rest of a line after a word that it starts with, in any case. -/
def after? (word line : Text) : Option Text :=
  if word.isPrefixOf (Text.fold line) then some (Text.trim (line.drop word.length)) else none

/-- The start of a line before a word that it ends with, in any case. -/
def before? (word line : Text) : Option Text :=
  if word.isSuffixOf (Text.fold line) then
    some (Text.trim (line.take (line.length - word.length)))
  else none

/-- The command of a line that is trimmed and not empty. -/
def ofLine (line : Text) : Command :=
  match words.lookup (Text.fold line) with
  | some command => command
  | none =>
    match after? "theme ".toList line with
    | some name => .theme (some name)
    | none =>
      match after? "export ".toList line with
      | some path => .exportTo path
      | none =>
        match after? "details ".toList line with
        | some expression => .evaluate expression true
        | none =>
          match before? " details".toList line with
          | some expression => .evaluate expression true
          | none => .evaluate line false

/-- The command of a line; a blank line asks for nothing. -/
def parse? (line : Text) : Option Command :=
  let line := Text.trim line
  if line = [] then none else some (ofLine line)

/-- A command as the log shows it. -/
def logText : Command → Text
  | .quit => "Quit".toList
  | .clear => "Clear".toList
  | .help => "Help".toList
  | .theme none => "Theme(None)".toList
  | .theme (some name) => "Theme(Some(".toList ++ Text.quote name ++ "))".toList
  | .memoryClear => "MemoryClear".toList
  | .memoryAdd => "MemoryAdd".toList
  | .memoryRecall => "MemoryRecall".toList
  | .exportTo path => "Export(".toList ++ Text.quote path ++ ")".toList
  | .evaluate expression detailed =>
    "Evaluate \x7b expression: ".toList ++ Text.quote expression ++ ", detailed: ".toList
      ++ (if detailed then "true".toList else "false".toList) ++ " \x7d".toList

end Command

end Reckoner
