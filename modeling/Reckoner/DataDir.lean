import Reckoner.Text.Basic

/-!
The data directory: where settings, history and log are kept, and how it is found.
-/

namespace Reckoner

/-- The places in a data directory, as paths. -/
structure DataDir where
  root : Text
  settings : Text
  history : Text
  log : Text
  deriving DecidableEq, Repr

namespace DataDir

/-- The path of a name within a directory. -/
def child (directory name : Text) : Text :=
  match directory.getLast? with
  | none => name
  | some '/' => directory ++ name
  | some _ => directory ++ ['/'] ++ name

/-- The places below a root. -/
def below (root : Text) : DataDir where
  root := root
  settings := child root "settings.json".toList
  history := child root "history.json".toList
  log := child root "cybercalc.log".toList

/-- The name of the data directory within the home directory. -/
def defaultName : Text := ".cybercalc".toList

/-- The data directory: the one asked for, or else the one of the environment, or else a hidden
directory in the home directory, or else one in the working directory. -/
def locate (asked environment home : Option Text) : DataDir :=
  below ((asked <|> environment <|> home.map (child · defaultName)).getD defaultName)

end DataDir

end Reckoner
