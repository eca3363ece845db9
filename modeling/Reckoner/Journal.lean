import Reckoner.Text.Basic

/-!
Log records. A record has a level, the part of the program it comes from, and a text. How many are
kept is decided where they are written down, by how talkative the program was asked to be.
-/

namespace Reckoner

/-- How grave a record is, gravest first. -/
inductive Level where
  | error
  | warn
  | info
  | debug
  | trace
  deriving DecidableEq, Repr

namespace Level

/-- The name of a level. -/
def name : Level → Text
  | .error => "ERROR".toList
  | .warn => "WARN".toList
  | .info => "INFO".toList
  | .debug => "DEBUG".toList
  | .trace => "TRACE".toList

/-- The rank of a level among all of them. -/
def rank : Level → Nat
  | .error => 0
  | .warn => 1
  | .info => 2
  | .debug => 3
  | .trace => 4

/-- Warnings are always kept, and each request for more adds a level. -/
def isKept (level : Level) (verbosity : Nat) : Bool := level.rank ≤ verbosity + 1

end Level

/-- The part of the program that a record comes from, as a log names it. -/
inductive Source where
  | program
  | tokens
  | postfixOrder
  | engine
  | settings
  | history
  | session
  | screen
  deriving DecidableEq, Repr

/-- The name of a source in a log. -/
def Source.name : Source → Text
  | .program => "cybercalc".toList
  | .tokens => "cybercalc::calc_engine::tokenizer".toList
  | .postfixOrder => "cybercalc::calc_engine::postfix".toList
  | .engine => "cybercalc::calc_engine".toList
  | .settings => "cybercalc::config".toList
  | .history => "cybercalc::history".toList
  | .session => "cybercalc::session".toList
  | .screen => "cybercalc::tui_mode".toList

/-- One line of a log. -/
structure Record where
  level : Level
  source : Source
  message : Text
  deriving DecidableEq, Repr

end Reckoner
