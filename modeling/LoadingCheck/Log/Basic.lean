/-!
# Log

A log is a list of entries. An entry has a level, and knows the part of the program that made it.

## Main definitions

* `LoadingCheck.Log.Level`, `LoadingCheck.Log.Origin`.
* `LoadingCheck.Log.Entry` — entries, and `Entry.text`.
-/

namespace LoadingCheck.Log

/-- How much an entry matters, the most important one first. -/
inductive Level where
  | error
  | warn
  | info
  | debug
  | trace
  deriving DecidableEq, Repr

/-- The name of a level in a log. -/
def Level.name : Level → String
  | .error => "ERROR"
  | .warn => "WARN"
  | .info => "INFO"
  | .debug => "DEBUG"
  | .trace => "TRACE"

/-- The number of levels up to this one: an entry that matters less has a higher one. -/
def Level.rank : Level → Nat
  | .error => 1
  | .warn => 2
  | .info => 3
  | .debug => 4
  | .trace => 5

/-- The parts of the program that make entries. -/
inductive Origin where
  /-- The command line. -/
  | command
  /-- The run of a check. -/
  | run
  /-- The run of a script. -/
  | script
  deriving DecidableEq, Repr

/-- The name of a part, which a filter chooses it by. -/
def Origin.name : Origin → String
  | .command => "verify_ux"
  | .run => "ux_verify::runner"
  | .script => "ux_verify::playwright"

/-- An entry of a log. -/
structure Entry where
  level : Level
  origin : Origin
  message : String
  deriving DecidableEq, Repr

/-- The level of an entry and its message. -/
def Entry.text (e : Entry) : String :=
  e.level.name ++ " " ++ e.message

end LoadingCheck.Log
