/-!
# Log records

What the library reports beside its results.  A pure function returns the records of its run in the
order in which they arise; the command line decides which of them are shown (`Command.Filter`).
-/

namespace ExprEmit

namespace Log

/-- The weight of a record, lightest first. -/
inductive Level where
  | trace | debug | info | warn | error
deriving DecidableEq, Inhabited

namespace Level

/-- Levels are ordered from `trace` up to `error`. -/
def rank : Level → Nat
  | trace => 0
  | debug => 1
  | info => 2
  | warn => 3
  | error => 4

/-- The name that heads a record of this level. -/
def label : Level → String
  | trace => "TRACE"
  | debug => "DEBUG"
  | info => "INFO"
  | warn => "WARN"
  | error => "ERROR"

end Level

/-- The part of the program that a record speaks about. -/
inductive Topic where
  | command | model | unit | dependency | typing | call | sink
deriving DecidableEq, Inhabited

/-- The path under which a topic is shown and filtered. -/
def Topic.path : Topic → String
  | command => "cppgen"
  | model => "cppgen::model"
  | unit => "cppgen::compiler"
  | dependency => "cppgen::dependency"
  | typing => "cppgen::expr::operator"
  | call => "cppgen::expr::access"
  | sink => "cppgen::formatter"

/-- One log message. -/
structure Record where
  level : Level
  topic : Topic
  message : String
deriving DecidableEq, Inhabited

/-- A record on one line: level, path, message. -/
def Record.line (r : Record) : String :=
  r.level.label ++ " " ++ r.topic.path ++ ": " ++ r.message

end Log

end ExprEmit
