/-!
Log entries: a level, the area of the engine that speaks, and a text.
-/

namespace DataAccess

inductive LogLevel
  | error
  | warn
  | info
  | debug
  | trace
  deriving DecidableEq, Repr, Inhabited

namespace LogLevel

def name : LogLevel → String
  | error => "ERROR"
  | warn => "WARN"
  | info => "INFO"
  | debug => "DEBUG"
  | trace => "TRACE"

/-- How much a filter at this level lets through. -/
def rank : LogLevel → Nat
  | error => 1
  | warn => 2
  | info => 3
  | debug => 4
  | trace => 5

end LogLevel

/-- The parts of the engine that a log filter can name. -/
inductive LogArea
  | query
  | relations
  | sql
  | catalog
  | document
  | rest
  | sqlite
  deriving DecidableEq, Repr, Inhabited

structure LogEntry where
  level : LogLevel
  area : LogArea
  text : String
  deriving DecidableEq, Repr, Inhabited

end DataAccess
