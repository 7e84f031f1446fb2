import DataAccess.CommandLine.Help
import DataAccess.Log.Filter
import DataAccess.Sqlite.Fresh

/-!
The program: arguments and surroundings in, texts and an exit code out. It first makes a plan, which
needs no database, and then carries it out on a new one.
-/

namespace DataAccess

/-- How the program ends. -/
structure Ending where
  code : Nat
  output : String
  log : List LogEntry
  /-- What is told after the log. -/
  error : Option String
  deriving DecidableEq, Repr, Inhabited

namespace Ending

/-- A run that goes wrong. -/
def failed (log : List LogEntry) (error : String) : Ending := ⟨1, "", log, some error⟩

/-- The end of a run whose arguments ask for help, or give no command. -/
def ofStop : CommandLine.Stop → Ending
  | .help topic long => ⟨0, CommandLine.helpText topic long, [], none⟩
  | .version => ⟨0, CommandLine.versionText, [], none⟩
  | stop => ⟨2, "", [], some stop.message⟩

end Ending

/-- What is settled before a database is opened. -/
structure Plan where
  invocation : CommandLine.Invocation
  filter : LogFilter
  configuration : Configuration
  deriving DecidableEq, Repr, Inhabited

namespace Plan

/-- The filter of the log, from the option or else from the environment. -/
def logFilter (level : Option String) (env : Configuration.Environment) :
    Except CommandLine.Failure LogFilter :=
  match level with
  | none => .ok (.ofEnvironment (env "RUST_LOG"))
  | some level =>
    match LogFilter.ofText? level with
    | some filter => .ok filter
    | none => .error (.command s!"Invalid log level '{level}': not a filter")

def ofInvocation (invocation : CommandLine.Invocation) (env : Configuration.Environment)
    (settings : FileContent) : Except CommandLine.Failure Plan := do
  let filter ← logFilter invocation.logLevel env
  let configuration ←
    (Configuration.resolve invocation.databaseUrl settings env).mapError .engine
  return ⟨invocation, filter, configuration⟩

/-- The plan that arguments, the environment and the file of settings amount to, or the end. -/
def make (arguments : List String) (env : Configuration.Environment) (settings : FileContent) :
    Except Ending Plan :=
  match CommandLine.Invocation.read arguments with
  | .error stop => .error (Ending.ofStop stop)
  | .ok invocation =>
    (ofInvocation invocation env settings).mapError fun failure => Ending.failed [] failure.described

/-- The result of a task on a new database, and what is logged meanwhile. -/
def perform (plan : Plan) (now : Timestamp) (content : FileContent) :
    Except CommandLine.Failure String × List LogEntry :=
  let settings := plan.configuration.engine
  let id := plan.invocation.requestId
  match plan.invocation.command.task content with
  | .error failure => (.error failure, [])
  | .ok task =>
    let (result, log) := Sqlite.runFresh settings (requestLabel id) now
      (task.run settings id plan.invocation.format)
    (result.mapError .engine, log)

/-- Carries the plan out. Only what the filter lets through is logged. -/
def carryOut (plan : Plan) (now : Timestamp) (opens : String → Bool) (content : FileContent) :
    Ending :=
  match plan.configuration.database.refusal? opens with
  | some error => Ending.failed [] error.described
  | none =>
    let (result, log) := plan.perform now content
    let log := (plan.configuration.database.openingLog ++ log).filter plan.filter.passes
    match result with
    | .ok text => ⟨0, text ++ "\n", log, none⟩
    | .error failure => Ending.failed log failure.described

end Plan

end DataAccess
