import DataAccess.CommandLine.Scan
import DataAccess.Config.File
import DataAccess.Engine.Basic

/-!
Commands with their arguments, and what each asks of the engine.
-/

namespace DataAccess

namespace CommandLine

inductive Command
  | check
  | tables
  | schema (table : String)
  | find (table : String) (filters : List String) (read : ReadDirectives)
  | findMany (table : String) (filters : List String) (read : ReadDirectives)
      (limit offset : Option Nat) (page : Option String)
  | create (table : String) (data : Record)
  | update (table id : String) (data : Record)
  | delete (table id : String)
  | unique (table : String) (data : Record) (id : Option String)
  /-- Nothing is removed unless it is confirmed. -/
  | truncate (table : String) (confirmed : Bool)
  | createTable (file : String)
  deriving DecidableEq, Repr, Inhabited

namespace Scan

def record? (s : Scan) : Option Record := (s.value? .data).bind fun text => (recordValue text).toOption

def directives (s : Scan) : ReadDirectives := ⟨s.value? .fields, s.value? .relations, s.value? .sort⟩

/-- The command that a scan gives, if nothing is missing. -/
def command? (s : Scan) : CommandName → Option Command
  | .check => some .check
  | .tables => some .tables
  | .schema => do return .schema (← s.words[0]?)
  | .find => do return .find (← s.words[0]?) (s.words.drop 1) s.directives
  | .findMany => do
    return .findMany (← s.words[0]?) (s.words.drop 1) s.directives
      ((s.value? .limit).bind countValue?) ((s.value? .offset).bind countValue?) (s.value? .page)
  | .create => do return .create (← s.words[0]?) (← s.record?)
  | .update => do return .update (← s.words[0]?) (← s.words[1]?) (← s.record?)
  | .delete => do return .delete (← s.words[0]?) (← s.words[1]?)
  | .unique => do return .unique (← s.words[0]?) (← s.record?) (s.value? .id)
  | .truncate => do return .truncate (← s.words[0]?) (s.value? .yes).isSome
  | .createTable => do return .createTable (← s.words[0]?)

end Scan

/-- A command line that has been understood. -/
structure Invocation where
  databaseUrl : Option String
  format : OutputFormat
  logLevel : Option String
  requestId : Option String
  command : Command
  deriving DecidableEq, Repr, Inhabited

namespace Invocation

/-- The command in arguments that follow its name, and the scan of them. -/
def readCommand (c : CommandName) (arguments : List String) : Except Stop (Scan × Command) := do
  let inner ← Scan.takeAll c arguments .start
  match inner.command? c with
  | some command => return (inner, command)
  | none => .error .missingArgument

/-- An option after the command decides over the same option before it. -/
def ofScans (outer inner : Scan) (command : Command) : Invocation :=
  let value (o : OptionName) : Option String := (inner.value? o).or (outer.value? o)
  { databaseUrl := value .databaseUrl
    format := ((value .format).bind OutputFormat.ofName?).getD .table
    logLevel := value .logLevel
    requestId := value .requestId
    command }

/-- Reads arguments up to the name of a command, and the command after it. The command is understood
before the options in front of it are checked. -/
def readFrom : List String → Scan → Except Stop Invocation
  | [], s => do
    let s ← s.settle
    .error (if s.given.isEmpty then .nothingGiven else .commandMissing)
  | argument :: rest, s =>
    if s.onlyWords || s.isAwaiting then do readFrom rest (← s.take none argument)
    else if argument = "help" then .error (helpOn rest)
    else
      match CommandName.ofName? argument with
      | some c => do
        let (inner, command) ← readCommand c rest
        return ofScans (← s.settle) inner command
      | none => do readFrom rest (← s.take none argument)

def read (arguments : List String) : Except Stop Invocation := readFrom arguments .start

end Invocation

/-- Why a command fails: the engine refuses, or the command cannot ask it. -/
inductive Failure
  | engine (error : EngineError)
  | command (message : String)
  deriving DecidableEq, Repr, Inhabited

namespace Failure

def message : Failure → String
  | engine error => error.message
  | command message => message

/-- The failure as diagnostics show it. -/
def described : Failure → String
  | engine error => error.described
  | command message => Text.described message

end Failure

/-- What a command asks: a request of the engine, or the schema of a table. -/
inductive Task
  | perform (request : Request)
  | describe (table : String)
  deriving Repr, Inhabited

namespace Command

/-- The file that the command reads. -/
def file? : Command → Option String
  | createTable file => some file
  | _ => none

def pageParams (limit offset : Option Nat) (page : Option String) : Params :=
  let count (n : Nat) : String := String.ofList (Decimal.digitChars n)
  ReadDirectives.entry "limit" (limit.map count) ++ ReadDirectives.entry "offset" (offset.map count)
    ++ ReadDirectives.entry "page" page

/-- The schema in a file. -/
def schemaOfFile (name : String) : FileContent → Except Failure Schema
  | .missing => .error (.command s!"Failed to read {name}: no such file")
  | .unreadable => .error (.command s!"Failed to read {name}: not a readable text")
  | .text content =>
    match (Json.readPart? Schema.asked content).bind Schema.ofJson? with
    | some found => .ok found
    | none => .error (.command s!"Invalid schema in {name}: not a schema")

/-- The task of a command, given the content of its file. -/
def task (content : FileContent) : Command → Except Failure Task
  | check => .ok (.perform .checkConnection)
  | tables => .ok (.perform .listTables)
  | schema table => .ok (.describe table)
  | find table filters read => do
    let params ← (read.params filters).mapError Failure.engine
    return .perform (.find table params)
  | findMany table filters read limit offset page => do
    let params ← (read.params filters).mapError Failure.engine
    return .perform (.findMany table (params ++ pageParams limit offset page))
  | create table data => .ok (.perform (.create table data))
  | update table id data => .ok (.perform (.update table (idValue id) data))
  | delete table id => .ok (.perform (.delete table (idValue id)))
  | unique table data id => .ok (.perform (.unique table data (id.map idValue)))
  | truncate table confirmed =>
    if confirmed then .ok (.perform (.truncate table))
    else .error (.command s!"Refusing to truncate '{table}' without --yes")
  | createTable file => do return .perform (.createTable (← schemaOfFile file content))

end Command

namespace Task

/-- Carries a task out; the text of what comes back is the result. -/
def run (settings : EngineSettings) (requestId : Option String) (format : OutputFormat) :
    Task → StoreDialogue String
  | perform request => do
    let response ← Engine.perform settings requestId request
    return response.write format
  | describe table => do
    let schema ← StoreDialogue.call (.getSchema table)
    return schema.write format

end Task

end CommandLine

end DataAccess
