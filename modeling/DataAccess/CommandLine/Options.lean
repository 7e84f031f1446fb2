import DataAccess.Output.Basic

/-!
The commands of the program with their options and places. An option of the program is understood by
every command too.
-/

namespace DataAccess

namespace CommandLine

inductive CommandName
  | check
  | tables
  | schema
  | find
  | findMany
  | create
  | update
  | delete
  | unique
  | truncate
  | createTable
  deriving DecidableEq, Repr, Inhabited

inductive OptionName
  | databaseUrl
  | format
  | logLevel
  | requestId
  | fields
  | relations
  | sort
  | limit
  | offset
  | page
  | data
  | id
  | yes
  | help
  | version
  deriving DecidableEq, Repr, Inhabited

/-- What a word stands for by its position. -/
inductive Place
  | table
  | id
  | filter
  | file
  deriving DecidableEq, Repr, Inhabited

namespace OptionName

/-- The name after two dashes. -/
def long : OptionName → String
  | databaseUrl => "database-url"
  | format => "format"
  | logLevel => "log-level"
  | requestId => "request-id"
  | fields => "fields"
  | relations => "relations"
  | sort => "sort"
  | limit => "limit"
  | offset => "offset"
  | page => "page"
  | data => "data"
  | id => "id"
  | yes => "yes"
  | help => "help"
  | version => "version"

/-- The letter after one dash. -/
def short? : OptionName → Option Char
  | format => some 'o'
  | fields => some 'f'
  | relations => some 'r'
  | sort => some 's'
  | limit => some 'l'
  | page => some 'p'
  | data => some 'd'
  | help => some 'h'
  | version => some 'V'
  | databaseUrl | logLevel | requestId | offset | id | yes => none

def takesValue : OptionName → Bool
  | yes | help | version => false
  | _ => true

/-- The options that stand before a command or after it. -/
def shared : List OptionName := [databaseUrl, format, logLevel, requestId]

end OptionName

namespace CommandName

def all : List CommandName :=
  [check, tables, schema, find, findMany, create, update, delete, unique, truncate, createTable]

def name : CommandName → String
  | check => "check"
  | tables => "tables"
  | schema => "schema"
  | find => "find"
  | findMany => "find-many"
  | create => "create"
  | update => "update"
  | delete => "delete"
  | unique => "unique"
  | truncate => "truncate"
  | createTable => "create-table"

def ofName? (s : String) : Option CommandName := all.find? fun c => c.name == s

/-- The places of words. All are required but that of filters, which may be taken many times. -/
def places : CommandName → List Place
  | check | tables => []
  | schema | create | unique | truncate => [.table]
  | find | findMany => [.table, .filter]
  | update | delete => [.table, .id]
  | createTable => [.file]

/-- The place of the word after `n` others. -/
def place? (c : CommandName) (n : Nat) : Option Place :=
  match c.places[n]? with
  | some place => some place
  | none => c.places.getLast?.filter (· == .filter)

/-- The options that only the command has. -/
def ownOptions : CommandName → List OptionName
  | find => [.fields, .relations, .sort]
  | findMany => [.fields, .relations, .sort, .limit, .offset, .page]
  | create | update => [.data]
  | unique => [.data, .id]
  | truncate => [.yes]
  | check | tables | schema | delete | createTable => []

end CommandName

/-- The program itself, or one of its commands. -/
abbrev Level := Option CommandName

namespace Level

def options : Level → List OptionName
  | none => OptionName.shared ++ [.help, .version]
  | some c => c.ownOptions ++ OptionName.shared ++ [.help]

def ofLong? (level : Level) (name : String) : Option OptionName :=
  (options level).find? fun o => o.long == name

def ofShort? (level : Level) (letter : Char) : Option OptionName :=
  (options level).find? fun o => o.short? == some letter

end Level

end CommandLine

end DataAccess
