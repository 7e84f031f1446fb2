import DataAccess.CommandLine.Options
import DataAccess.CommandLine.Values

/-!
Reading the arguments of the program from left to right. A value or a word is checked when the next
option or word is met, or at the end; a value that is attached to its option is checked at once.
-/

namespace DataAccess

namespace CommandLine

/-- What help is asked about. -/
inductive Topic
  | program
  | command (name : CommandName)
  | help
  deriving DecidableEq, Repr, Inhabited

/-- Why the arguments give no command to run. The first two are wishes, the others mistakes. -/
inductive Stop
  | help (topic : Topic) (long : Bool)
  | version
  | nothingGiven
  | commandMissing
  | unknownCommand
  | unknownArgument
  /-- A value is missing, or is not among those that are allowed. -/
  | invalidValue
  /-- A value cannot be read. -/
  | unreadableValue
  | unexpectedValue
  | repeatedOption
  | missingArgument
  deriving DecidableEq, Repr, Inhabited

namespace OptionName

/-- Whether a value is one of the option. -/
def checkValue (o : OptionName) (value : String) : Except Stop Unit :=
  match o with
  | format => if (OutputFormat.ofName? value).isSome then .ok () else .error .invalidValue
  | data => if (recordValue value).isOk then .ok () else .error .unreadableValue
  | limit | offset => if (countValue? value).isSome then .ok () else .error .unreadableValue
  | _ => .ok ()

end OptionName

namespace Place

/-- A file has a name; every other word will do. -/
def checkWord (p : Place) (word : String) : Except Stop Unit :=
  if p = .file ∧ word = "" then .error .invalidValue else .ok ()

end Place

/-- What was met last and is not checked yet. -/
inductive Pending
  | nothing
  | option (name : OptionName) (value : Option String)
  | word (place : Place) (word : String)
  deriving DecidableEq, Repr, Inhabited

/-- What the arguments of one level have given so far. -/
structure Scan where
  given : List (OptionName × String)
  words : List String
  pending : Pending
  /-- After two dashes all arguments are words. -/
  onlyWords : Bool
  deriving DecidableEq, Repr, Inhabited

namespace Scan

def start : Scan := ⟨[], [], .nothing, false⟩

def value? (s : Scan) (o : OptionName) : Option String :=
  (s.given.find? fun entry => entry.1 == o).map (·.2)

def isAwaiting (s : Scan) : Bool :=
  match s.pending with
  | .option _ none => true
  | _ => false

/-- Takes an option, which may be given once. -/
def give (o : OptionName) (value : String) (s : Scan) : Except Stop Scan :=
  if (s.value? o).isSome then .error .repeatedOption
  else do
    o.checkValue value
    return { s with given := s.given ++ [(o, value)] }

/-- Checks what is pending. -/
def settle (s : Scan) : Except Stop Scan :=
  let settled := { s with pending := .nothing }
  match s.pending with
  | .nothing => .ok settled
  | .option _ none => .error .invalidValue
  | .option o (some value) => settled.give o value
  | .word place word => do
    place.checkWord word
    return settled

/-- Takes an option without a value. Help and version are given at once. -/
def giveFlag (level : Level) (long : Bool) (o : OptionName) (s : Scan) : Except Stop Scan := do
  let s ← s.settle
  match o with
  | .help => .error (.help (match level with
      | some c => .command c
      | none => .program) long)
  | .version => .error .version
  | o => s.give o ""

def giveAttached (o : OptionName) (value : String) (s : Scan) : Except Stop Scan := do
  (← s.settle).give o value

/-- Takes an option whose value is the next argument. -/
def await (o : OptionName) (s : Scan) : Except Stop Scan := do
  return { ← s.settle with pending := .option o none }

/-- An argument with two dashes: a name, and a value if there is a sign of equality. -/
def takeLong (level : Level) (argument : String) (s : Scan) : Except Stop Scan :=
  let (name, value) := match Text.splitOnce '=' argument with
    | some (name, value) => (name, some value)
    | none => (argument, none)
  match Level.ofLong? level name with
  | none => .error .unknownArgument
  | some o =>
    match o.takesValue, value with
    | true, some value => s.giveAttached o value
    | true, none => s.await o
    | false, some _ => .error .unexpectedValue
    | false, none => s.giveFlag level true o

/-- The letters after one dash. The first that takes a value takes the rest as its value, without a
leading sign of equality. -/
def takeShort (level : Level) : List Char → Scan → Except Stop Scan
  | [], s => .ok s
  | letter :: rest, s =>
    match Level.ofShort? level letter with
    | none => .error .unknownArgument
    | some o =>
      if o.takesValue then
        match rest with
        | [] => s.await o
        | '=' :: value | value => s.giveAttached o (String.ofList value)
      else do takeShort level rest (← s.giveFlag level false o)

/-- The mistake of a word that has no place. -/
def misplaced (level : Level) (word : String) (s : Scan) : Stop :=
  match level with
  | some _ => .unknownArgument
  | none =>
    if s.onlyWords && (word = "help" || (CommandName.ofName? word).isSome) then .unknownArgument
    else .unknownCommand

def takeWord (level : Level) (word : String) (s : Scan) : Except Stop Scan :=
  match level.bind fun c => c.place? s.words.length with
  | none => .error (s.misplaced level word)
  | some place => do
    let s ← s.settle
    return { s with words := s.words ++ [word], pending := .word place word }

/-- Takes one argument. A single dash is a word. -/
def take (level : Level) (argument : String) (s : Scan) : Except Stop Scan :=
  if s.onlyWords then s.takeWord level argument
  else
    match argument.toList with
    | ['-', '-'] => .ok { s with onlyWords := true }
    | '-' :: '-' :: long => s.takeLong level (String.ofList long)
    | '-' :: letter :: rest => s.takeShort level (letter :: rest)
    | _ =>
      match s.pending with
      | .option o none => .ok { s with pending := .option o (some argument) }
      | _ => s.takeWord level argument

/-- Takes the arguments after the name of a command. -/
def takeAll (c : CommandName) : List String → Scan → Except Stop Scan
  | [], s => s.settle
  | argument :: rest, s => do takeAll c rest (← s.take (some c) argument)

end Scan

/-- The help that follows the word `help`. -/
def helpOn : List String → Stop
  | [] => .help .program true
  | ["help"] => .help .help true
  | [name] =>
    match CommandName.ofName? name with
    | some c => .help (.command c) true
    | none => .unknownCommand
  | _ :: _ :: _ => .unknownCommand

end CommandLine

end DataAccess
