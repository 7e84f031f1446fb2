import DataAccess.Program

/-!
The command line program.
-/

namespace DataAccess

namespace Main

/-- The content of a file, as far as it can be read as text. -/
def readContent (name : String) : IO FileContent := do
  try
    return .text (← IO.FS.readFile name)
  catch error =>
    match error with
    | .noFileOrDirectory .. => return .missing
    | _ => return .unreadable

/-- Whether the file of a database can be made or is there. -/
def canOpen (path : String) : IO Bool := do
  if Sqlite.isUnseen path then return true
  try
    let _ ← IO.FS.Handle.mk path .append
    return true
  catch _ => return false

/-- The variables that the program looks at. -/
def environment : IO Configuration.Environment := do
  let names := ["DATABASE_URL", "DEFAULT_LIMIT", "SOFT_DELETE_COLUMN", "RUST_LOG"]
  let values ← names.mapM fun name => return (name, ← IO.getEnv name)
  return fun name => (values.find? fun entry => entry.1 == name).bind (·.2)

def writeEnding (ending : Ending) : IO UInt32 := do
  for entry in ending.log do
    IO.eprintln s!"{entry.level.name} {entry.text}"
  if let some error := ending.error then
    IO.eprintln s!"Error: {error}"
  IO.print ending.output
  return ending.code.toUInt32

def carryOut (plan : Plan) : IO Ending := do
  let content ← match plan.invocation.command.file? with
    | some name => readContent name
    | none => pure .missing
  let opened ← match plan.configuration.database with
    | .sqlite path => canOpen path
    | _ => pure false
  return plan.carryOut default (fun _ => opened) content

end Main

end DataAccess

open DataAccess in
def main (arguments : List String) : IO UInt32 := do
  let settings ← Main.readContent Configuration.fileName
  match Plan.make arguments (← Main.environment) settings with
  | .error ending => Main.writeEnding ending
  | .ok plan => Main.writeEnding (← Main.carryOut plan)
