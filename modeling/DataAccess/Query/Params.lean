import DataAccess.Error
import DataAccess.Text.Blank
import DataAccess.Text.Split

/-!
Flat request parameters: pairs of a key and a value, in the order in which they were given. Some keys
are directives; every other key describes a condition.
-/

namespace DataAccess

abbrev Params := List (String × String)

namespace Params

/-- The keys that are directives. -/
def directives : List String := ["fields", "relations", "sort", "limit", "offset", "page"]

/-- One pair from `key=value`, cut at the first sign of equality. -/
def ofArgument (argument : String) : Except EngineError (String × String) :=
  match Text.splitOnce '=' argument with
  | some (key, value) => .ok (Text.trim key, value)
  | none => .error (.invalidValue argument "key=value" argument)

def ofArguments (arguments : List String) : Except EngineError Params :=
  arguments.mapM ofArgument

/-- The last value given for a key. -/
def get? (params : Params) (key : String) : Option String :=
  (params.reverse.find? fun pair => pair.1 == key).map (·.2)

/-- The pairs that describe conditions. -/
def conditions (params : Params) : Params :=
  params.filter fun pair => !directives.contains pair.1

end Params

end DataAccess
