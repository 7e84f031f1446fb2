import DataAccess.Json.Writer
import DataAccess.Text.Described
import DataAccess.Text.Split

/-!
Values as diagnostics show them: each with the name of its kind.
-/

namespace DataAccess

namespace Json

mutual

def described : Json → String
  | null => "Null"
  | bool b => if b then "Bool(true)" else "Bool(false)"
  | number n => "Number(" ++ n.text ++ ")"
  | string s => "String(" ++ Text.described s ++ ")"
  | array items => "Array [" ++ Text.join ", " (describedItems items) ++ "]"
  | object fields => "Object \x7b" ++ Text.join ", " (describedFields fields) ++ "\x7d"

def describedItems : List Json → List String
  | [] => []
  | item :: rest => described item :: describedItems rest

def describedFields : List (String × Json) → List String
  | [] => []
  | (name, value) :: rest => (Text.described name ++ ": " ++ described value) :: describedFields rest

end

end Json

end DataAccess
