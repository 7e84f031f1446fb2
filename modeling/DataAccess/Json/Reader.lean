import DataAccess.Json.Token
import DataAccess.Json.Writer

/-!
The JSON reader. It is told which parts of a value are asked for. Of these it refuses surrogates that
stand alone, malformed bytes, numbers beyond the floats, and more than 127 open brackets; of all else
it refuses only what does not have the form of JSON.
-/

namespace DataAccess

namespace Json

/-- The parts of a value that are asked for. -/
inductive Asked
  | whole
  /-- The same of each item of a list. -/
  | items (asked : Asked)
  /-- Some fields of an object; a list gives them in this order. -/
  | fields (members : List (String × Asked))

namespace Asked

/-- Whole fields. -/
def names (members : List String) : Asked := .fields (members.map fun name => (name, .whole))

/-- What is asked of a field, if it is asked for. -/
def field? : Asked → String → Option Asked
  | .fields members, name => members.lookup name
  | _, _ => some .whole

/-- What is asked of the first item of a list. -/
def head : Asked → Asked
  | .items asked => asked
  | .fields ((_, asked) :: _) => asked
  | _ => .whole

/-- What is asked of the items behind the first. -/
def tail : Asked → Asked
  | .fields (_ :: rest) => .fields rest
  | asked => asked

end Asked

namespace Reader

inductive Bracket
  | list
  | object
  deriving DecidableEq, Repr, Inhabited

/-- What comes next in a value that is passed over. -/
inductive Place
  | value
  | firstItem
  | firstName
  | name
  | colon
  | behind
  deriving DecidableEq, Repr, Inhabited

/-- Passes over a token, given the open brackets, the innermost first. -/
def step? (place : Place) (brackets : List Bracket) (token : Token) :
    Option (Place × List Bracket) :=
  match place, token, brackets with
  | .value, .openList, brackets | .firstItem, .openList, brackets =>
    some (.firstItem, .list :: brackets)
  | .value, .openObject, brackets | .firstItem, .openObject, brackets =>
    some (.firstName, .object :: brackets)
  | .value, .null, brackets | .firstItem, .null, brackets
  | .value, .bool _, brackets | .firstItem, .bool _, brackets
  | .value, .number _, brackets | .firstItem, .number _, brackets
  | .value, .text _, brackets | .firstItem, .text _, brackets => some (.behind, brackets)
  | .name, .text _, brackets | .firstName, .text _, brackets => some (.colon, brackets)
  | .colon, .colon, brackets => some (.value, brackets)
  | .behind, .comma, .list :: brackets => some (.value, .list :: brackets)
  | .behind, .comma, .object :: brackets => some (.name, .object :: brackets)
  | .firstItem, .closeList, .list :: brackets | .behind, .closeList, .list :: brackets
  | .firstName, .closeObject, .object :: brackets | .behind, .closeObject, .object :: brackets =>
    some (.behind, brackets)
  | _, _, _ => none

/-- What follows the value that is passed over. -/
def passFrom? : Place → List Bracket → List Token → Option (List Token)
  | _, _, [] => none
  | place, brackets, token :: rest =>
    match step? place brackets token with
    | none => none
    | some (.behind, []) => some rest
    | some (place, brackets) => passFrom? place brackets rest

def pass? (tokens : List Token) : Option (List Token) := passFrom? .value [] tokens

mutual

/-- Reads what is asked of one value. `depth` is how many brackets may still be opened, plus one;
`fuel` bounds the steps and is never used up on a fuel above twice the count of tokens. -/
def value? : Nat → Nat → Asked → List Token → Option (Json × List Token)
  | 0, _, _, _ => none
  | fuel + 1, depth, asked, tokens =>
    match tokens with
    | .null :: rest => some (.null, rest)
    | .bool b :: rest => some (.bool b, rest)
    | .number n :: rest => n.map fun n => (.number n, rest)
    | .text s :: rest => s.map fun s => (.string s, rest)
    | .openList :: rest =>
      if depth ≤ 1 then none
      else
        match rest with
        | .closeList :: rest => some (.array [], rest)
        | rest => (items? fuel (depth - 1) asked rest).map fun (items, rest) => (.array items, rest)
    | .openObject :: rest =>
      if depth ≤ 1 then none
      else
        match rest with
        | .closeObject :: rest => some (.object [], rest)
        | rest =>
          (fields? fuel (depth - 1) asked rest).map fun (fields, rest) => (.object fields, rest)
    | _ => none

/-- The items up to the closing bracket. -/
def items? : Nat → Nat → Asked → List Token → Option (List Json × List Token)
  | 0, _, _, _ => none
  | fuel + 1, depth, asked, tokens =>
    match value? fuel depth asked.head tokens with
    | some (item, .closeList :: rest) => some ([item], rest)
    | some (item, .comma :: rest) =>
      (items? fuel depth asked.tail rest).map fun (items, rest) => (item :: items, rest)
    | _ => none

/-- The fields up to the closing brace that are asked for. -/
def fields? : Nat → Nat → Asked → List Token → Option (List (String × Json) × List Token)
  | 0, _, _, _ => none
  | fuel + 1, depth, asked, tokens =>
    match tokens with
    | .text (some name) :: .colon :: rest =>
      let entry : Option (List (String × Json) × List Token) := match asked.field? name with
        | some inner => (value? fuel depth inner rest).map fun (value, rest) => ([(name, value)], rest)
        | none => (pass? rest).map fun rest => ([], rest)
      match entry with
      | some (entry, .closeObject :: rest) => some (entry, rest)
      | some (entry, .comma :: rest) =>
        (fields? fuel depth asked rest).map fun (fields, rest) => (entry ++ fields, rest)
      | _ => none
    | _ => none

end

/-- Open brackets allowed, plus one. -/
def depthLimit : Nat := 128

end Reader

/-- Reads what is asked of a whole text, which may have malformed parts. Fields stay in the order of
the text, and a name may come twice. -/
def readAsked? (asked : Asked) (text : List (Option Char)) : Option Json := do
  let tokens ← Token.scan? text
  let (value, rest) ← Reader.value? (2 * tokens.length + 2) Reader.depthLimit asked tokens
  if rest.isEmpty then some value else none

/-- What is asked of a whole text. -/
def readPart? (asked : Asked) (text : String) : Option Json :=
  readAsked? asked (text.toList.map some)

/-- Reads a whole text into a value with sorted fields; of two with one name the later counts. -/
def read? (text : String) : Option Json := (readPart? .whole text).map normalize

end Json

end DataAccess
