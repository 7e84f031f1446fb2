import DataAccess.Query.Json
import DataAccess.Rest.Store

/-!
A service of records with prepared responses, for trying a store without a network.
-/

namespace DataAccess

namespace RestRequest

/-- The key of a response: method, path, and the token if a later page is asked for. -/
def key : RestRequest → String
  | send method path query _ =>
    let token := match query.find? fun pair => pair.1 == "offset" with
      | some (_, token) => "?offset=" ++ token
      | none => ""
    s!"{method.name} {path}{token}"
  | now => ""

/-- The request as data; the clock is not worth a record. -/
def toJson? : RestRequest → Option Json
  | send method path query body =>
    some (.object
      ([("call", .string method.name), ("path", .string path)]
        ++ (if query.isEmpty then [] else [("query", Params.toJson query)])
        ++ match body with
          | some body => [("body", body)]
          | none => []))
  | now => none

end RestRequest

structure RestScript where
  now : Timestamp
  /-- The response of a key; a key without one is not found. -/
  response? : String → Option (Except EngineError Json)

namespace RestScript

def respond (s : RestScript) (key : String) : Except EngineError Json :=
  (s.response? key).getD (.error (.queryExecution s!"404 for {key}"))

def answer : (r : RestRequest) → RestScript → r.Answer × RestScript
  | .send method path query body, s => (s.respond (RestRequest.send method path query body).key, s)
  | .now, s => (s.now, s)

end RestScript

end DataAccess
