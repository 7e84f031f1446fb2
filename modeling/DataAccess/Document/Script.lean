import DataAccess.Document.Memory
import DataAccess.Query.Json

/-!
A document store in memory that refuses some calls, for trying what follows a refusal.
-/

namespace DataAccess

namespace DocumentQuery

def sortJson (sort : List (String × Int)) : Json :=
  .array (sort.map fun (field, direction) => .array [.string field, .int direction])

/-- What is read, without the collection. -/
def fields (q : DocumentQuery) : List (String × Json) :=
  [("filter", .object q.filter), ("projection", .array (q.projection.map .string)),
    ("sort", sortJson q.sort), ("skip", .nat q.skip), ("limit", .nat q.limit)]

end DocumentQuery

namespace DocumentRequest

/-- The call of a request and the collection it goes to. -/
def call : DocumentRequest → String × String
  | ping => ("ping", "")
  | listCollections => ("list_collections", "")
  | find q => ("find", q.collection)
  | count collection _ => ("count", collection)
  | insertOne collection _ => ("insert_one", collection)
  | updateOne collection _ _ => ("update_one", collection)
  | deleteOne collection _ => ("delete_one", collection)
  | deleteMany collection _ => ("delete_many", collection)
  | createCollection collection => ("create_collection", collection)
  | now => ("now", "")

/-- Under this name a script refuses the request. -/
def refusalName (r : DocumentRequest) : String := r.call.1 ++ ":" ++ r.call.2

def fields : DocumentRequest → List (String × Json)
  | find q => q.fields
  | count _ filter | deleteOne _ filter | deleteMany _ filter => [("filter", .object filter)]
  | insertOne _ document => [("document", .object document)]
  | updateOne _ filter set => [("filter", .object filter), ("set", .object set)]
  | ping | listCollections | createCollection _ | now => []

/-- The request as data; the clock is not worth a record. -/
def toJson? : DocumentRequest → Option Json
  | now => none
  | r => some (.object
      (("call", .string r.call.1) :: ("collection", .string r.call.2) :: r.fields))

end DocumentRequest

structure DocumentScript where
  now : Timestamp
  memory : DocumentMemory
  /-- The requests to refuse. -/
  refused : List String

namespace DocumentScript

def refuse (name : String) : (r : DocumentRequest) → r.Answer
  | .ping | .listCollections | .find _ | .count .. | .insertOne .. | .updateOne .. | .deleteOne ..
  | .deleteMany .. | .createCollection _ | .now => .error (.queryExecution s!"{name} failed")

def answer (r : DocumentRequest) (s : DocumentScript) : r.Answer × DocumentScript :=
  if s.refused.contains r.refusalName then (refuse r.refusalName r, s)
  else
    let (reply, memory) := DocumentMemory.answer s.now r s.memory
    (reply, { s with memory })

end DocumentScript

end DataAccess
