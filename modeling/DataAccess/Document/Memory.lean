import DataAccess.Document.Match
import DataAccess.Document.Store

/-!
A document store in memory: collections of documents in the order of their insertion.
-/

namespace DataAccess

structure DocumentMemory where
  collections : List (String × List Record)
  /-- How many ids have been made. -/
  generated : Nat
  deriving DecidableEq, Repr, Inhabited

namespace DocumentMemory

def empty : DocumentMemory := ⟨[], 0⟩

def collection? (m : DocumentMemory) (name : String) : Option (List Record) :=
  (m.collections.find? fun entry => entry.1 == name).map (·.2)

/-- The documents of a collection; one that does not exist has none. -/
def documents (m : DocumentMemory) (name : String) : List Record := (m.collection? name).getD []

def createCollection (m : DocumentMemory) (name : String) : DocumentMemory :=
  if (m.collection? name).isSome then m
  else { m with collections := m.collections ++ [(name, [])] }

/-- Changes the documents of the first collection of a name. -/
def changeIn (name : String) (change : List Record → List Record) :
    List (String × List Record) → List (String × List Record)
  | [] => []
  | (key, documents) :: rest =>
    if key = name then (key, change documents) :: rest
    else (key, documents) :: changeIn name change rest

def change (m : DocumentMemory) (name : String) (change : List Record → List Record) :
    DocumentMemory :=
  { m with collections := changeIn name change m.collections }

/-- Adds documents to a collection, which is made if it does not exist. -/
def withDocuments (m : DocumentMemory) (name : String) (documents : List Record) : DocumentMemory :=
  (m.createCollection name).change name (· ++ documents)

/-- The order of two documents by one field; a missing field counts as null, and values without an
order as equal. -/
def orderBy (key : String × Int) (a b : Record) : Ordering :=
  let order := (Document.order? ((a.get? key.1).getD .null) ((b.get? key.1).getD .null)).getD .eq
  if key.2 < 0 then order.swap else order

/-- The order of two documents by the first field that tells them apart. -/
def orderByAll (keys : List (String × Int)) (a b : Record) : Ordering :=
  ((keys.map fun key => orderBy key a b).find? (· != .eq)).getD .eq

/-- Puts a document into a list that is sorted backwards, before the first that it does not
precede. -/
def insertBackwards (precedes : Record → Record → Bool) (d : Record) : List Record → List Record
  | [] => [d]
  | e :: rest => if precedes d e then e :: insertBackwards precedes d rest else d :: e :: rest

/-- Sorts by insertion; documents that are not told apart keep their order. -/
def sortDocuments (keys : List (String × Int)) (documents : List Record) : List Record :=
  let precedes (a b : Record) : Bool := orderByAll keys a b == .lt
  (documents.foldl (fun sorted d => insertBackwards precedes d sorted) []).reverse

def project (projection : List String) (document : Record) : Record :=
  if projection.isEmpty then document
  else document.filter fun entry => entry.1 == Document.idField || projection.contains entry.1

def find (m : DocumentMemory) (q : DocumentQuery) : List Record :=
  let found := (m.documents q.collection).filter fun d => Document.matchesFilter d q.filter
  let rest := (sortDocuments q.sort found).drop q.skip
  (if q.limit = 0 then rest else rest.take q.limit).map (project q.projection)

def count (m : DocumentMemory) (name : String) (filter : Record) : Nat :=
  ((m.documents name).filter fun d => Document.matchesFilter d filter).length

def firstId : Nat := 0xfeed0000

def generatedId (n : Nat) : Json := Document.oid (String.ofList (Hex.padded 24 (firstId + n)))

/-- Stores a document and gives back its id, which is made if it has none. -/
def insertOne (m : DocumentMemory) (name : String) (document : Record) : Json × DocumentMemory :=
  match document.get? Document.idField with
  | some id => (id, m.withDocuments name [document])
  | none =>
    let id := generatedId (m.generated + 1)
    let m := { m with generated := m.generated + 1 }
    (id, m.withDocuments name [document.insert Document.idField id])

def setFields (document set : Record) : Record :=
  set.foldl (fun document entry => document.insert entry.1 entry.2) document

/-- Sets fields of the first document that matches. -/
def updateFirst (filter set : Record) : List Record → List Record
  | [] => []
  | d :: rest =>
    if Document.matchesFilter d filter then setFields d set :: rest
    else d :: updateFirst filter set rest

/-- Removes the first document that matches. -/
def deleteFirst (filter : Record) : List Record → List Record
  | [] => []
  | d :: rest =>
    if Document.matchesFilter d filter then rest else d :: deleteFirst filter rest

def anyMatches (m : DocumentMemory) (name : String) (filter : Record) : Bool :=
  (m.documents name).any fun d => Document.matchesFilter d filter

/-- Answers a request; the store never refuses one. -/
def answer (now : Timestamp) : (r : DocumentRequest) → DocumentMemory → r.Answer × DocumentMemory
  | .ping, m => (.ok (), m)
  | .listCollections, m => (.ok (m.collections.map (·.1)), m)
  | .find q, m => (.ok (m.find q), m)
  | .count name filter, m => (.ok (m.count name filter), m)
  | .insertOne name document, m =>
    let (id, m) := m.insertOne name document
    (.ok id, m)
  | .updateOne name filter set, m =>
    (.ok (if m.anyMatches name filter then 1 else 0), m.change name (updateFirst filter set))
  | .deleteOne name filter, m =>
    (.ok (if m.anyMatches name filter then 1 else 0), m.change name (deleteFirst filter))
  | .deleteMany name filter, m =>
    (.ok (m.count name filter),
      m.change name fun documents => documents.filter fun d => !Document.matchesFilter d filter)
  | .createCollection name, m => (.ok (), m.createCollection name)
  | .now, m => (.ok now, m)

end DocumentMemory

end DataAccess
