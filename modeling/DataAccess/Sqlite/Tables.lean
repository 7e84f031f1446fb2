import DataAccess.Sql.Store
import DataAccess.Sqlite.Value

/-!
Two tables of a SQLite database: `t` holds values under integer keys that are never given out twice,
and `c` holds references to those keys. Every statement either runs as a whole or changes nothing.
-/

namespace DataAccess

namespace Sqlite

structure Tables where
  /-- Keys in ascending order, each once. -/
  rows : List (Int × SqlValue)
  /-- No key was ever greater; at least zero. -/
  greatestKey : Int
  /-- References in the order of their insertion. -/
  references : List (Option Int)
  /-- The row number of the last insertion into either table, zero before the first. -/
  lastInserted : Int
  deriving DecidableEq, Repr, Inhabited

namespace Tables

def empty : Tables := ⟨[], 0, [], 0⟩

abbrev Result := Except EngineError Execution × Tables

def fail (message : String) (t : Tables) : Result := (.error (.queryExecution message), t)

/-- The outcome of a statement that has run. Only a positive row number is told. -/
def done (affected : Nat) (t : Tables) : Result :=
  (.ok ⟨affected, if 0 < t.lastInserted then some t.lastInserted else none⟩, t)

def hasKey (t : Tables) (key : Int) : Bool := t.rows.any fun row => row.1 == key

/-- Puts a row among rows in ascending order. -/
def insertRow (row : Int × SqlValue) : List (Int × SqlValue) → List (Int × SqlValue)
  | [] => [row]
  | other :: rest => if row.1 < other.1 then row :: other :: rest else other :: insertRow row rest

/-- A new row; `affected` is what the statement tells, the row is there in any case. -/
def addRow (affected : Nat) (key : Int) (value : SqlValue) (t : Tables) : Result :=
  done affected
    { t with
      rows := insertRow (key, bind value) t.rows
      greatestKey := max t.greatestKey key
      lastInserted := key }

/-- A row under a new key, greater than all before it. -/
def insertNext (affected : Nat) (value : SqlValue) (t : Tables) : Result :=
  if t.greatestKey < Json.Number.greatestSigned then addRow affected (t.greatestKey + 1) value t
  else fail "database or disk is full" t

def insert (value : SqlValue) (t : Tables) : Result := insertNext 1 value t

/-- A row without a value. A statement without parameters tells no count. -/
def insertDefault (t : Tables) : Result := insertNext 0 .null t

/-- A row under a given key; no key stands for a new one. -/
def insertAt (id value : SqlValue) (t : Tables) : Result :=
  if id = .null then insert value t
  else
    match key? id with
    | none => fail "datatype mismatch" t
    | some key =>
      if t.hasKey key then fail "UNIQUE constraint failed: t.id" t else addRow 1 key value t

/-- Changes the row of a key, if there is one. -/
def update (id value : SqlValue) (t : Tables) : Result :=
  match (key? id).filter t.hasKey with
  | none => done 0 t
  | some key =>
    done 1 { t with
      rows := t.rows.map fun row => if row.1 = key then (key, bind value) else row }

/-- Removes the row of a key, unless it is referenced. -/
def delete (id : SqlValue) (t : Tables) : Result :=
  match (key? id).filter t.hasKey with
  | none => done 0 t
  | some key =>
    if t.references.contains (some key) then fail "FOREIGN KEY constraint failed" t
    else done 1 { t with rows := t.rows.filter fun row => row.1 != key }

/-- Adds a reference to no row, or to a row that exists. -/
def refer (id : SqlValue) (t : Tables) : Result :=
  let add (reference : Option Int) : Result :=
    done 1 { t with
      references := t.references ++ [reference], lastInserted := t.references.length + 1 }
  if id = .null then add none
  else
    match (key? id).filter t.hasKey with
    | some key => add (some key)
    | none => fail "FOREIGN KEY constraint failed" t

/-- All rows by their keys. -/
def allRows (t : Tables) : List Record :=
  t.rows.map fun (key, value) => [("id", .int key), ("v", value.toJson)]

def allReferences (t : Tables) : List Record :=
  t.references.map fun reference =>
    [("p", match reference with
      | some key => .int key
      | none => .null)]

def names : List String := ["c", "t"]

end Tables

/-- One row of bound values; of two columns with one name the later counts. A row needs a column. -/
def selectBound (columns : List (String × SqlValue)) : Except EngineError (List Record) :=
  if columns.isEmpty then .error (.queryExecution "syntax error")
  else .ok [Record.ofFields (columns.map fun (name, value) => (name, (bind value).toJson))]

/-- A row with a blob that is written in digits; their number is even. -/
def selectBlob (digits : String) (read : List UInt8 → Json) : Except EngineError (List Record) :=
  match Hex.decode? digits.toList with
  | some bytes => .ok [[("v", read bytes)]]
  | none => .error (.queryExecution "unrecognized token")

end Sqlite

end DataAccess
