import DataAccess.Dialogue
import DataAccess.Query.Find

/-!
Related rows. A joined row holds them under dotted names, which are folded here into one nested row
for each relation to one row; any other relation is expanded by one lookup for each parent row.
-/

namespace DataAccess

namespace Relations

/-- The tables that dotted filters, sorts and fields name, each once, in order. -/
def referenced (options : FindOptions) : List String :=
  let references := options.filters.map (·.column) ++ options.sort.map (·.column) ++ options.fields
  (references.filterMap fun r => (splitReference? r).map (·.1)).foldl
    (fun tables table => if tables.contains table then tables else tables ++ [table]) []

/-- Nested rows under construction: a relation's table and its row. -/
abbrev Nested := List (String × Record)

/-- Sets a value in the first nested row of a table; none if there is no such row. -/
def Nested.insert? : Nested → String → String → Json → Option Nested
  | [], _, _, _ => none
  | (name, row) :: rest, table, column, value =>
    if name = table then some ((name, row.insert column value) :: rest)
    else (insert? rest table column value).map ((name, row) :: ·)

/-- Where one value of a joined row goes: into a nested row if its name is dotted and names a
relation, else into the row itself. -/
def place (parts : Record × Nested) (name : String) (value : Json) : Record × Nested :=
  match splitReference? name with
  | none => (parts.1.insert name value, parts.2)
  | some (table, column) =>
    match parts.2.insert? table column value with
    | some nested => (parts.1, nested)
    | none => (parts.1.insert name value, parts.2)

/-- The array that stands for a nested row; a row of nulls means that nothing matched. -/
def nestedArray (row : Record) : Json :=
  if row.values.all Json.isNull then .array [] else .array [.object row]

def unflattenRow (options : FindOptions) (row : Record) : Record :=
  let empty : Nested := (options.relations.filter (·.isToOne)).map fun r => (r.table, [])
  let (base, nested) := row.foldl (fun parts entry => place parts entry.1 entry.2) ([], empty)
  nested.foldl (fun base entry => base.insert entry.1 (nestedArray entry.2)) base

def unflatten (options : FindOptions) (rows : List Record) : List Record :=
  rows.map (unflattenRow options)

/-- The read of the related rows of one parent row. -/
def lookupOptions (request : RelationRequest) (key : Json) (limit : Nat) : Option FindOptions :=
  request.schema?.map fun schema =>
    { FindOptions.ofSchema schema with
      fields := request.fields
      filters := [.equals request.relation.column key]
      limit := limit, offset := 0 }

variable {Request : Type} {Answer : Request → Type}

/-- The related rows of a parent row; a failing lookup counts as none. -/
def relatedRows (label : String) (limit : Nat)
    (lookup : FindOptions → Dialogue Request Answer (List Record)) (row : Record)
    (request : RelationRequest) : Dialogue Request Answer (List Record) :=
  match row.get? request.relation.orgColumn with
  | none | some .null => return []
  | some key =>
    match lookupOptions request key limit with
    | none => return []
    | some options => do
      match ← (lookup options).attempt with
      | .ok rows => return rows
      | .error error =>
        Dialogue.log .warn .relations
          s!"[{label}] relation lookup {request.table} failed: {error.message}"
        return []

def expandRow (label : String) (limit : Nat)
    (lookup : FindOptions → Dialogue Request Answer (List Record)) (row : Record) :
    List RelationRequest → Dialogue Request Answer Record
  | [] => return row
  | request :: rest => do
    let related ← relatedRows label limit lookup row request
    expandRow label limit lookup (row.insert request.table (.array (related.map .object))) rest

def expandRows (label : String) (limit : Nat)
    (lookup : FindOptions → Dialogue Request Answer (List Record))
    (requests : List RelationRequest) : List Record → Dialogue Request Answer (List Record)
  | [] => return []
  | row :: rest => do
    let row ← expandRow label limit lookup row requests
    let rows ← expandRows label limit lookup requests rest
    return row :: rows

/-- The relations that a lookup has to expand; joined rows hold those to one row already. -/
def pending (options : FindOptions) (joined : Bool) : List RelationRequest :=
  options.relations.filter fun r => !(joined && r.isToOne)

/-- Attaches every pending relation to every row. -/
def expand (label : String) (options : FindOptions) (rows : List Record) (limit : Nat)
    (joined : Bool) (lookup : FindOptions → Dialogue Request Answer (List Record)) :
    Dialogue Request Answer (List Record) :=
  match pending options joined with
  | [] => return rows
  | requests => expandRows label limit lookup requests rows

end Relations

end DataAccess
