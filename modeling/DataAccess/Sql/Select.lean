import DataAccess.Query.Relations
import DataAccess.Sql.Statement

/-!
Reads as SQL. A read is first a tree of what it selects, joins and requires, whose values are coerced,
and then a list of pieces. Values stand in the tree only as values to bind.
-/

namespace DataAccess

/-- A column under the table that qualifies it. -/
structure ColumnRef where
  table : String
  column : String
  deriving DecidableEq, Repr, Inhabited

inductive Comparison
  | equal
  | notEqual
  | less
  | lessOrEqual
  | greater
  | greaterOrEqual
  deriving DecidableEq, Repr, Inhabited

def Comparison.sign : Comparison → String
  | equal => "="
  | notEqual => "<>"
  | less => "<"
  | lessOrEqual => "<="
  | greater => ">"
  | greaterOrEqual => ">="

/-- A value to bind and the column that it is for. -/
structure BoundValue where
  column : Option Column
  value : SqlValue
  deriving DecidableEq, Repr, Inhabited

inductive Condition
  | isNull (ref : ColumnRef) (negated : Bool)
  /-- A condition that holds of every row, or of none. -/
  | always (truth : Bool)
  | isIn (ref : ColumnRef) (negated : Bool) (values : List BoundValue)
  | like (ref : ColumnRef) (negated : Bool) (pattern : String)
  /-- The text occurs in the column, in any letter case. -/
  | contains (ref : ColumnRef) (text : String)
  | compare (ref : ColumnRef) (comparison : Comparison) (value : BoundValue)
  deriving DecidableEq, Repr, Inhabited

/-- A condition on the row itself, or on some row related to it. -/
inductive Requirement
  | ofRow (condition : Condition)
  | ofSomeRelated (related : ColumnRef) (parent : ColumnRef) (condition : Condition)
  deriving DecidableEq, Repr, Inhabited

/-- A selected column and the name under which it comes back. -/
structure Selected where
  ref : ColumnRef
  column : Column
  outName : String
  deriving DecidableEq, Repr, Inhabited

structure Join where
  type : JoinType
  table : String
  left : ColumnRef
  right : ColumnRef
  deriving DecidableEq, Repr, Inhabited

structure OrderTerm where
  ref : ColumnRef
  direction : SortDirection
  deriving DecidableEq, Repr, Inhabited

/-- What reads and counts have in common: the tables and what is required of a row. -/
structure Source where
  table : String
  joins : List Join
  requirements : List Requirement
  deriving DecidableEq, Repr, Inhabited

structure Select where
  items : List Selected
  source : Source
  order : List OrderTerm
  /-- Limit and offset. -/
  page : Option (Nat × Nat)
  deriving DecidableEq, Repr, Inhabited

namespace SqlRead

/-- The column that a plain or dotted reference names, under its table. -/
def columnRef (options : FindOptions) (reference : String) : ColumnRef :=
  match splitReference? reference with
  | some (table, column) => ⟨table, column⟩
  | none => ⟨options.table, reference⟩

def selectedFrom (table : String) (column : Column) : Selected :=
  ⟨⟨table, column.field⟩, column, column.field⟩

/-- A column of a joined table comes back under its dotted name. -/
def selectedJoined (request : RelationRequest) (column : Column) : Selected :=
  ⟨⟨request.table, column.field⟩, column, request.table ++ "." ++ column.field⟩

/-- Whether a relation is read by a join. -/
def isJoined (joinAll : Bool) (request : RelationRequest) : Bool := joinAll && request.isToOne

/-- The join columns that lookups need although the fields leave them out, each once, going through
the relations with those already found. -/
def lookupKeys (options : FindOptions) (joinAll : Bool) :
    List RelationRequest → List String → List (RelationRequest × Option String)
  | [], _ => []
  | request :: rest, found =>
    let key := request.relation.orgColumn
    if isJoined joinAll request || options.fields.isEmpty || options.fields.contains key
        || found.contains key then
      (request, none) :: lookupKeys options joinAll rest found
    else (request, some key) :: lookupKeys options joinAll rest (key :: found)

/-- What a relation adds to the selection: the columns of a joined table, or a join column for a
lookup. -/
def relationItems (options : FindOptions) (joinAll : Bool) (entry : RelationRequest × Option String) :
    List Selected :=
  if isJoined joinAll entry.1 then entry.1.projected.map (selectedJoined entry.1)
  else
    match entry.2.bind options.schema.column? with
    | some column => [selectedFrom options.table column]
    | none => []

def items (options : FindOptions) (joinAll : Bool) : List Selected :=
  options.projected.map (selectedFrom options.table)
    ++ (lookupKeys options joinAll options.relations []).flatMap (relationItems options joinAll)

/-- Relations to one row are joined, all of them or those that a reference names. -/
def joins (options : FindOptions) (joinAll : Bool) : List Join :=
  let referenced := Relations.referenced options
  (options.relations.filter fun r => r.isToOne && (joinAll || referenced.contains r.table)).map
    fun r =>
      { type := r.join
        table := r.table
        left := ⟨r.relation.orgTable, r.relation.orgColumn⟩
        right := ⟨r.table, r.relation.column⟩ }

/-- The text that a pattern operator compares with. -/
def patternText (p : Predicate) : String :=
  match p.value with
  | some .null | none => ""
  | some value => value.shown

def bound (caps : Capabilities) (column : Option Column) (value : Json) :
    Except EngineError BoundValue :=
  match column with
  | some c => (Coercion.outbound c caps value).map fun value => ⟨column, .ofJson value⟩
  | none => .ok ⟨none, .ofJson value⟩

/-- A comparison. Equality with null asks whether the column is null; no other comparison takes
null. -/
def compared (caps : Capabilities) (p : Predicate) (ref : ColumnRef) (column : Option Column)
    (comparison : Comparison) : Except EngineError Condition :=
  match p.value with
  | none | some .null =>
    match comparison with
    | .equal => .ok (.isNull ref false)
    | .notEqual => .ok (.isNull ref true)
    | _ => .error (.invalidValue p.column "a value" "null")
  | some value => (bound caps column value).map (.compare ref comparison)

def condition (caps : Capabilities) (options : FindOptions) (p : Predicate) :
    Except EngineError Condition :=
  let ref := columnRef options p.column
  let column := options.column? p.column
  let listed (negated : Bool) : Except EngineError Condition :=
    if p.listValues.isEmpty then .ok (.always negated)
    else (p.listValues.mapM (bound caps column)).map (.isIn ref negated)
  match p.operator with
  | .null => .ok (.isNull ref false)
  | .notNull => .ok (.isNull ref true)
  | .isIn => listed false
  | .notIn => listed true
  | .like => .ok (.like ref false (patternText p))
  | .notLike => .ok (.like ref true (patternText p))
  | .search => .ok (.contains ref (patternText p))
  | .equals => compared caps p ref column .equal
  | .notEquals => compared caps p ref column .notEqual
  | .lt => compared caps p ref column .less
  | .lte => compared caps p ref column .lessOrEqual
  | .gt => compared caps p ref column .greater
  | .gte => compared caps p ref column .greaterOrEqual

/-- The relation to many rows that a reference names. -/
def toMany? (options : FindOptions) (reference : String) : Option RelationRequest :=
  match splitReference? reference with
  | some (table, _) => (options.request? table).filter fun r => !r.isToOne
  | none => none

/-- A condition on a relation to many rows asks for some related row, so that the parent comes back
once however many qualify. -/
def requirement (caps : Capabilities) (options : FindOptions) (p : Predicate) :
    Except EngineError Requirement :=
  (condition caps options p).map fun c =>
    match toMany? options p.column with
    | some r =>
      .ofSomeRelated ⟨r.table, r.relation.column⟩ ⟨options.table, r.relation.orgColumn⟩ c
    | none => .ofRow c

def source (caps : Capabilities) (options : FindOptions) (joinAll : Bool) :
    Except EngineError Source :=
  (options.filters.mapM (requirement caps options)).map fun requirements =>
    ⟨options.table, joins options joinAll, requirements⟩

/-- Only columns of the table itself order the rows. -/
def order (options : FindOptions) : List OrderTerm :=
  (options.sort.filter fun s => !isRelationReference s.column).map fun s =>
    ⟨⟨options.table, s.column⟩, s.direction⟩

def select (caps : Capabilities) (options : FindOptions) (joinAll paginate : Bool) :
    Except EngineError Select :=
  (source caps options joinAll).map fun source =>
    { items := items options joinAll
      source
      order := order options
      page := if paginate then some (options.limit, options.offset) else none }

end SqlRead

/-- The mark that takes its meaning from the next character of a pattern. -/
def likeEscape : Char := '!'

/-- A text as a pattern that only the text itself matches. -/
def escapeWildcards (wildcards : List Char) : List Char → List Char
  | [] => []
  | c :: rest =>
    if c = likeEscape ∨ c ∈ wildcards then likeEscape :: c :: escapeWildcards wildcards rest
    else c :: escapeWildcards wildcards rest

/-- The pattern of all texts in which a text occurs. -/
def containsPattern (wildcards : List Char) (text : String) : String :=
  String.ofList ('%' :: escapeWildcards wildcards text.toList ++ ['%'])

def ColumnRef.pieces (r : ColumnRef) : Statement := Statement.qualified r.table r.column

def BoundValue.piece (v : BoundValue) : Piece := .value v.column v.value

namespace Condition

def likePieces (d : SqlDialect) (ref : ColumnRef) (negated ignoringCase : Bool) (pattern : String) :
    Statement :=
  let frame := d.likeFrame negated ignoringCase
  .code frame.before :: ref.pieces
    ++ [.code frame.between, .value none (.text pattern), .code frame.after]

def pieces (d : SqlDialect) : Condition → Statement
  | isNull ref negated => ref.pieces ++ [.code (if negated then " IS NOT NULL" else " IS NULL")]
  | always truth => [.code (if truth then "1 = 1" else "1 = 0")]
  | isIn ref negated values =>
    ref.pieces ++ .code (if negated then " NOT IN (" else " IN (")
      :: Statement.separated ", " (values.map fun v => [v.piece]) ++ [.code ")"]
  | like ref negated pattern => likePieces d ref negated false pattern
  | contains ref text =>
    likePieces d ref false true (containsPattern d.wildcards text) ++ [.code " ESCAPE '!'"]
  | compare ref comparison value =>
    ref.pieces ++ [.code (" " ++ comparison.sign ++ " "), value.piece]

end Condition

def Requirement.pieces (d : SqlDialect) : Requirement → Statement
  | ofRow condition => condition.pieces d
  | ofSomeRelated related parent condition =>
    [.code "EXISTS (SELECT 1 FROM ", .name related.table, .code " WHERE "] ++ related.pieces
      ++ .code " = " :: parent.pieces ++ .code " AND " :: condition.pieces d ++ [.code ")"]

def Selected.pieces (d : SqlDialect) (s : Selected) : Statement :=
  s.ref.pieces ++ [.code (d.selectSuffix s.column ++ " AS "), .name s.outName]

def Join.pieces (j : Join) : Statement :=
  [.code (" " ++ j.type.clause ++ " "), .name j.table, .code " ON "] ++ j.left.pieces
    ++ .code " = " :: j.right.pieces

def OrderTerm.pieces (t : OrderTerm) : Statement :=
  t.ref.pieces ++ [.code (" " ++ t.direction.name)]

namespace Source

def wherePieces (d : SqlDialect) : List Requirement → Statement
  | [] => []
  | requirements =>
    .code " WHERE " :: Statement.separated " AND " (requirements.map (Requirement.pieces d))

def pieces (d : SqlDialect) (s : Source) : Statement :=
  .code " FROM " :: .name s.table :: s.joins.flatMap Join.pieces ++ wherePieces d s.requirements

/-- The name under which a count comes back. -/
def totalColumn : String := "total"

def countPieces (d : SqlDialect) (s : Source) : Statement :=
  [.code "SELECT COUNT(*) AS ", .name totalColumn] ++ s.pieces d

end Source

namespace Select

def orderPieces : List OrderTerm → Statement
  | [] => []
  | terms => .code " ORDER BY " :: Statement.separated ", " (terms.map OrderTerm.pieces)

/-- The name of the row number that cutting by row numbers adds to a row. -/
def rowNumberColumn : String := "RNUM_"

def decimal (n : Nat) : String := String.ofList (Decimal.digitChars n)

/-- The statement of all rows, cut to a page in the dialect's way. -/
def paged (d : SqlDialect) (body : Statement) (order : List OrderTerm) (limit offset : Nat) :
    Statement :=
  match d.paginationStyle with
  | .limitOffset =>
    body ++ orderPieces order ++ [.code s!" LIMIT {decimal limit} OFFSET {decimal offset}"]
  | .offsetFetch =>
    body ++ (if order.isEmpty then [.code " ORDER BY (SELECT NULL)"] else orderPieces order)
      ++ [.code s!" OFFSET {decimal offset} ROWS FETCH NEXT {decimal limit} ROWS ONLY"]
  | .rowNumber =>
    let last := decimal (min (offset + limit) greatestCount)
    [.code s!"SELECT * FROM (SELECT inner_.*, ROWNUM AS {rowNumberColumn} FROM ("]
      ++ body ++ orderPieces order
      ++ [.code s!") inner_ WHERE ROWNUM <= {last}) WHERE {rowNumberColumn} > {decimal offset}"]

def pieces (d : SqlDialect) (s : Select) : Statement :=
  let body := .code "SELECT " :: Statement.separated ", " (s.items.map (Selected.pieces d))
    ++ s.source.pieces d
  match s.page with
  | none => body ++ orderPieces s.order
  | some (limit, offset) => paged d body s.order limit offset

end Select

namespace SqlDialect

/-- The statement of a read. -/
def selectQuery (d : SqlDialect) (options : FindOptions) (joinAll paginate : Bool) :
    Except EngineError CompiledQuery :=
  (SqlRead.select d.capabilities options joinAll paginate).map fun s =>
    Statement.compile d (s.pieces d)

/-- The statement that counts the rows of a read on all its pages. -/
def countQuery (d : SqlDialect) (options : FindOptions) (joinAll : Bool) :
    Except EngineError CompiledQuery :=
  (SqlRead.source d.capabilities options joinAll).map fun s =>
    Statement.compile d (s.countPieces d)

end SqlDialect

end DataAccess
