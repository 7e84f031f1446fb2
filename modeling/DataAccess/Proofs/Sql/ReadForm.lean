import DataAccess.Proofs.Results
import DataAccess.Proofs.Sql.Bindings
import DataAccess.Sql.Write

/-!
# The form of a read

Rows and counts are read by the statements of a source: from its table, joined to what it says, where
all of its requirements hold. Counts of duplicates ask for a value in one column, and may leave a row
out.
-/

namespace DataAccess

namespace Statement

variable {d : SqlDialect} {s : Statement}

theorem mem_separated {separator : String} {parts : List Statement} {part : Statement} {p : Piece}
    (hpart : part ∈ parts) (hp : p ∈ part) : p ∈ separated separator parts := by
  induction parts with
  | nil => cases hpart
  | cons first rest ih =>
      cases rest with
      | nil =>
          obtain rfl := List.mem_singleton.mp hpart
          exact hp
      | cons second rest =>
          rcases List.mem_cons.mp hpart with rfl | hpart
          · exact List.mem_append_left _ hp
          · exact List.mem_append_right first (List.mem_cons_of_mem _ (ih hpart))

theorem infix_sql_compile {identifier : String} (h : .name identifier ∈ s) :
    (d.quote identifier).toList <:+: (compile d s).sql.toList := by
  obtain ⟨before, after, rfl⟩ := List.append_of_mem h
  rw [toList_compile, chars_append, chars_name]
  exact ⟨_, _, List.append_assoc _ _ _⟩

end Statement

/-! ### Conditions of equality -/

namespace Condition

/-- The condition that a column equals a value, which is bound as the column takes it. -/
inductive Equates (caps : Capabilities) (ref : ColumnRef) (column : Option Column) (value : Json) :
    Condition → Prop
  | null (hnull : value = .null) : Equates caps ref column value (.isNull ref false)
  | bound {v : BoundValue} (hvalue : value ≠ .null)
      (hbound : SqlRead.bound caps column value = .ok v) :
      Equates caps ref column value (.compare ref .equal v)

theorem equates_of_condition {caps : Capabilities} {o : FindOptions} {name : String} {value : Json}
    {c : Condition} (h : SqlRead.condition caps o (.equals name value) = .ok c) :
    c.Equates caps (SqlRead.columnRef o name) (o.column? name) value := by
  change SqlRead.compared caps _ _ _ .equal = .ok c at h
  rw [SqlRead.compared] at h
  cases value with
  | null =>
      obtain rfl := Except.ok.inj h
      exact .null rfl
  | _ =>
      obtain ⟨v, hv, rfl⟩ := exists_of_map_eq_ok h
      exact .bound nofun hv

end Condition

/-! ### The statements of a source -/

/-- The clauses of a source that requires something. Every requirement is one side of a conjunction. -/
def Source.clauses (d : SqlDialect) (s : Source) : Statement :=
  .code " FROM " :: .name s.table :: s.joins.flatMap Join.pieces
    ++ .code " WHERE " :: Statement.separated " AND " (s.requirements.map (Requirement.pieces d))

theorem Source.pieces_eq_clauses {d : SqlDialect} {s : Source} (h : s.requirements ≠ []) :
    s.pieces d = s.clauses d := by
  rw [pieces, clauses]
  cases hrequirements : s.requirements with
  | nil => exact absurd hrequirements h
  | cons first rest => rfl

theorem Source.mem_clauses {d : SqlDialect} {s : Source} {r : Requirement} {p : Piece}
    (hr : r ∈ s.requirements) (hp : p ∈ r.pieces d) : p ∈ s.clauses d :=
  List.mem_append_right _
    (List.mem_cons_of_mem _ (Statement.mem_separated (List.mem_map_of_mem hr) hp))

namespace SqlDialect

variable {d : SqlDialect} {o : FindOptions} {joinAll paginate : Bool} {q : CompiledQuery}

/-- The statements of a source: its rows, whatever is selected of them and however they are ordered and
cut to a page, and their number. -/
inductive Reads (d : SqlDialect) (s : Source) : Statement → Prop
  | rows (select : Select) (h : select.source = s) : Reads d s (select.pieces d)
  | count : Reads d s (s.countPieces d)

/-- A statement of a source, in the clauses of the source. -/
def ReadsFrom (d : SqlDialect) (s : Source) (q : CompiledQuery) : Prop :=
  ∃ statement head tail, d.Reads s statement ∧ statement = head ++ s.clauses d ++ tail ∧
    q = Statement.compile d statement

/-- A statement that reads what options ask for. -/
def ReadsOptions (d : SqlDialect) (o : FindOptions) (joinAll : Bool) (q : CompiledQuery) : Prop :=
  ∃ s statement, SqlRead.source d.capabilities o joinAll = .ok s ∧ d.Reads s statement ∧
    q = Statement.compile d statement

/-- Every way of cutting a page puts something before and behind the statement of all rows. -/
theorem exists_paged (d : SqlDialect) (body : Statement) (order : List OrderTerm)
    (limit offset : Nat) :
    ∃ head tail, Select.paged d body order limit offset = head ++ body ++ tail := by
  rw [Select.paged]
  cases d.paginationStyle with
  | limitOffset => exact ⟨[], _, List.append_assoc body _ _⟩
  | offsetFetch => exact ⟨[], _, List.append_assoc body _ _⟩
  | rowNumber => exact ⟨_, _, List.append_assoc (_ ++ body) _ _⟩

theorem exists_pieces_select (d : SqlDialect) (s : Select) :
    ∃ head tail, s.pieces d = head ++ s.source.pieces d ++ tail := by
  rw [Select.pieces]
  cases s.page with
  | none => exact ⟨_, _, rfl⟩
  | some page =>
      obtain ⟨head, tail, hpaged⟩ := exists_paged d (.code "SELECT " ::
        Statement.separated ", " (s.items.map (Selected.pieces d)) ++ s.source.pieces d) s.order
          page.1 page.2
      refine ⟨head ++ .code "SELECT " :: Statement.separated ", " (s.items.map (Selected.pieces d)),
        tail, hpaged.trans ?_⟩
      rw [← List.append_assoc]

theorem Reads.readsFrom {s : Source} {statement : Statement} (h : d.Reads s statement)
    (hsome : s.requirements ≠ []) : d.ReadsFrom s (Statement.compile d statement) := by
  have hclauses : ∃ head tail, statement = head ++ s.clauses d ++ tail := by
    rw [← Source.pieces_eq_clauses hsome]
    cases h with
    | rows select h => exact h ▸ exists_pieces_select d select
    | count => exact ⟨_, [], (List.append_nil _).symm⟩
  obtain ⟨head, tail, hstatement⟩ := hclauses
  exact ⟨statement, head, tail, h, hstatement, rfl⟩

theorem readsOptions_countQuery (h : d.countQuery o joinAll = .ok q) :
    d.ReadsOptions o joinAll q := by
  obtain ⟨s, hs, rfl⟩ := exists_of_map_eq_ok h
  exact ⟨s, _, hs, .count, rfl⟩

theorem readsOptions_selectQuery (h : d.selectQuery o joinAll paginate = .ok q) :
    d.ReadsOptions o joinAll q := by
  obtain ⟨_, hselect, rfl⟩ := exists_of_map_eq_ok h
  obtain ⟨s, hs, rfl⟩ := exists_of_map_eq_ok hselect
  exact ⟨s, _, hs, .rows _ rfl, rfl⟩

/-! ### Statements under a condition of equality -/

/-- A statement that reads a table where a column of it equals a value, which is bound for `column`,
and where whatever else it requires holds as well. -/
def ReadsWhere (d : SqlDialect) (table name : String) (column : Option Column) (value : Json)
    (q : CompiledQuery) : Prop :=
  ∃ (s : Source) (c : Condition), d.ReadsFrom s q ∧ s.table = table ∧
    c.Equates d.capabilities ⟨table, name⟩ column value ∧ .ofRow c ∈ s.requirements

/-- A statement that reads the table of a schema and no other, where what a name refers to equals a
value, and under no other condition. -/
def LooksUp (d : SqlDialect) (schema : Schema) (name : String) (value : Json) (q : CompiledQuery) :
    Prop :=
  ∃ c : Condition, d.ReadsFrom ⟨schema.table, [], [.ofRow c]⟩ q ∧
    c.Equates d.capabilities (SqlRead.columnRef (.ofSchema schema) name)
      ((FindOptions.ofSchema schema).column? name) value

/-- The statement that counts the rows of a table with the value in a column. -/
def holders (schema : Schema) (column : Column) (bound : Json) : Statement :=
  [.code "SELECT COUNT(*) AS ", .name "total", .code " FROM ", .name schema.table,
    .code " WHERE ", .name column.field, .code " = ", .value (some column) (.ofJson bound)]

/-- The same of all rows but that of a key. -/
def otherHolders (schema : Schema) (column : Column) (bound : Json) (key : String) (own : Json) :
    Statement :=
  holders schema column bound ++ [.code " AND ", .name key, .code " <> ", fieldValue schema key own]

/-- A statement that counts the rows of a table with what a payload has for one of the unique columns,
all of them or all but that of a key. -/
def CountsHolders (d : SqlDialect) (schema : Schema) (data : Record) (q : CompiledQuery) : Prop :=
  ∃ (column : Column) (value bound : Json), column ∈ schema.uniqueColumns ∧
    data.get? column.field = some value ∧ value.isNull = false ∧
    Coercion.outbound column d.capabilities value = .ok bound ∧
    (q = Statement.compile d (holders schema column bound) ∨
      ∃ key own, q = Statement.compile d (otherHolders schema column bound key own))

/-- A read without relations has none that a name could lead to. -/
theorem toMany?_of_relations_eq_nil (h : o.relations = []) (reference : String) :
    SqlRead.toMany? o reference = none := by
  rw [SqlRead.toMany?]
  cases splitReference? reference with
  | none => rfl
  | some pair =>
      have hnone : o.request? pair.1 = none := by
        rw [FindOptions.request?, h]
        rfl
      exact congrArg (Option.filter _) hnone

theorem requirement_of_toMany?_eq_none (p : Predicate) (h : SqlRead.toMany? o p.column = none) :
    SqlRead.requirement d.capabilities o p = (SqlRead.condition d.capabilities o p).map .ofRow := by
  rw [SqlRead.requirement, h]

theorem readsWhere_of_readsOptions {name : String} {value : Json} (h : d.ReadsOptions o joinAll q)
    (hfilter : .equals name value ∈ o.filters) (hname : splitReference? name = none) :
    d.ReadsWhere o.table name (o.schema.column? name) value q := by
  obtain ⟨s, statement, hs, hreads, rfl⟩ := h
  obtain ⟨requirements, hrequirements, rfl⟩ := exists_of_map_eq_ok hs
  obtain ⟨requirement, hmem, hrequirement⟩ := exists_mem_of_mapM hrequirements hfilter
  have hown : SqlRead.toMany? o name = none := by
    rw [SqlRead.toMany?, hname]
  rw [requirement_of_toMany?_eq_none (.equals name value) hown] at hrequirement
  obtain ⟨c, hc, rfl⟩ := exists_of_map_eq_ok hrequirement
  have hequates := Condition.equates_of_condition hc
  rw [SqlRead.columnRef, FindOptions.column?, hname] at hequates
  exact ⟨_, c, hreads.readsFrom (List.ne_nil_of_mem hmem), rfl, hequates, hmem⟩

theorem looksUp_of_readsOptions {request : RelationRequest} {key : Json} {limit : Nat}
    (hoptions : Relations.lookupOptions request key limit = some o)
    (h : d.ReadsOptions o joinAll q) :
    ∃ schema, request.schema? = some schema ∧ d.LooksUp schema request.relation.column key q := by
  obtain ⟨schema, hschema, rfl⟩ := Option.map_eq_some_iff.mp hoptions
  obtain ⟨s, statement, hs, hreads, rfl⟩ := h
  obtain ⟨requirements, hrequirements, rfl⟩ := exists_of_map_eq_ok hs
  obtain ⟨requirement, hrequirement, hrest⟩ := exists_of_bind_eq_ok hrequirements
  obtain rfl := Except.ok.inj hrest
  rw [requirement_of_toMany?_eq_none _ (toMany?_of_relations_eq_nil rfl _)] at hrequirement
  obtain ⟨c, hc, rfl⟩ := exists_of_map_eq_ok hrequirement
  exact ⟨schema, hschema, c, hreads.readsFrom (List.cons_ne_nil _ _),
    Condition.equates_of_condition hc⟩

theorem countsHolders_duplicatesQuery {schema : Schema} {data : Record} {column : Column}
    {value bound : Json} (exclude : Option (String × Json)) (hcolumn : column ∈ schema.uniqueColumns)
    (hvalue : data.get? column.field = some value) (hnull : value.isNull = false)
    (hbound : Coercion.outbound column d.capabilities value = .ok bound) :
    d.CountsHolders schema data (d.duplicatesQuery schema column bound exclude) := by
  refine ⟨column, value, bound, hcolumn, hvalue, hnull, hbound, ?_⟩
  cases exclude with
  | none => exact .inl rfl
  | some other => exact .inr ⟨other.1, other.2, rfl⟩

/-- A statement under a condition on a column has the column's name in its text. -/
theorem ReadsWhere.infix_sql {table name : String} {column : Option Column} {value : Json}
    (h : d.ReadsWhere table name column value q) : (d.quote name).toList <:+: q.sql.toList := by
  obtain ⟨s, c, ⟨statement, head, tail, -, rfl, rfl⟩, -, hequates, hc⟩ := h
  refine Statement.infix_sql_compile
    (List.mem_append_left _ (List.mem_append_right _ (Source.mem_clauses hc ?_)))
  cases hequates with
  | null hnull => simp [Requirement.pieces, Condition.pieces, ColumnRef.pieces, Statement.qualified]
  | bound hvalue hbound =>
      simp [Requirement.pieces, Condition.pieces, ColumnRef.pieces, Statement.qualified]

end SqlDialect

end DataAccess
