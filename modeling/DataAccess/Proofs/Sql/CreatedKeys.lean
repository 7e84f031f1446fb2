import DataAccess.Proofs.Sql.Catalog
import DataAccess.Proofs.Sql.KeyClauses
import Mathlib.Data.List.Nodup

/-!
# The keys of a table that is created again

A table is created from the schema that a catalog describes. Its statements declare a primary key for
each column that the catalog flags as primary, so a key of two columns is declared twice. Each link that
the table owns becomes one foreign key, but so does a link of another table to a column that belongs to
a link of the table itself. The foreign keys that are added to a table are named by their columns, so two
of them on one column have one name.
-/

namespace DataAccess

namespace SqlLexer

/-- What the statements that create a table declare. -/
def createdClauses (d : SqlDialect) (s : Schema) : List KeyClause :=
  (d.createTable s).flatMap fun q => keyClauses d q.sql

def KeyClause.isForeign : KeyClause → Bool
  | .foreign _ _ _ => true
  | .primary | .constraint _ => false

def KeyClause.name? : KeyClause → Option String
  | .constraint name => some name
  | .primary | .foreign _ _ _ => none

section Clauses

variable {d : SqlDialect} {s : Schema}

theorem createdClauses_eq (d : SqlDialect) (s : Schema) : createdClauses d s = tableClauses d s := by
  have hall := (declareAll_createTable d s).flatMap_keyClauses
  rwa [List.flatMap_map] at hall

theorem flatMap_columnClauses (columns : List Column) :
    columns.flatMap columnClauses =
      List.replicate (columns.filter (·.primaryKey)).length .primary := by
  induction columns with
  | nil => rfl
  | cons c columns ih =>
      rw [List.flatMap_cons, ih, columnClauses, List.filter_cons]
      split
      · rfl
      · rfl

theorem count_primary (d : SqlDialect) (s : Schema) :
    (createdClauses d s).count .primary = (s.columns.filter (·.primaryKey)).length := by
  have hchecks : KeyClause.primary ∉ (checkedColumns d s).flatMap (checkClauses s) := by
    simp [checkClauses]
  have hforeign : KeyClause.primary ∉ (SqlDialect.foreignKeys s).flatMap (foreignClauses d s) := by
    unfold foreignClauses foreignClause
    split <;> simp
  rw [createdClauses_eq, tableClauses, List.count_append, List.count_append, flatMap_columnClauses,
    List.count_eq_zero_of_not_mem hchecks, List.count_eq_zero_of_not_mem hforeign,
    List.count_replicate_self, Nat.add_zero]

theorem filter_isForeign (d : SqlDialect) (s : Schema) :
    (createdClauses d s).filter (·.isForeign) = (SqlDialect.foreignKeys s).map foreignClause := by
  have hforeign : ∀ r : Relation, (foreignClauses d s r).filter (·.isForeign) = [foreignClause r] := by
    intro r
    rw [foreignClauses]
    split <;> rfl
  have hchecks : ((checkedColumns d s).flatMap (checkClauses s)).filter (·.isForeign) = [] := by
    rw [List.filter_flatMap]
    exact List.flatMap_eq_nil_iff.mpr fun _ _ => rfl
  rw [createdClauses_eq, tableClauses, List.filter_append, List.filter_append, flatMap_columnClauses,
    hchecks, List.filter_flatMap, List.map_eq_flatMap, List.flatMap_congr fun r _ => hforeign r,
    List.filter_replicate_of_neg Bool.false_ne_true]
  rfl

theorem mem_foreign_iff (clause : KeyClause) :
    (clause ∈ createdClauses d s ∧ clause.isForeign = true) ↔
      ∃ r ∈ SqlDialect.foreignKeys s, foreignClause r = clause := by
  rw [← List.mem_filter, filter_isForeign, List.mem_map]

theorem filterMap_name? (d : SqlDialect) (s : Schema) :
    (createdClauses d s).filterMap (·.name?) = (checkedColumns d s).map (checkName s) ++
      if d.altersForeignKeys then (SqlDialect.foreignKeys s).map (foreignName s) else [] := by
  have hcolumns : ∀ count, (List.replicate count KeyClause.primary).filterMap (·.name?) = [] := by
    intro count
    exact List.filterMap_replicate_of_none rfl
  have hchecks : ((checkedColumns d s).flatMap (checkClauses s)).filterMap (·.name?) =
      (checkedColumns d s).map (checkName s) := by
    rw [List.filterMap_flatMap, List.map_eq_flatMap]
    rfl
  have hforeign : ((SqlDialect.foreignKeys s).flatMap (foreignClauses d s)).filterMap (·.name?) =
      if d.altersForeignKeys then (SqlDialect.foreignKeys s).map (foreignName s) else [] := by
    unfold foreignClauses
    rw [List.filterMap_flatMap]
    split
    · rw [List.map_eq_flatMap]
      rfl
    · exact List.flatMap_eq_nil_iff.mpr fun _ _ => rfl
  rw [createdClauses_eq, tableClauses, List.filterMap_append, List.filterMap_append,
    flatMap_columnClauses, hcolumns, hchecks, hforeign, List.nil_append]

/-! ### Names -/

theorem checkName_ne_foreignName (c : Column) (r : Relation) : checkName s c ≠ foreignName s r := by
  intro h
  have hhead := congrArg (fun name : String => name.toList.head?) h
  simp [checkName, foreignName, toString] at hhead

theorem nodup_checkNames_iff (columns : List Column) :
    (columns.map (checkName s)).Nodup ↔ (columns.map (·.field)).Nodup := by
  have hmap : columns.map (checkName s) =
      (columns.map (·.field)).map fun field => "ck_" ++ s.table ++ "_" ++ field :=
    List.map_map.symm
  rw [hmap, List.nodup_map_iff fun field other h => (String.append_right_inj _).mp h]

theorem nodup_foreignNames_iff {relations : List Relation} (hnodup : relations.Nodup) :
    (relations.map (foreignName s)).Nodup ↔
      ∀ r ∈ relations, ∀ r' ∈ relations, r.orgColumn = r'.orgColumn → r = r' := by
  have hname : ∀ r r' : Relation, foreignName s r = foreignName s r' ↔ r.orgColumn = r'.orgColumn :=
    fun r r' => String.append_right_inj _
  simp only [List.nodup_map_iff_inj_on hnodup, hname]

/-- The constraints have names of their own if the columns that are checked do and, where foreign keys
are named, no two of them stand on one column. -/
theorem nodup_names_iff (hforeign : (SqlDialect.foreignKeys s).Nodup) :
    ((createdClauses d s).filterMap (·.name?)).Nodup ↔
      ((checkedColumns d s).map (·.field)).Nodup ∧
        (d.altersForeignKeys = true → ∀ r ∈ SqlDialect.foreignKeys s, ∀ r' ∈ SqlDialect.foreignKeys s,
          r.orgColumn = r'.orgColumn → r = r') := by
  rw [filterMap_name?]
  cases d.altersForeignKeys with
  | true =>
      rw [if_pos rfl, List.nodup_append, nodup_checkNames_iff, nodup_foreignNames_iff hforeign]
      simp [checkName_ne_foreignName]
  | false => simp [nodup_checkNames_iff]

end Clauses

end SqlLexer

namespace Introspection

open SqlLexer

section Rows

variable {d : SqlDialect} {table : String} {columnRows forwardRows backwardRows : List Record}
  {s : Schema} (h : schema d table columnRows forwardRows backwardRows = .ok s)

include h

theorem mem_foreignKeys_schema (r : Relation) :
    r ∈ SqlDialect.foreignKeys s ↔
      (r ∈ forwardRows.filterMap (relation? table) ∨ r ∈ backwardRows.filterMap (relation? table)) ∧
        r.orgColumn ∈ s.fieldNames ∧
        ∃ f ∈ forwardRows.filterMap (relation? table), f.orgColumn = r.orgColumn := by
  obtain ⟨htable, hsides⟩ := orgTable_of_schema h
  have hmem := (relations_schema h).1 r
  rw [SqlDialect.foreignKeys, List.mem_filter, Bool.and_eq_true, beq_iff_eq, foreignKey_schema h,
    ← hmem]
  constructor
  · rintro ⟨hr, -, hforeign⟩
    exact ⟨hr, hforeign⟩
  · rintro ⟨hr, hforeign⟩
    exact ⟨hr, (hsides r hr).trans htable.symm, hforeign⟩

theorem nodup_foreignKeys_schema : (SqlDialect.foreignKeys s).Nodup :=
  (relations_schema h).2.filter _

/-- The relations of a schema differ in what their clauses say. -/
theorem foreignClause_inj_schema {r r' : Relation} (hr : r ∈ s.relations) (hr' : r' ∈ s.relations)
    (hclause : foreignClause r = foreignClause r') : r = r' := by
  have hbare : ∀ r ∈ s.relations, r.schema = none ∧ r.orgTable = table := by
    intro r hr
    refine ⟨?_, (orgTable_of_schema h).2 r hr⟩
    rcases ((relations_schema h).1 r).mp hr with hlink | hlink
    all_goals
      obtain ⟨row, -, hrow⟩ := List.mem_filterMap.mp hlink
      exact schema_of_relation? hrow
  obtain ⟨hschema, htable⟩ := hbare r hr
  obtain ⟨hschema', htable'⟩ := hbare r' hr'
  obtain ⟨other, key, orgTable, orgColumn, attached⟩ := r
  obtain ⟨other', key', orgTable', orgColumn', attached'⟩ := r'
  simp only [foreignClause, KeyClause.foreign.injEq] at hclause
  simp only at hschema hschema' htable htable'
  simp [hclause, hschema, hschema', htable, htable']

theorem count_foreignClause {r : Relation} (hr : r ∈ SqlDialect.foreignKeys s) :
    (createdClauses d s).count (foreignClause r) = 1 := by
  have hnodup : ((SqlDialect.foreignKeys s).map foreignClause).Nodup :=
    (nodup_foreignKeys_schema h).map_on fun r hr r' hr' =>
      foreignClause_inj_schema h (List.mem_filter.mp hr).1 (List.mem_filter.mp hr').1
  have hforeign : (foreignClause r).isForeign = true := rfl
  rw [← List.count_filter hforeign, filter_isForeign]
  exact List.count_eq_one_of_mem hnodup (List.mem_map_of_mem hr)

/-- No clause is about a link of another table unless such a link stands on a column that belongs to a
link of the table itself. -/
theorem foreign_of_forward_iff :
    (∀ clause ∈ createdClauses d s, clause.isForeign = true →
        ∃ r ∈ forwardRows.filterMap (relation? table), foreignClause r = clause) ↔
      ∀ b ∈ backwardRows.filterMap (relation? table), ∀ f ∈ forwardRows.filterMap (relation? table),
        b.orgColumn = f.orgColumn → b.orgColumn ∈ s.fieldNames →
          b ∈ forwardRows.filterMap (relation? table) := by
  have hmem := mem_foreignKeys_schema h
  have hrelations := (relations_schema h).1
  constructor
  · intro hforward b hb f hf hsame hcolumn
    have hkey : b ∈ SqlDialect.foreignKeys s := (hmem b).mpr ⟨.inr hb, hcolumn, f, hf, hsame.symm⟩
    obtain ⟨hclause, hforeign⟩ := (mem_foreign_iff (d := d) (foreignClause b)).mpr ⟨b, hkey, rfl⟩
    obtain ⟨r, hr, hrb⟩ := hforward _ hclause hforeign
    have hrb : r = b := foreignClause_inj_schema h ((hrelations r).mpr (.inl hr))
      ((hrelations b).mpr (.inr hb)) hrb
    exact hrb ▸ hr
  · intro hback clause hclause hforeign
    obtain ⟨r, hr, rfl⟩ := (mem_foreign_iff clause).mp ⟨hclause, hforeign⟩
    obtain ⟨hside, hcolumn, f, hf, hsame⟩ := (hmem r).mp hr
    rcases hside with hown | hother
    · exact ⟨r, hown, rfl⟩
    · exact ⟨r, hback r hother f hf hsame.symm hcolumn, rfl⟩

theorem one_foreign_of_column_iff :
    (∀ r ∈ SqlDialect.foreignKeys s, ∀ r' ∈ SqlDialect.foreignKeys s,
        r.orgColumn = r'.orgColumn → r = r') ↔
      ∀ column other key other' key', .foreign column other key ∈ createdClauses d s →
        .foreign column other' key' ∈ createdClauses d s → other = other' ∧ key = key' := by
  constructor
  · intro hone column other key other' key' hclause hclause'
    obtain ⟨r, hr, hforeign⟩ := (mem_foreign_iff _).mp ⟨hclause, rfl⟩
    obtain ⟨r', hr', hforeign'⟩ := (mem_foreign_iff _).mp ⟨hclause', rfl⟩
    obtain ⟨rfl, rfl, rfl⟩ := KeyClause.foreign.inj hforeign
    obtain ⟨hcolumn, rfl, rfl⟩ := KeyClause.foreign.inj hforeign'
    obtain rfl := hone r hr r' hr' hcolumn.symm
    exact ⟨rfl, rfl⟩
  · intro hone r hr r' hr' hcolumn
    have hclause := (mem_foreign_iff (d := d) (foreignClause r)).mpr ⟨r, hr, rfl⟩
    have hclause' := (mem_foreign_iff (d := d) (foreignClause r')).mpr ⟨r', hr', rfl⟩
    refine foreignClause_inj_schema h (List.mem_filter.mp hr).1 (List.mem_filter.mp hr').1 ?_
    obtain ⟨htable, hkey⟩ := hone r.orgColumn r.table r.column r'.table r'.column hclause.1
      (by rw [hcolumn]; exact hclause'.1)
    rw [foreignClause, foreignClause, hcolumn, htable, hkey]

end Rows

/-- **Keys of a recreated table.** The statements that create a table from its catalog declare a primary
key for each column that is flagged as primary, and one foreign key for each link of the table on one of
its columns. No link of another table becomes a foreign key exactly if none stands on a column that
belongs to a link of the table. The constraints have names of their own exactly if the columns with
checks do and, where foreign keys are added by name, no two of them are on one column. -/
theorem created_keys_iff (d : SqlDialect) (table : String)
    (columnRows forwardRows backwardRows : List Record) (s : Schema)
    (h : schema d table columnRows forwardRows backwardRows = .ok s) :
    let forward := forwardRows.filterMap (relation? table)
    let backward := backwardRows.filterMap (relation? table)
    let clauses := createdClauses d s
    clauses.count .primary = (keyNames d columnRows).length ∧
    (∀ r ∈ forward, r.orgColumn ∈ s.fieldNames → clauses.count (foreignClause r) = 1) ∧
    ((∀ clause ∈ clauses, clause.isForeign = true → ∃ r ∈ forward, foreignClause r = clause) ↔
      ∀ b ∈ backward, ∀ f ∈ forward, b.orgColumn = f.orgColumn → b.orgColumn ∈ s.fieldNames →
        b ∈ forward) ∧
    ((clauses.filterMap (·.name?)).Nodup ↔
      ((checkedColumns d s).map (·.field)).Nodup ∧
        (d.altersForeignKeys = true → ∀ column other key other' key',
          .foreign column other key ∈ clauses → .foreign column other' key' ∈ clauses →
            other = other' ∧ key = key')) := by
  intro forward backward clauses
  refine ⟨?_, ?_, foreign_of_forward_iff h, ?_⟩
  · rw [← keyNames_schema h, List.length_map]
    exact count_primary d s
  · intro r hr hcolumn
    exact count_foreignClause h ((mem_foreignKeys_schema h r).mpr ⟨.inl hr, hcolumn, r, hr, rfl⟩)
  · rw [nodup_names_iff (nodup_foreignKeys_schema h), one_foreign_of_column_iff h]

/-- The row of a column of integers. -/
def integerRow (field key : String) : Record :=
  [("field", .string field), ("key_type", .string key), ("native_type", .string "int")]

/-- The row of a key that links a column to a column of a table. -/
def linkRow (column other key : String) : Record :=
  [("org_column", .string column), ("ref_column", .string key), ("ref_table", .string other)]

/-- Orders of customers: the lines of an order link to its key, which is no column of their own. -/
theorem created_keys_orders :
    ∃ s, schema .mysql "orders" [integerRow "id" "PRI", integerRow "customer" ""]
        [linkRow "customer" "customers" "id"] [linkRow "id" "lines" "order"] = .ok s ∧
      (createdClauses .mysql s).count .primary = 1 ∧
      (createdClauses .mysql s).count (.foreign "customer" "customers" "id") = 1 ∧
      (∀ clause ∈ createdClauses .mysql s, clause.isForeign = true →
        clause = .foreign "customer" "customers" "id") ∧
      ((createdClauses .mysql s).filterMap (·.name?)).Nodup := by
  obtain ⟨s, hs⟩ : ∃ s, schema .mysql "orders" [integerRow "id" "PRI", integerRow "customer" ""]
      [linkRow "customer" "customers" "id"] [linkRow "id" "lines" "order"] = .ok s := ⟨_, rfl⟩
  obtain ⟨hprimary, hlinks, hbackward, hnames⟩ := created_keys_iff _ _ _ _ _ s hs
  have hforward : [linkRow "customer" "customers" "id"].filterMap (relation? "orders") =
      [Relation.link "customers" "id" "orders" "customer"] := rfl
  have hother : [linkRow "id" "lines" "order"].filterMap (relation? "orders") =
      [Relation.link "lines" "order" "orders" "id"] := rfl
  rw [hforward] at hlinks hbackward
  rw [hother] at hbackward
  have hcolumn : "customer" ∈ s.fieldNames := by
    rw [fieldNames_schema hs]
    decide +kernel
  have hone : ∀ clause ∈ createdClauses .mysql s, clause.isForeign = true →
      clause = .foreign "customer" "customers" "id" := by
    intro clause hclause hforeign
    have hapart : "id" ≠ "customer" := by decide
    obtain ⟨r, hr, rfl⟩ := hbackward.mpr (by simp [Relation.link, hapart]) clause hclause hforeign
    rw [List.mem_singleton.mp hr]
    rfl
  have hkey : (keyNames .mysql [integerRow "id" "PRI", integerRow "customer" ""]).length = 1 := by
    decide +kernel
  have hunchecked : checkedColumns .mysql s = [] := rfl
  have hcustomer : (createdClauses .mysql s).count (.foreign "customer" "customers" "id") = 1 :=
    hlinks (Relation.link "customers" "id" "orders" "customer") List.mem_cons_self hcolumn
  refine ⟨s, hs, hprimary.trans hkey, hcustomer, hone, hnames.mpr ⟨by simp [hunchecked], ?_⟩⟩
  intro _ column other key other' key' hclause hclause'
  obtain ⟨-, rfl, rfl⟩ := KeyClause.foreign.inj (hone _ hclause rfl)
  obtain ⟨-, rfl, rfl⟩ := KeyClause.foreign.inj (hone _ hclause' rfl)
  exact ⟨rfl, rfl⟩

/-- A key of two columns; a link of posts to a column that is itself a link to users; and a column with
links to two tables. -/
theorem keys_not_recreated :
    (∃ s, schema .sqlite "lines" [integerRow "sale" "PRI", integerRow "number" "PRI"] [] [] = .ok s ∧
      (createdClauses .sqlite s).count .primary = 2) ∧
    (∃ s, schema .sqlite "profiles" [integerRow "user" "PRI"] [linkRow "user" "users" "id"]
        [linkRow "user" "posts" "author"] = .ok s ∧
      .foreign "user" "posts" "author" ∈ createdClauses .sqlite s) ∧
    ∃ s, schema .mysql "sales" [integerRow "id" "PRI", integerRow "party" ""]
        [linkRow "party" "customers" "id", linkRow "party" "companies" "id"] [] = .ok s ∧
      (createdClauses .mysql s).filterMap (·.name?) = ["fk_sales_party", "fk_sales_party"] := by
  refine ⟨⟨_, rfl, ?_⟩, ⟨_, rfl, ?_⟩, ⟨_, rfl, ?_⟩⟩
  · rw [createdClauses_eq]
    decide
  · rw [createdClauses_eq]
    decide
  · rw [filterMap_name?]
    decide

end Introspection

end DataAccess
