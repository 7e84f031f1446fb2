import DataAccess.Proofs.Document.Complement
import DataAccess.Proofs.Document.Inference
import DataAccess.Proofs.Sql.RestrictedRead

/-!
# Verdicts on uniqueness

A payload is a duplicate in a unique column if some document other than the one of the given id holds
its value there, and the verdict names the first such column. Documents are compared with shaped
values; rows are counted under the same two conditions. The other document is told by the name that
the schema stores for its key. A schema can have a primary column and store no name, and then a record
that is updated counts as its own duplicate.
-/

namespace DataAccess

open Dialogue

namespace Document

/-- Under a name a document has a value, in the shape that the column of the name gives it. -/
def HasValue (schema : Schema) (name : String) (value : Json) (d : Record) : Prop :=
  ∃ column expected, schema.column? name = some column ∧ ofValue column value = .ok expected ∧
    equal (d.get? name) expected = true

variable {schema : Schema} {name key : String} {value id expected : Json} {column : Column}

theorem hasValue_iff (hcolumn : schema.column? name = some column)
    (hexpected : ofValue column value = .ok expected) (d : Record) :
    HasValue schema name value d ↔ equal (d.get? name) expected = true := by
  constructor
  · rintro ⟨other, shaped, hother, hshaped, hequal⟩
    obtain rfl := Option.some.inj (hcolumn.symm.trans hother)
    obtain rfl := Except.ok.inj (hexpected.symm.trans hshaped)
    exact hequal
  · exact fun hequal => ⟨column, expected, hcolumn, hexpected, hequal⟩

theorem matchesFilter_hasValue {own : Record} (hname : name ≠ "$and") (hvalue : value.isScalar = true)
    (h : filter schema [.equals name value] = .ok own) (d : Record) :
    matchesFilter d own = true ↔ HasValue schema name value d := by
  rw [filter_singleton] at h
  obtain ⟨column, expected, hcolumn, hexpected, rfl⟩ := predicateFilter_equals_eq_ok h
  rw [matchesFilter_singleton hname, holds_ofValue hvalue hexpected,
    hasValue_iff hcolumn hexpected]

theorem matchesFilter_not_hasValue {own : Record} (hname : name ≠ "$and")
    (h : filter schema [⟨name, .notEquals, some value⟩] = .ok own) (d : Record) :
    matchesFilter d own = true ↔ ¬ HasValue schema name value d := by
  rw [filter_singleton, predicateFilter] at h
  split at h
  · cases h
  split at h
  · cases h
  next column hcolumn =>
    obtain ⟨c, hc, rfl⟩ := exists_of_map_eq_ok h
    obtain ⟨expected, hexpected, rfl⟩ := exists_of_map_eq_ok hc
    have hholds : HasValue schema name value d ↔ equal (d.get? name) expected = true :=
      hasValue_iff hcolumn hexpected d
    rw [matchesFilter_singleton hname, holds_ne, hholds, Bool.not_eq_true', Bool.not_eq_true]

end Document

open Document

/-! ### Documents -/

/-- A document other than the one of an id, if there is one, has a value under a name. -/
def HeldByOther (schema : Schema) (key : String) (id : Option Json) (name : String) (value : Json)
    (documents : List Record) : Prop :=
  ∃ d ∈ documents, HasValue schema name value d ∧ ∀ own ∈ id, ¬ HasValue schema key own d

/-- What a payload has for a column, null apart, another document has as well. -/
def Duplicated (schema : Schema) (key : String) (id : Option Json) (data : Record)
    (documents : List Record) (column : Column) : Prop :=
  ∃ value, data.get? column.field = some value ∧ value.isNull = false ∧
    HeldByOther schema key id column.field value documents

/-- The verdict on some columns: that none of them is duplicated, or the first that is. -/
inductive VerdictOn (schema : Schema) (key : String) (id : Option Json) (data : Record)
    (documents : List Record) : List Column → UniqueVerdict → Prop
  | unique {columns : List Column}
      (h : ∀ column ∈ columns, ¬ Duplicated schema key id data documents column) :
      VerdictOn schema key id data documents columns .unique
  | duplicate {before rest : List Column} {column : Column} {value : Json}
      (hbefore : ∀ column ∈ before, ¬ Duplicated schema key id data documents column)
      (hfirst : Duplicated schema key id data documents column)
      (hvalue : data.get? column.field = some value) :
      VerdictOn schema key id data documents (before ++ column :: rest)
        (.duplicate column.field value)

namespace VerdictOn

variable {schema : Schema} {key : String} {id : Option Json} {data : Record}
  {documents : List Record} {column : Column} {columns : List Column} {verdict : UniqueVerdict}

/-- A column that is passed over stands before the first that is duplicated. -/
theorem cons (hpassed : ¬ Duplicated schema key id data documents column)
    (h : VerdictOn schema key id data documents columns verdict) :
    VerdictOn schema key id data documents (column :: columns) verdict := by
  cases h with
  | unique hnone => exact .unique (List.forall_mem_cons.mpr ⟨hpassed, hnone⟩)
  | @duplicate before rest _ _ hbefore hfirst hvalue =>
      rw [← List.cons_append]
      exact .duplicate (List.forall_mem_cons.mpr ⟨hpassed, hbefore⟩) hfirst hvalue

theorem valid_eq_false_iff (h : VerdictOn schema key id data documents columns verdict) :
    verdict.valid = false ↔ ∃ column ∈ columns, Duplicated schema key id data documents column := by
  cases h with
  | unique hnone =>
      refine iff_of_false (by simp [UniqueVerdict.unique]) ?_
      rintro ⟨column, hcolumn, hduplicated⟩
      exact hnone column hcolumn hduplicated
  | duplicate _ hfirst _ =>
      exact iff_of_true rfl ⟨_, List.mem_append_right _ List.mem_cons_self, hfirst⟩

end VerdictOn

namespace DocumentStore

variable {s : DocumentStore} {label key : String} {schema : Schema} {data : Record} {id : Option Json}
  {column : Column} {value : Json} {m : DocumentMemory} {now : Timestamp}

theorem matchesFilter_duplicates {compiled : Record} (hfield : column.field ≠ "$and")
    (hkey : key ≠ "$and") (hstored : id ≠ none → schema.primaryKey = some key)
    (hvalue : value.isScalar = true)
    (h : filter schema (duplicatePredicates schema column value id) = .ok compiled) (d : Record) :
    matchesFilter d compiled = true ↔
      HasValue schema column.field value d ∧ ∀ own ∈ id, ¬ HasValue schema key own d := by
  cases id with
  | none =>
      rw [matchesFilter_hasValue hfield hvalue h]
      simp
  | some own =>
      have hpredicates : duplicatePredicates schema column value (some own) =
          [.equals column.field value, ⟨key, .notEquals, some own⟩] := by
        simp only [duplicatePredicates, hstored nofun]
      rw [hpredicates] at h
      obtain ⟨held, other, hheld, hother, rfl⟩ := filter_pair h
      rw [matchesFilter_joinFilters]
      simp [matchesFilter_hasValue hfield hvalue hheld, matchesFilter_not_hasValue hkey hother]

theorem count_pos_iff {compiled : Record} (hfield : column.field ≠ "$and")
    (hkey : key ≠ "$and") (hstored : id ≠ none → schema.primaryKey = some key)
    (hvalue : value.isScalar = true)
    (h : filter schema (duplicatePredicates schema column value id) = .ok compiled) :
    0 < m.count schema.table compiled ↔
      HeldByOther schema key id column.field value (m.documents schema.table) := by
  rw [DocumentMemory.count, List.length_filter_pos_iff]
  exact exists_congr fun d => and_congr_right fun _ =>
    matchesFilter_duplicates hfield hkey hstored hvalue h d

/-- The columns are looked at in their order, up to the first that is duplicated. -/
theorem run_checkColumns {columns : List Column} {verdict : UniqueVerdict} {after : DocumentMemory}
    (hfields : ∀ column ∈ columns, column.field ≠ "$and") (hkey : key ≠ "$and")
    (hstored : id ≠ none → schema.primaryKey = some key)
    (hdata : ∀ name value, data.get? name = some value → value.isScalar = true)
    (h : (s.checkColumns label schema data id columns).run (DocumentMemory.responder now) m =
      (.ok verdict, after)) :
    VerdictOn schema key id data (m.documents schema.table) columns verdict := by
  induction columns with
  | nil =>
      obtain rfl := Except.ok.inj (congrArg Prod.fst h)
      exact .unique (List.forall_mem_nil _)
  | cons column columns ih =>
      obtain ⟨hfield, hfields⟩ := List.forall_mem_cons.mp hfields
      rw [checkColumns] at h
      split at h
      next hvalue => -- Null counts as no value.
        refine .cons ?_ (ih hfields h)
        rintro ⟨value, hget, hnull, -⟩
        rw [Option.filter_eq_none_iff] at hvalue
        simpa [hnull] using hvalue value hget
      next value hvalue =>
        obtain ⟨hget, hnull⟩ := Option.filter_eq_some_iff.mp hvalue
        obtain ⟨compiled, _, hcompiled, h⟩ := exists_of_run_bind_eq_ok _ h
        rw [run_ofExcept] at hcompiled
        obtain rfl := congrArg Prod.snd hcompiled
        obtain ⟨total, _, htotal, h⟩ := exists_of_run_bind_eq_ok _ h
        -- Counting leaves the store as it is, so that the next column is looked up in the same.
        obtain ⟨rfl, rfl⟩ : m.count schema.table compiled = total ∧ m = _ :=
          ⟨Except.ok.inj (congrArg Prod.fst htotal), congrArg Prod.snd htotal⟩
        have hcount := count_pos_iff (m := m) hfield hkey hstored (hdata _ value hget)
          (congrArg Prod.fst hcompiled)
        split at h
        next hpos =>
          have hverdict : .duplicate column.field value = verdict :=
            Except.ok.inj (congrArg Prod.fst h)
          rw [← hverdict, ← List.nil_append (column :: columns)]
          exact .duplicate (List.forall_mem_nil _)
            ⟨value, hget, by simpa using hnull, hcount.mp hpos⟩ hget
        next hzero =>
          refine .cons ?_ (ih hfields h)
          rintro ⟨other, hother, -, hheld⟩
          obtain rfl := Option.some.inj (hget.symm.trans hother)
          exact hzero (hcount.mpr hheld)

end DocumentStore

/-! ### Rows -/

namespace SqlStore

variable {s : SqlStore} {label key : String} {schema : Schema} {data : Record} {id : Json}

/-- A statement that counts rows of a table with what a payload has for a unique column, all but the
row of an id. -/
def CountsOthers (s : SqlStore) (schema : Schema) (key : String) (id : Json) (data : Record)
    (q : CompiledQuery) : Prop :=
  ∃ (column : Column) (value bound own : Json),
    column ∈ schema.uniqueColumns ∧ data.get? column.field = some value ∧ value.isNull = false ∧
    Coercion.outbound column s.dialect.capabilities value = .ok bound ∧
    s.boundKey schema key id = .ok own ∧
    q = Statement.compile s.dialect (SqlDialect.otherHolders schema column bound key own)

theorem keepsTo_countsOthers (hstored : schema.primaryKey = some key) :
    (s.uniqueCheck label schema data (some id)).KeepsTo
      (Queries (s.CountsOthers schema key id data)) := by
  refine keepsTo_ofExcept_bind fun exclude hexclude => keepsTo_checkColumns ?_
  simp only [excluded, hstored] at hexclude
  obtain ⟨own, hown, rfl⟩ := exists_of_map_eq_ok hexclude
  intro column hcolumn value bound hvalue hnull hbound
  exact ⟨column, value, bound, own, hcolumn, hvalue, hnull, hbound, hown, rfl⟩

end SqlStore

/-- **Verdicts on uniqueness are exact.** Where a schema stores the name of its primary key, a document
store finds a payload of scalars to be no duplicate if and only if no document other than the one of
the given id has its value, as the store would hold it, in a unique column; otherwise it names the
first such column. An SQL store leaves the row of the id out of every count that it makes. The name
that filters reserve for conjunctions has to be no column's. -/
theorem uniqueness_exact (s : DocumentStore) (t : SqlStore) (label : String) {schema : Schema}
    {key : String} {data : Record} {id : Option Json} (hkey : schema.key = .ok key)
    (hstored : id ≠ none → schema.primaryKey = schema.key?)
    (hreserved : "$and" ∉ key :: schema.uniqueColumns.map (·.field))
    (hdata : ∀ name value, data.get? name = some value → value.isScalar = true) :
    (∀ now m verdict,
      ((s.checkColumns label schema data id schema.uniqueColumns).run
          (DocumentMemory.responder now) m).1 = .ok verdict →
        VerdictOn schema key id data (m.documents schema.table) schema.uniqueColumns verdict ∧
          (verdict.valid = false ↔ ∃ column ∈ schema.uniqueColumns,
            Duplicated schema key id data (m.documents schema.table) column)) ∧
    ∀ {σ : Type} (executor : Responder SqlRequest SqlRequest.Answer σ) (state : σ), ∀ own ∈ id,
      ∀ e ∈ (t.uniqueCheck label schema data id).transcript executor state,
        ∃ q, e.request = .query q ∧ t.CountsOthers schema key own data q := by
  have hname : id ≠ none → schema.primaryKey = some key := fun hid =>
    (hstored hid).trans (Document.key?_of_key hkey)
  obtain ⟨hkey', hfields⟩ := not_or.mp (mt List.mem_cons.mpr hreserved)
  constructor
  · intro now m verdict hrun
    have hfield : ∀ column ∈ schema.uniqueColumns, column.field ≠ "$and" := by
      rintro column hcolumn hreserved
      exact hfields (List.mem_map.mpr ⟨column, hcolumn, hreserved⟩)
    have hverdict : VerdictOn schema key id data (m.documents schema.table) schema.uniqueColumns
        verdict :=
      DocumentStore.run_checkColumns hfield (Ne.symm hkey') hname hdata (Prod.ext hrun rfl)
    exact ⟨hverdict, hverdict.valid_eq_false_iff⟩
  · intro σ executor state own hid e he
    obtain rfl : id = some own := hid
    exact SqlStore.exists_of_queries
      ((SqlStore.keepsTo_countsOthers (hname nofun)).of_mem_transcript he)

/-! ### Users with addresses -/

/-- Users of a key and an address, with the name that is stored for the key. -/
def usersKeyed (stored : Option String) : Schema where
  table := "users"
  primaryKey := stored
  columns := [(Column.ofType "_id" .string).asPrimary, (Column.ofType "email" .string).asUnique]
  relations := []

def twoUsers : DocumentMemory :=
  ⟨[("users", [[("_id", .string "u1"), ("email", .string "a@x")],
    [("_id", .string "u2"), ("email", .string "b@x")]])], 0⟩

/-- The verdict on an address that the user of an id is given. -/
def verdictOnAddress (stored : Option String) (id address : String) :
    Except EngineError UniqueVerdict :=
  ((DocumentStore.checkColumns ⟨"documents", .standard⟩ "-" (usersKeyed stored)
    [("email", .string address)] (some (.string id)) (usersKeyed stored).uniqueColumns).run
      (DocumentMemory.responder default) twoUsers).1

/-- The address of the second user is one that the first cannot have, and the second can keep. -/
theorem uniqueness_exact_address :
    verdictOnAddress (some "_id") "u2" "b@x" = .ok .unique ∧
      verdictOnAddress (some "_id") "u1" "b@x" = .ok (.duplicate "email" (.string "b@x")) ∧
      VerdictOn (usersKeyed (some "_id")) "_id" (some (.string "u1")) [("email", .string "b@x")]
        (twoUsers.documents "users") (usersKeyed (some "_id")).uniqueColumns
        (.duplicate "email" (.string "b@x")) := by
  have hrun : verdictOnAddress (some "_id") "u1" "b@x" = .ok (.duplicate "email" (.string "b@x")) :=
    eq_ok_of_toOption_eq_some (by decide +kernel)
  have hdata : ∀ name value, Record.get? [("email", .string "b@x")] name = some value →
      value.isScalar = true := by
    intro name value hvalue
    rw [Record.get?_cons] at hvalue
    split at hvalue
    · obtain rfl := Option.some.inj hvalue
      rfl
    · cases hvalue
  refine ⟨eq_ok_of_toOption_eq_some (by decide +kernel), hrun, ?_⟩
  exact ((uniqueness_exact ⟨"documents", .standard⟩ SqlStore.lookingUp "-" rfl (fun _ => rfl)
    (by decide) hdata).1 default twoUsers _ hrun).1

/-- A schema with a primary column that stores no name for it: a user who keeps the address is told that
it is taken, though nobody else has it, and the rows that are counted are those of everyone. -/
theorem own_duplicate :
    (usersKeyed none).key = .ok "_id" ∧
      verdictOnAddress none "u1" "a@x" = .ok (.duplicate "email" (.string "a@x")) ∧
      (¬ ∃ column ∈ (usersKeyed none).uniqueColumns, Duplicated (usersKeyed none) "_id"
        (some (.string "u1")) [("email", .string "a@x")] (twoUsers.documents "users") column) ∧
      (SqlStore.lookingUp.uniqueCheck "-" (usersKeyed none) [("email", .string "a@x")]
          (some (.string "u1"))).transcript SqlStore.prepared [] =
        [⟨.query ⟨"SELECT COUNT(*) AS \"total\" FROM \"users\" WHERE \"email\" = ?", [.text "a@x"]⟩,
          []⟩] := by
  refine ⟨rfl, eq_ok_of_toOption_eq_some (by decide +kernel), ?_, ?_⟩
  · rintro ⟨column, hcolumn, value, hvalue, -, d, hd, hheld, hother⟩
    obtain rfl := List.mem_singleton.mp hcolumn
    obtain rfl := Option.some.inj hvalue
    rcases List.mem_cons.mp hd with rfl | hd
    · exact hother _ rfl ⟨_, _, rfl, rfl, by decide⟩
    · obtain rfl := List.mem_singleton.mp hd
      obtain ⟨_, _, hcolumn, hexpected, hequal⟩ := hheld
      obtain rfl := Option.some.inj hcolumn
      obtain rfl := Except.ok.inj hexpected
      revert hequal
      decide
  · rfl

end DataAccess
