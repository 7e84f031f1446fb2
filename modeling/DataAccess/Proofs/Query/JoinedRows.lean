import DataAccess.Proofs.Coercion.Rows
import DataAccess.Proofs.Dialogue.Run
import DataAccess.Proofs.Query.Reference
import DataAccess.Query.Relations

/-!
# Joined rows and looked up rows

A relation to one row is read by a join, whose values come back under dotted names and are folded into
a nested row, or by a lookup for each parent row. The two give the same row as long as the related row
has a value: a join shows a related row of nulls as it shows no related row, and nests neither.
-/

namespace DataAccess

open Dialogue

namespace Relations

/-! ### What a fold of a joined row comes to -/

/-- The column that a dotted name stands for in a table. -/
def columnIn? (table name : String) : Option String :=
  (splitReference? name).bind fun (own, column) => if own = table then some column else none

theorem columnIn?_eq_some_iff {table name column : String} :
    columnIn? table name = some column ↔
      name = table ++ "." ++ column ∧ isRelationReference table = false := by
  rw [← splitReference?_eq_some_iff, columnIn?]
  cases hsplit : splitReference? name with
  | none => simp
  | some pair =>
      obtain ⟨own, rest⟩ := pair
      by_cases howns : own = table
      · simp [howns]
      · simp [howns]

theorem columnIn?_append {own : String} (h : isRelationReference own = false)
    (table column : String) :
    columnIn? table (own ++ "." ++ column) = if own = table then some column else none := by
  rw [columnIn?, splitReference?_append h]
  rfl

/-- Whether a name is a dotted one of some tables. -/
def isNested (tables : List String) (name : String) : Bool :=
  tables.any fun table => (columnIn? table name).isSome

/-- The values that a row holds under the dotted names of a table. -/
def fieldsIn (table : String) (row : Record) : Record :=
  row.filterMap fun entry => (columnIn? table entry.1).map fun column => (column, entry.2)

/-- The values that a row holds under no dotted name of some tables. -/
def ownFields (tables : List String) (row : Record) : Record :=
  row.filter fun entry => !isNested tables entry.1

theorem insert?_of_not_mem {tables : List String} {table : String} (h : table ∉ tables)
    (rows : String → Record) (column : String) (value : Json) :
    Nested.insert? (tables.map fun t => (t, rows t)) table column value = none := by
  induction tables with
  | nil => rfl
  | cons first rest ih =>
      rw [List.mem_cons, not_or] at h
      rw [List.map_cons, Nested.insert?, if_neg (Ne.symm h.1), ih h.2]
      rfl

theorem insert?_of_mem {tables : List String} (hnodup : tables.Nodup) {table : String}
    (h : table ∈ tables) (rows : String → Record) (column : String) (value : Json) :
    Nested.insert? (tables.map fun t => (t, rows t)) table column value =
      some (tables.map fun t => (t, if t = table then (rows t).insert column value else rows t)) := by
  induction tables with
  | nil => cases h
  | cons first rest ih =>
      obtain ⟨hfirst, hrest⟩ := List.nodup_cons.mp hnodup
      rw [List.map_cons, Nested.insert?]
      split
      next heq =>
        subst heq
        rw [List.map_cons, if_pos rfl]
        refine congrArg (fun tail => some ((first, (rows first).insert column value) :: tail)) ?_
        refine List.map_congr_left fun t ht => ?_
        rw [if_neg]
        rintro rfl
        exact hfirst ht
      next hne =>
        rw [ih hrest ((List.mem_cons.mp h).resolve_left (Ne.symm hne)), List.map_cons, if_neg hne]
        rfl

theorem place_of_columnIn? {tables : List String} (hnodup : tables.Nodup) {table name column : String}
    (htable : table ∈ tables) (hcolumn : columnIn? table name = some column) (base : Record)
    (rows : String → Record) (value : Json) :
    place (base, tables.map fun t => (t, rows t)) name value =
      (base, tables.map fun t =>
        (t, if t = table then (rows t).insert column value else rows t)) := by
  have hsplit := splitReference?_eq_some_iff.mpr (columnIn?_eq_some_iff.mp hcolumn)
  simp only [place, hsplit, insert?_of_mem hnodup htable]

theorem place_of_not_nested {tables : List String} {name : String}
    (hnone : ∀ t ∈ tables, columnIn? t name = none) (base : Record) (rows : String → Record)
    (value : Json) :
    place (base, tables.map fun t => (t, rows t)) name value =
      (base.insert name value, tables.map fun t => (t, rows t)) := by
  cases hsplit : splitReference? name with
  | none => simp only [place, hsplit]
  | some pair =>
      obtain ⟨table, column⟩ := pair
      have habsent : table ∉ tables := by
        intro htable
        have hcolumn := hnone table htable
        rw [columnIn?, hsplit] at hcolumn
        simp at hcolumn
      simp only [place, hsplit, insert?_of_not_mem habsent]

/-- Folding a row puts each value where its name says, one after the other. -/
theorem foldl_place {tables : List String} (hnodup : tables.Nodup) (row base : Record)
    (rows : String → Record) :
    row.foldl (fun parts entry => place parts entry.1 entry.2)
        (base, tables.map fun t => (t, rows t)) =
      (base.setAll (ownFields tables row),
        tables.map fun t => (t, (rows t).setAll (fieldsIn t row))) := by
  induction row generalizing base rows with
  | nil => rfl
  | cons entry rest ih =>
      obtain ⟨name, value⟩ := entry
      rw [List.foldl_cons]
      by_cases hnested : ∃ table ∈ tables, ∃ column, columnIn? table name = some column
      · obtain ⟨table, htable, column, hcolumn⟩ := hnested
        have hsplit := splitReference?_eq_some_iff.mpr (columnIn?_eq_some_iff.mp hcolumn)
        have hown : isNested tables name = true :=
          List.any_eq_true.mpr ⟨table, htable, by rw [hcolumn]; rfl⟩
        rw [place_of_columnIn? hnodup htable hcolumn, ih]
        refine Prod.ext ?_ (List.map_congr_left fun t _ => ?_)
        · simp [ownFields, hown]
        · by_cases ht : t = table
          · subst ht
            simp [fieldsIn, hcolumn, Record.setAll]
          · have hnone : columnIn? t name = none := by
              simp [columnIn?, hsplit, Ne.symm ht]
            simp [fieldsIn, hnone, ht]
      · have hnone : ∀ t ∈ tables, columnIn? t name = none := by
          intro t ht
          cases hcolumn : columnIn? t name with
          | none => rfl
          | some column => exact absurd ⟨t, ht, column, hcolumn⟩ hnested
        have hown : isNested tables name = false := by
          rw [isNested, List.any_eq_false]
          intro t ht
          rw [hnone t ht]
          simp
        rw [place_of_not_nested hnone, ih]
        refine Prod.ext ?_ (List.map_congr_left fun t ht => ?_)
        · simp [ownFields, hown, Record.setAll]
        · simp [fieldsIn, hnone t ht]

def nestedTables (o : FindOptions) : List String :=
  (o.relations.filter (·.isToOne)).map (·.table)

theorem unflattenRow_eq (o : FindOptions) (row : Record) (hnodup : (nestedTables o).Nodup) :
    unflattenRow o row =
      (Record.ofFields (ownFields (nestedTables o) row)).setAll
        ((nestedTables o).map fun t => (t, nestedArray (Record.ofFields (fieldsIn t row)))) := by
  have hempty : ((o.relations.filter (·.isToOne)).map fun r => (r.table, ([] : Record))) =
      (nestedTables o).map fun t => (t, []) := by
    rw [nestedTables, List.map_map]
    rfl
  rw [unflattenRow]
  dsimp only
  rw [hempty, foldl_place hnodup row [] fun _ => []]
  simp only [Record.setAll, List.foldl_map]
  rfl

/-! ### Fields of the folded parts -/

theorem get?_ownFields (tables : List String) (row : Record) (name : String) :
    (ownFields tables row).get? name = if isNested tables name then none else row.get? name := by
  induction row with
  | nil => cases isNested tables name <;> rfl
  | cons entry rest ih =>
      obtain ⟨key, value⟩ := entry
      rw [ownFields] at ih
      rw [ownFields, List.filter_cons, Record.get?_cons]
      by_cases hkey : key = name
      · subst hkey
        cases hnested : isNested tables key with
        | true => simpa [hnested] using ih
        | false => simp [Record.get?_cons]
      · cases isNested tables key with
        | true => simpa [hkey] using ih
        | false => simpa [Record.get?_cons, hkey] using ih

theorem get?_fieldsIn {table : String} (h : isRelationReference table = false) (row : Record)
    (column : String) : (fieldsIn table row).get? column = row.get? (table ++ "." ++ column) := by
  induction row with
  | nil => rfl
  | cons entry rest ih =>
      obtain ⟨key, value⟩ := entry
      rw [fieldsIn] at ih
      rw [fieldsIn, List.filterMap_cons, Record.get?_cons]
      cases hkey : columnIn? table key with
      | none =>
          have hne : key ≠ table ++ "." ++ column := by
            intro heq
            rw [columnIn?_eq_some_iff.mpr ⟨heq, h⟩] at hkey
            cases hkey
          simpa [hne] using ih
      | some own =>
          obtain ⟨rfl, -⟩ := columnIn?_eq_some_iff.mp hkey
          by_cases hown : own = column
          · simp [hown, Record.get?_cons]
          · have hne : table ++ "." ++ own ≠ table ++ "." ++ column := by
              intro heq
              have hpair := columnIn?_eq_some_iff.mpr ⟨heq, h⟩
              rw [hkey] at hpair
              exact hown (Option.some.inj hpair)
            simpa [Record.get?_cons, hown, hne] using ih

theorem nodup_keys_ownFields {row : Record} (h : row.keys.Nodup) (tables : List String) :
    (ownFields tables row).keys.Nodup :=
  h.sublist (List.filter_sublist.map _)

theorem nodup_keys_fieldsIn {row : Record} (h : row.keys.Nodup) (table : String) :
    (fieldsIn table row).keys.Nodup := by
  have hkeys : (fieldsIn table row).keys = row.keys.filterMap (columnIn? table) := by
    simp only [Record.keys, fieldsIn, List.map_filterMap, List.filterMap_map, Option.map_map,
      Function.comp_def, Option.map_id']
  rw [hkeys, List.nodup_iff_pairwise_ne]
  rw [List.nodup_iff_pairwise_ne] at h
  refine h.filterMap _ ?_
  rintro name name' hne column hcolumn _ hcolumn' rfl
  exact hne ((columnIn?_eq_some_iff.mp hcolumn).1.trans (columnIn?_eq_some_iff.mp hcolumn').1.symm)

/-! ### Rows of a join -/

/-- A row under the dotted names of its table. -/
def dotted (table : String) (row : Record) : Record :=
  row.map fun entry => (table ++ "." ++ entry.1, entry.2)

/-- The row that a join gives: a parent row, and under dotted names the related rows. -/
def joinedRow (parent : Record) (related : String → Record) : List RelationRequest → Record
  | [] => parent
  | r :: rest => (joinedRow parent related rest).setAll (dotted r.table (related r.table))

theorem get?_dotted {table : String} (h : isRelationReference table = false) (row : Record)
    (name : String) : (dotted table row).get? name = (columnIn? table name).bind row.get? := by
  induction row with
  | nil => cases columnIn? table name <;> rfl
  | cons entry rest ih =>
      obtain ⟨key, value⟩ := entry
      rw [dotted] at ih
      rw [dotted, List.map_cons, Record.get?_cons, ih]
      split
      next heq =>
        rw [columnIn?_eq_some_iff.mpr ⟨heq.symm, h⟩, Option.bind_some, Record.get?_cons, if_pos rfl]
      next hne =>
        cases hcolumn : columnIn? table name with
        | none => rfl
        | some column =>
            have hkey : key ≠ column := by
              rintro rfl
              exact hne (columnIn?_eq_some_iff.mp hcolumn).1.symm
            rw [Option.bind_some, Option.bind_some, Record.get?_cons, if_neg hkey]

theorem nodup_keys_dotted {row : Record} (h : row.keys.Nodup) (table : String) :
    (dotted table row).keys.Nodup := by
  have hkeys : (dotted table row).keys = row.keys.map (table ++ "." ++ ·) := by
    rw [Record.keys, dotted, List.map_map, Record.keys, List.map_map]
    rfl
  rw [hkeys]
  exact nodup_map_dotted h table

section Joined

variable {parent : Record} {related : String → Record} {relations : List RelationRequest}
  (hundotted : ∀ r ∈ relations, isRelationReference r.table = false)
  (hrelated : ∀ r ∈ relations, (related r.table).Sorted)

include hundotted hrelated

theorem get?_joinedRow_of_not_nested {name : String}
    (h : isNested (relations.map (·.table)) name = false) :
    (joinedRow parent related relations).get? name = parent.get? name := by
  induction relations with
  | nil => rfl
  | cons r rest ih =>
      rw [isNested, List.map_cons, List.any_cons, Bool.or_eq_false_iff,
        Option.isSome_eq_false_iff, Option.isNone_iff_eq_none] at h
      have hfirst := hundotted r List.mem_cons_self
      have hrest := ih (fun q hq => hundotted q (List.mem_cons_of_mem r hq))
        (fun q hq => hrelated q (List.mem_cons_of_mem r hq)) h.2
      rw [joinedRow, Record.get?_setAll (nodup_keys_dotted (hrelated r List.mem_cons_self).nodup _),
        get?_dotted hfirst, h.1, hrest]
      rfl

theorem get?_joinedRow_dotted {table : String} (h : table ∈ relations.map (·.table))
    {column : String} (hparent : parent.get? (table ++ "." ++ column) = none) :
    (joinedRow parent related relations).get? (table ++ "." ++ column) =
      (related table).get? column := by
  induction relations with
  | nil => cases h
  | cons r rest ih =>
      have hfirst := hundotted r List.mem_cons_self
      have hundotted' := fun q hq => hundotted q (List.mem_cons_of_mem r hq)
      have hrelated' := fun q hq => hrelated q (List.mem_cons_of_mem r hq)
      rw [joinedRow, Record.get?_setAll (nodup_keys_dotted (hrelated r List.mem_cons_self).nodup _),
        get?_dotted hfirst]
      by_cases htable : r.table = table
      · subst htable
        rw [columnIn?_eq_some_iff.mpr ⟨rfl, hfirst⟩, Option.bind_some]
        by_cases hrest : r.table ∈ rest.map (·.table)
        · rw [ih hundotted' hrelated' hrest, Option.or_self]
        · have hnone : isNested (rest.map (·.table)) (r.table ++ "." ++ column) = false := by
            rw [isNested, List.any_eq_false]
            intro t ht hsome
            rw [columnIn?_append hfirst, if_neg] at hsome
            · cases hsome
            · rintro rfl
              exact hrest ht
          rw [get?_joinedRow_of_not_nested hundotted' hrelated' hnone, hparent, Option.or_none]
      · have hrest := (List.mem_cons.mp h).resolve_left (Ne.symm htable)
        have hnone : columnIn? r.table (table ++ "." ++ column) = none := by
          obtain ⟨q, hq, rfl⟩ := List.mem_map.mp hrest
          rw [columnIn?_append (hundotted' q hq), if_neg (Ne.symm htable)]
        rw [hnone, Option.bind_none, Option.none_or]
        exact ih hundotted' hrelated' hrest

end Joined

theorem sorted_joinedRow {parent : Record} (h : parent.Sorted) (related : String → Record)
    (relations : List RelationRequest) : (joinedRow parent related relations).Sorted := by
  cases relations with
  | nil => exact h
  | cons r rest => exact (sorted_joinedRow h related rest).setAll _

/-! ### Rows of lookups -/

section Lookup

variable {Request : Type} {Answer : Request → Type} {σ : Type}

/-- A lookup that finds one row for the join value of a relation, whatever was asked before. -/
def FindsOne (responder : Responder Request Answer σ) (limit : Nat)
    (lookup : FindOptions → Dialogue Request Answer (List Record)) (r : RelationRequest)
    (key : Json) (row : Record) : Prop :=
  ∀ o, lookupOptions r key limit = some o → ∀ state, ∃ after,
    (lookup o).run responder state = (.ok [row], after)

variable {responder : Responder Request Answer σ} (label : String) {limit : Nat}
  {lookup : FindOptions → Dialogue Request Answer (List Record)}

theorem run_relatedRows_one {r : RelationRequest} {row found : Record} {key : Json}
    (hkey : row.get? r.relation.orgColumn = some key) (hvalue : key.isNull = false)
    (hattached : r.schema?.isSome = true) (hfinds : FindsOne responder limit lookup r key found)
    (state : σ) :
    ∃ after, (relatedRows label limit lookup row r).run responder state = (.ok [found], after) := by
  obtain ⟨schema, hschema⟩ := Option.isSome_iff_exists.mp hattached
  cases hoptions : lookupOptions r key limit with
  | none =>
      rw [lookupOptions, hschema] at hoptions
      cases hoptions
  | some options =>
      obtain ⟨after, hrun⟩ := hfinds options hoptions state
      refine ⟨after, ?_⟩
      rw [relatedRows, hkey]
      split
      next h => cases h
      next h =>
        obtain rfl := Option.some.inj h
        cases hvalue
      next own hnull h =>
        obtain rfl := Option.some.inj h
        simp only [hoptions]
        rw [bind_eq_bind, run_bind, run_attempt, hrun]
        rfl

/-- A row has a join value for a relation, and one related row is found for it. -/
structure Linked (responder : Responder Request Answer σ) (limit : Nat)
    (lookup : FindOptions → Dialogue Request Answer (List Record)) (row : Record)
    (r : RelationRequest) (found : Record) : Prop where
  attached : r.schema?.isSome = true
  linked : ∃ key, row.get? r.relation.orgColumn = some key ∧ key.isNull = false ∧
    FindsOne responder limit lookup r key found

/-- Each lookup reads its key from a row that the lookups before it have added to. -/
theorem run_expandRow_one {requests : List RelationRequest} {found : String → Record}
    (hapart : ∀ r ∈ requests, ∀ q ∈ requests, r.relation.orgColumn ≠ q.table) {row : Record}
    (hlinked : ∀ r ∈ requests, Linked responder limit lookup row r (found r.table)) (state : σ) :
    ∃ after, (expandRow label limit lookup row requests).run responder state =
      (.ok (row.setAll (requests.map fun r => (r.table, .array [.object (found r.table)]))),
        after) := by
  induction requests generalizing row state with
  | nil => exact ⟨state, rfl⟩
  | cons r rest ih =>
      obtain ⟨hattached, key, hkey, hvalue, hfinds⟩ := hlinked r List.mem_cons_self
      obtain ⟨middle, hfound⟩ := run_relatedRows_one label hkey hvalue hattached hfinds state
      have hlinked' : ∀ q ∈ rest, Linked responder limit lookup
          (row.insert r.table (.array [.object (found r.table)])) q (found q.table) := by
        intro q hq
        have hq' := List.mem_cons_of_mem r hq
        refine ⟨(hlinked q hq').attached, ?_⟩
        rw [Record.get?_insert_of_ne (hapart q hq' r List.mem_cons_self)]
        exact (hlinked q hq').linked
      obtain ⟨after, hrest⟩ := ih
        (fun q hq p hp => hapart q (List.mem_cons_of_mem r hq) p (List.mem_cons_of_mem r hp))
        hlinked' middle
      refine ⟨after, ?_⟩
      rw [expandRow, bind_eq_bind, run_bind, hfound]
      exact hrest

theorem run_expand_one {o : FindOptions} {found : String → Record}
    (hapart : ∀ r ∈ o.relations, ∀ q ∈ o.relations, r.relation.orgColumn ≠ q.table) {row : Record}
    (hlinked : ∀ r ∈ o.relations, Linked responder limit lookup row r (found r.table))
    (state : σ) :
    ((expand label o [row] limit false lookup).run responder state).1 =
      .ok [row.setAll (o.relations.map fun r => (r.table, .array [.object (found r.table)]))] := by
  have hpending : pending o false = o.relations := List.filter_eq_self.mpr fun _ _ => rfl
  obtain ⟨after, hrun⟩ := run_expandRow_one label hapart hlinked state
  rw [expand, hpending]
  cases hrelations : o.relations with
  | nil => rfl
  | cons first rest =>
      rw [hrelations] at hrun
      show ((expandRows label limit lookup (first :: rest) [row]).run responder state).1 = _
      rw [expandRows, bind_eq_bind, run_bind, hrun]
      rfl

end Lookup

/-! ### The two ways to read relations -/

/-- Relations that rows can be joined with: to one row each, with their schemas, and under tables of
their own that have no dot in their names. -/
structure Joinable (relations : List RelationRequest) : Prop where
  toOne : ∀ r ∈ relations, r.isToOne = true
  attached : ∀ r ∈ relations, r.schema?.isSome = true
  distinct : (relations.map (·.table)).Nodup
  undotted : ∀ r ∈ relations, isRelationReference r.table = false

/-- A row that relations can be joined to: no name of it has a dot or is that of a table, and it has
a value for every join. -/
structure Parent (relations : List RelationRequest) (row : Record) : Prop where
  sorted : row.Sorted
  undotted : ∀ name ∈ row.keys, isRelationReference name = false
  apart : ∀ r ∈ relations, r.table ∉ row.keys
  joins : ∀ r ∈ relations, ∃ key, row.get? r.relation.orgColumn = some key ∧ key.isNull = false

section Agreement

variable {o : FindOptions} {parent : Record} {related : String → Record}
  (hjoinable : Joinable o.relations) (hparent : Parent o.relations parent)
  (hrelated : ∀ r ∈ o.relations, (related r.table).Sorted)

include hjoinable

theorem nestedTables_eq : nestedTables o = o.relations.map (·.table) := by
  rw [nestedTables, List.filter_eq_self.mpr hjoinable.toOne]

include hparent hrelated

/-- The part of a joined row that is under no dotted name is the parent row. -/
theorem ofFields_ownFields :
    Record.ofFields (ownFields (o.relations.map (·.table))
      (Coercion.rowInbound o (joinedRow parent related o.relations))) =
        Coercion.rowInbound o parent := by
  have hsorted := Coercion.sorted_rowInbound (sorted_joinedRow hparent.sorted related o.relations) o
  refine (Record.sorted_ofFields _).ext (Coercion.sorted_rowInbound hparent.sorted o) fun name => ?_
  rw [Record.get?_ofFields (nodup_keys_ownFields hsorted.nodup _), get?_ownFields,
    Coercion.get?_rowInbound, Coercion.get?_rowInbound]
  cases hnested : isNested (o.relations.map (·.table)) name with
  | false =>
      rw [get?_joinedRow_of_not_nested hjoinable.undotted hrelated hnested]
      rfl
  | true =>
      obtain ⟨table, -, hsome⟩ := List.any_eq_true.mp hnested
      obtain ⟨column, hcolumn⟩ := Option.isSome_iff_exists.mp hsome
      have hsplit := splitReference?_eq_some_iff.mpr (columnIn?_eq_some_iff.mp hcolumn)
      have hnone : parent.get? name = none := by
        rw [Record.get?_eq_none_iff]
        intro hmem
        rw [splitReference?_eq_none_iff.mpr (hparent.undotted name hmem)] at hsplit
        cases hsplit
      rw [hnone]
      rfl

/-- The part of a joined row that is under the dotted names of a table is the related row. -/
theorem ofFields_fieldsIn {r : RelationRequest} (hr : r ∈ o.relations) {schema : Schema}
    (hschema : r.schema? = some schema) :
    Record.ofFields (fieldsIn r.table
      (Coercion.rowInbound o (joinedRow parent related o.relations))) =
        Coercion.schemaRowInbound schema (related r.table) := by
  have hsorted := Coercion.sorted_rowInbound (sorted_joinedRow hparent.sorted related o.relations) o
  have hundotted := hjoinable.undotted r hr
  refine (Record.sorted_ofFields _).ext
    (Coercion.sorted_schemaRowInbound (hrelated r hr) schema) fun column => ?_
  have hnone : parent.get? (r.table ++ "." ++ column) = none := by
    rw [Record.get?_eq_none_iff]
    intro hmem
    have hsplit := splitReference?_append hundotted column
    rw [splitReference?_eq_none_iff.mpr (hparent.undotted _ hmem)] at hsplit
    cases hsplit
  have hcolumn : o.column? (r.table ++ "." ++ column) = schema.column? column := by
    simp [FindOptions.column?, splitReference?_append hundotted, FindOptions.request?_of_mem hjoinable.distinct hr,
      hschema]
  rw [Record.get?_ofFields (nodup_keys_fieldsIn hsorted.nodup _), get?_fieldsIn hundotted,
    Coercion.get?_rowInbound, Coercion.get?_schemaRowInbound, hcolumn,
    get?_joinedRow_dotted hjoinable.undotted hrelated (List.mem_map_of_mem hr) hnone]

end Agreement

/-- Shaping keeps a join value, and gives it no value where there was none. -/
theorem Parent.join_rowInbound {o : FindOptions} {parent : Record}
    (hparent : Parent o.relations parent) {r : RelationRequest} (hr : r ∈ o.relations) :
    ∃ key, (Coercion.rowInbound o parent).get? r.relation.orgColumn = some key ∧
      key.isNull = false := by
  obtain ⟨key, hkey, hvalue⟩ := hparent.joins r hr
  refine ⟨Coercion.inboundAs (o.column? r.relation.orgColumn) key, ?_, ?_⟩
  · rw [Coercion.get?_rowInbound, hkey, Option.map_some]
  · rw [Coercion.isNull_inboundAs, hvalue]

theorem Parent.orgColumn_ne {relations : List RelationRequest} {row : Record}
    (h : Parent relations row) {r q : RelationRequest} (hr : r ∈ relations) (hq : q ∈ relations) :
    r.relation.orgColumn ≠ q.table := by
  intro heq
  obtain ⟨key, hkey, -⟩ := h.joins r hr
  have hnone := Record.get?_eq_none_iff.mpr (h.apart q hq)
  rw [← heq, hkey] at hnone
  cases hnone

theorem nestedArray_eq_iff {row : Record} :
    nestedArray row = .array [.object row] ↔ ∃ entry ∈ row, entry.2.isNull = false := by
  rw [nestedArray]
  split
  next h =>
    have hnull : ∀ entry ∈ row, entry.2.isNull = true := by
      simpa only [Record.values, List.all_map, List.all_eq_true, Function.comp_apply] using h
    constructor
    · intro heq
      cases heq
    · rintro ⟨entry, hentry, hvalue⟩
      rw [hnull entry hentry] at hvalue
      cases hvalue
  next h =>
    simpa [Record.values] using h

theorem exists_value_schemaRowInbound {s : Schema} {row : Record} :
    (∃ entry ∈ Coercion.schemaRowInbound s row, entry.2.isNull = false) ↔
      ∃ entry ∈ row, entry.2 ≠ .null := by
  have hnull : ∀ value : Json, value.isNull = false ↔ value ≠ .null := by
    intro value
    cases value <;> simp [Json.isNull]
  constructor
  · rintro ⟨_, hentry, hvalue⟩
    obtain ⟨entry, hmem, rfl⟩ := List.mem_map.mp hentry
    exact ⟨entry, hmem, (hnull _).mp (Coercion.isNull_inboundAs _ entry.2 ▸ hvalue)⟩
  · rintro ⟨entry, hentry, hvalue⟩
    refine ⟨_, List.mem_map_of_mem hentry, ?_⟩
    rw [Coercion.isNull_inboundAs]
    exact (hnull _).mpr hvalue

/-- **A join and lookups give the same row** exactly if every related row has a value other than null.
The parent row has a value for every join, and each lookup finds the related row that the join
found. -/
theorem joined_eq_expanded_iff {Request : Type} {Answer : Request → Type} {σ : Type}
    (responder : Responder Request Answer σ) (label : String) (limit : Nat)
    (lookup : FindOptions → Dialogue Request Answer (List Record)) (o : FindOptions)
    (parent : Record) (related : String → Record) (state : σ) (hjoinable : Joinable o.relations)
    (hparent : Parent o.relations parent)
    (hrelated : ∀ r ∈ o.relations, (related r.table).Sorted)
    (hlookup : ∀ r ∈ o.relations, ∀ schema, r.schema? = some schema → ∀ key,
      (Coercion.rowInbound o parent).get? r.relation.orgColumn = some key →
        FindsOne responder limit lookup r key
          (Coercion.schemaRowInbound schema (related r.table))) :
    ((expand label o [Coercion.rowInbound o parent] limit false lookup).run responder state).1 =
        .ok (unflatten o [Coercion.rowInbound o (joinedRow parent related o.relations)]) ↔
      ∀ r ∈ o.relations, ∃ entry ∈ related r.table, entry.2 ≠ .null := by
  let found (table : String) : Record :=
    .ofFields (fieldsIn table (Coercion.rowInbound o (joinedRow parent related o.relations)))
  have hfound : ∀ r ∈ o.relations, ∀ schema, r.schema? = some schema →
      found r.table = Coercion.schemaRowInbound schema (related r.table) :=
    fun r hr schema hschema => ofFields_fieldsIn hjoinable hparent hrelated hr hschema
  have hunflattened : unflatten o [Coercion.rowInbound o (joinedRow parent related o.relations)] =
      [(Coercion.rowInbound o parent).setAll
        (o.relations.map fun r => (r.table, nestedArray (found r.table)))] := by
    have hnodup : (nestedTables o).Nodup := (nestedTables_eq hjoinable).symm ▸ hjoinable.distinct
    rw [unflatten, List.map_singleton, unflattenRow_eq o _ hnodup, nestedTables_eq hjoinable,
      ofFields_ownFields hjoinable hparent hrelated, List.map_map]
    rfl
  have hlinked : ∀ r ∈ o.relations, Linked responder limit lookup (Coercion.rowInbound o parent) r
      (found r.table) := by
    intro r hr
    obtain ⟨schema, hschema⟩ := Option.isSome_iff_exists.mp (hjoinable.attached r hr)
    obtain ⟨key, hkey, hvalue⟩ := hparent.join_rowInbound hr
    refine ⟨hjoinable.attached r hr, key, hkey, hvalue, ?_⟩
    rw [hfound r hr schema hschema]
    exact hlookup r hr schema hschema key hkey
  rw [hunflattened, run_expand_one label (fun r hr q hq => hparent.orgColumn_ne hr hq) hlinked,
    Except.ok.injEq, List.singleton_inj, Record.setAll_map_inj hjoinable.distinct]
  refine forall₂_congr fun r hr => ?_
  obtain ⟨schema, hschema⟩ := Option.isSome_iff_exists.mp (hjoinable.attached r hr)
  rw [eq_comm, nestedArray_eq_iff, hfound r hr schema hschema, exists_value_schemaRowInbound]

/-- The sales orders with the names of their customers. -/
def ordersOfCustomers : FindOptions :=
  { FindOptions.ofSchema (.ofColumns "SalesOrder"
      [(Column.ofType "orderId" .number).asPrimary, .ofType "custId" .number]) with
    relations :=
      [⟨{ Relation.link "Customer" "custId" "SalesOrder" "custId" with
          schema := some (.ofColumns "Customer"
            [(Column.ofType "custId" .number).asPrimary, .ofType "companyName" .string]) },
        .left, ["companyName"]⟩] }

def orderOfCustomer : Record := [("custId", .int 7), ("orderId", .int 1)]

theorem joinable_ordersOfCustomers : Joinable ordersOfCustomers.relations where
  toOne := by decide
  attached := by decide
  distinct := by decide
  undotted := by decide

theorem parent_orderOfCustomer : Parent ordersOfCustomers.relations orderOfCustomer where
  sorted := by decide
  undotted := by decide
  apart := by decide
  joins := List.forall_mem_singleton.mpr ⟨.int 7, by decide, rfl⟩

/-- A customer with a name is nested in both ways. -/
theorem joined_eq_expanded_named :
    let customer : Record := [("companyName", .string "Acme")]
    let responder : Responder Empty (fun _ => Empty) Unit :=
      ⟨fun request _ => request.elim, fun _ state => state⟩
    ((expand "sqlite" ordersOfCustomers
        [Coercion.rowInbound ordersOfCustomers orderOfCustomer] 20 false
        fun _ => .done [customer]).run responder ()).1 =
      .ok (unflatten ordersOfCustomers
        [Coercion.rowInbound ordersOfCustomers
          (joinedRow orderOfCustomer (fun _ => customer) ordersOfCustomers.relations)]) := by
  intro customer responder
  refine (joined_eq_expanded_iff responder "sqlite" 20 _ ordersOfCustomers orderOfCustomer _ ()
    joinable_ordersOfCustomers parent_orderOfCustomer ?_ ?_).mpr ?_
  · decide
  · intro r hr schema hschema key _ options _ state
    obtain rfl := List.mem_singleton.mp hr
    obtain rfl := Option.some.inj hschema
    exact ⟨state, rfl⟩
  · exact List.forall_mem_singleton.mpr ⟨("companyName", .string "Acme"), by decide, by decide⟩

/-- A customer whose name is null is nested by a lookup only. -/
theorem joined_ne_expanded_unnamed :
    ∃ (o : FindOptions) (parent : Record) (related : String → Record)
      (responder : Responder Empty (fun _ => Empty) Unit)
      (lookup : FindOptions → Dialogue Empty (fun _ => Empty) (List Record)),
      Joinable o.relations ∧ Parent o.relations parent ∧
      (∀ r ∈ o.relations, (related r.table).Sorted ∧
        (related r.table).keys = r.projected.map (·.field)) ∧
      (∀ r ∈ o.relations, ∀ schema, r.schema? = some schema → ∀ key,
        FindsOne responder 20 lookup r key
          (Coercion.schemaRowInbound schema (related r.table))) ∧
      ((expand "sqlite" o [Coercion.rowInbound o parent] 20 false lookup).run responder ()).1 =
        .ok [[("Customer", .array [.object [("companyName", .null)]]), ("custId", .int 7),
          ("orderId", .int 1)]] ∧
      unflatten o [Coercion.rowInbound o (joinedRow parent related o.relations)] =
        [[("Customer", .array []), ("custId", .int 7), ("orderId", .int 1)]] := by
  refine ⟨ordersOfCustomers, orderOfCustomer, fun _ => [("companyName", .null)],
    ⟨fun request _ => request.elim, fun _ state => state⟩, fun _ => .done [[("companyName", .null)]],
    joinable_ordersOfCustomers, parent_orderOfCustomer, ?_, ?_, ?_, ?_⟩
  · decide
  · intro r hr schema hschema key options _ state
    obtain rfl := List.mem_singleton.mp hr
    obtain rfl := Option.some.inj hschema
    exact ⟨state, rfl⟩
  · rfl
  · rfl

end Relations

end DataAccess
