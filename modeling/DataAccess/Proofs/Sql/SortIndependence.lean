import DataAccess.Proofs.Sql.ReadBindings
import DataAccess.Proofs.Sql.Scope

/-!
# What a sort does to the rows of a read

A sort is no condition, but the relations that its columns are of belong to the read. Those to one
row are joined, so a sort leaves the rows of a read as they are if the joins that it asks for are there
without it. Where all relations are joined it leaves them only then.
-/

namespace DataAccess

/-! ### Texts with more in them -/

namespace Statement

/-- What stands in a text between two parts of it, and binds no value, is nothing if the text is the
same without it. -/
theorem chars_eq_nil_of_compile_eq {d : SqlDialect} {s more t : Statement} (hmore : width more = 0)
    (h : compile d (s ++ (more ++ t)) = compile d (s ++ t)) : chars d (1 + width s) more = [] := by
  have htext := congrArg (fun q => q.sql.toList.length) h
  simp only [toList_compile, chars_append, List.length_append, hmore, Nat.add_zero] at htext
  exact List.length_eq_zero_iff.mp (by omega)

end Statement

namespace Source

theorem width_joins (joins : List Join) : Statement.width (joins.flatMap Join.pieces) = 0 := by
  obtain ⟨howns, -⟩ := Owns.flatMap (d := .sqlite) (fun _ => []) joins fun j _ => owns_join j
  obtain ⟨_, hbinds⟩ := howns []
  rw [hbinds.width_eq, List.flatMap_eq_nil_iff.mpr fun _ _ => rfl]
  rfl

/-- A count with more joins is another statement. -/
theorem eq_nil_of_compile_eq {d : SqlDialect} {s : Source} {more : List Join}
    (h : Statement.compile d ({ s with joins := s.joins ++ more }.countPieces d) =
      Statement.compile d (s.countPieces d)) : more = [] := by
  let start : Statement := [.code "SELECT COUNT(*) AS ", .name totalColumn, .code " FROM ",
    .name s.table] ++ s.joins.flatMap Join.pieces
  have hlonger : { s with joins := s.joins ++ more }.countPieces d =
      start ++ (more.flatMap Join.pieces ++ wherePieces d s.requirements) := by
    simp [countPieces, pieces, start]
  have hshorter : s.countPieces d = start ++ wherePieces d s.requirements := by
    simp [countPieces, pieces, start]
  rw [hlonger, hshorter] at h
  have hchars := Statement.chars_eq_nil_of_compile_eq (width_joins more) h
  cases more with
  | nil => rfl
  | cons j rest =>
      have hclause : (" " ++ j.type.clause ++ " ").toList ≠ [] := by
        simp
      rw [List.flatMap_cons, Join.pieces] at hchars
      simp only [List.cons_append, Statement.chars_code, List.append_eq_nil_iff] at hchars
      exact absurd hchars.1 hclause

end Source

/-! ### What a sort adds to a read -/

namespace Params

variable {before after : Params} {name : String} (value : String)

theorem get?_insert_of_ne {key : String} (h : name ≠ key) :
    (before ++ (name, value) :: after).get? key = (before ++ after).get? key := by
  simp [get?, h]

theorem get?_insert_self (h : ∀ entry ∈ after, entry.1 ≠ name) :
    (before ++ (name, value) :: after).get? name = some value := by
  have hafter : (after.reverse.find? fun entry => entry.1 == name) = none := by
    simpa [List.find?_eq_none] using h
  simp [get?, hafter]

theorem conditions_insert (h : name ∈ directives) :
    (before ++ (name, value) :: after).conditions = (before ++ after).conditions := by
  simp [conditions, h]

theorem get?_eq_none {params : Params} {key : String} (h : ∀ entry ∈ params, entry.1 ≠ key) :
    params.get? key = none := by
  rw [get?, Option.map_eq_none_iff, List.find?_eq_none]
  intro entry hentry
  rw [beq_iff_eq]
  exact h entry (List.mem_reverse.mp hentry)

end Params

theorem PageLimits.position_congr {limits : PageLimits} {params params' : Params}
    (h : ∀ key ∈ Params.positionKeys, params.get? key = params'.get? key) :
    limits.position params = limits.position params' := by
  have hexplicit : limits.explicit params = limits.explicit params' := by
    simp only [explicit, countParam, h "limit" (by decide), h "offset" (by decide)]
  rw [position, position, h "page" (by decide), hexplicit]

/-- The read with a sort, and with relations after those that it has. -/
def FindOptions.sortedBy (o : FindOptions) (sort : List SortCondition)
    (added : List RelationRequest) : FindOptions :=
  { o with sort, relations := o.relations ++ added }

namespace Engine

variable {catalog : String → Except EngineError Schema} {settings : EngineSettings}
  {table : String} {before after : Params} {text : String} {o o' : FindOptions}

/-- Parameters with a sort are read as those without it, and the sort for itself. -/
theorem readOptions_insert_sort {schema : Schema} {own : FindOptions}
    {rest : List RequestedRelation × List (String × String)} (text : String)
    (hunsorted : ∀ entry ∈ before ++ after, entry.1 ≠ "sort")
    (h : readOptions settings schema (before ++ after) = .ok (own, rest)) :
    own.sort = [] ∧ readOptions settings schema (before ++ ("sort", text) :: after) =
      (Reading.sort schema text).map fun sort => ({ own with sort }, rest) := by
  obtain ⟨requested, related⟩ := rest
  obtain ⟨filters, sort, fields, position, hfilters, hsort, hfields, hrequested, hposition, rfl,
    rfl⟩ := exists_of_readOptions h
  have hother : ∀ key, "sort" ≠ key →
      (before ++ ("sort", text) :: after).get? key = (before ++ after).get? key :=
    fun key => Params.get?_insert_of_ne text
  have hself : (before ++ ("sort", text) :: after).get? "sort" = some text :=
    Params.get?_insert_self text fun entry hentry =>
      hunsorted entry (List.mem_append_right before hentry)
  have hplace : settings.pageLimits.position (before ++ ("sort", text) :: after) = .ok position := by
    refine (PageLimits.position_congr fun key hkey => hother key ?_).trans hposition
    rintro rfl
    revert hkey
    decide
  rw [Params.get?_eq_none hunsorted] at hsort
  refine ⟨(Except.ok.inj hsort).symm, ?_⟩
  rw [Reading.filters] at hfilters
  rw [readOptions_eq, readAtStart, Reading.filters, Params.conditions_insert text (by decide),
    hfilters, hself, hother "fields" (by decide), hother "relations" (by decide), hfields,
    hrequested, hplace, directive]
  cases Reading.sort schema text <;> rfl

theorem exists_attachedAll_added {schema : Schema} {related : List (String × String)}
    {requested : List RequestedRelation} {tables added : List String}
    {relations relations' : List RelationRequest}
    (h : attachedAll catalog schema related (addReferenced requested tables) [] = .ok relations)
    (h' : attachedAll catalog schema related (addReferenced requested (tables ++ added)) [] =
      .ok relations') :
    ∃ more, relations' = relations ++ more ∧
      (more.map fun r => Text.lower r.table).Nodup ∧
      (∀ r ∈ more, ∀ q ∈ relations, Text.lower q.table ≠ Text.lower r.table) ∧
      ∀ r ∈ more, ∃ table ∈ added, Text.lower r.table = Text.lower table := by
  obtain ⟨extra, hextra, hof, hfresh, hdistinct, -⟩ :=
    exists_addReferenced (addReferenced requested tables) added
  have hnames : addReferenced requested (tables ++ added) =
      addReferenced requested tables ++ extra := by
    rw [← hextra]
    simp only [addReferenced, List.foldl_append]
  obtain ⟨new, rfl, hnew, -⟩ := resolved_of_attachedAll h
  have hbefore : ∀ q ∈ extra, ∀ r ∈ relations, Text.lower r.table ≠ Text.lower q.table := by
    intro q hq r hr
    obtain ⟨q', hq', hattached⟩ := hnew r hr
    rw [lower_table_of_attached hattached]
    exact hfresh q' hq' q hq
  rw [hnames, attachedAll_append, h] at h'
  change attachedAll catalog schema related extra relations = .ok relations' at h'
  rw [attachedAll_of_fresh hbefore hdistinct] at h'
  obtain ⟨more, hmore, rfl⟩ := exists_of_map_eq_ok h'
  have hlower : (more.map fun r => Text.lower r.table) = extra.map fun q => Text.lower q.table :=
    map_eq_of_mapM_eq_ok (fun q _ r hattached => lower_table_of_attached hattached) hmore
  refine ⟨more, rfl, hlower ▸ hdistinct, fun r hr q hq => ?_, fun r hr => ?_⟩
  · obtain ⟨own, hown, hattached⟩ := exists_of_mem_mapM hmore hr
    rw [lower_table_of_attached hattached]
    exact hbefore own hown q hq
  · obtain ⟨own, hown, hattached⟩ := exists_of_mem_mapM hmore hr
    exact ⟨own.table, hof own hown, lower_table_of_attached hattached⟩

/-- A relation that is checked under the name of its table in some letter case bears that name. -/
theorem table_eq_of_lower_eq {relations added : List RelationRequest} {r : RelationRequest}
    {table : String}
    (hdistinct : (added.map fun r => Text.lower r.table).Nodup)
    (hfresh : ∀ r ∈ added, ∀ q ∈ relations, Text.lower q.table ≠ Text.lower r.table)
    (hr : r ∈ added) (hlower : Text.lower r.table = Text.lower table) {q : RelationRequest}
    (hq : q ∈ relations ++ added) (htable : q.table = table) : r.table = table := by
  rcases List.mem_append.mp hq with hq | hq
  · exact absurd (htable ▸ hlower.symm) (hfresh r hr q hq)
  · rw [eq_of_nodup_map hdistinct hr hq (htable ▸ hlower), htable]

/-- What holds of the relations that a sort adds to a read without one. They lead to tables that the
read has no relation to, and columns of the sort are of each of them. -/
structure Adds (o : FindOptions) (sort : List SortCondition) (added : List RelationRequest) :
    Prop where
  unsorted : o.sort = []
  found : ∀ p ∈ o.filters, ∃ column, o.column? p.column = some column
  fresh : ∀ r ∈ added, ∀ q ∈ o.relations, q.table ≠ r.table
  named : ∀ r ∈ added, r.table ∈ tablesOf (sort.map (·.column))

/-- **A sort adds relations and nothing else.** -/
theorem exists_adds (hunsorted : ∀ entry ∈ before ++ after, entry.1 ≠ "sort")
    (h : prepared catalog settings table (before ++ after) = .ok o)
    (h' : prepared catalog settings table (before ++ ("sort", text) :: after) = .ok o') :
    ∃ sort added, Adds o sort added ∧ o' = o.sortedBy sort added := by
  obtain ⟨schema, own, requested, related, relations, hschema, hread, hrelations, rfl, hcheck⟩ :=
    exists_of_prepared h
  obtain ⟨schema', own', requested', related', relations', hschema', hread', hrelations', rfl,
    hcheck'⟩ := exists_of_prepared h'
  obtain rfl := Except.ok.inj (hschema.symm.trans hschema')
  obtain ⟨hunsorted, hinserted⟩ := readOptions_insert_sort text hunsorted hread
  rw [hread'] at hinserted
  obtain ⟨sort, -, hsorted⟩ := exists_of_map_eq_ok hinserted.symm
  obtain ⟨rfl, hrest⟩ := Prod.mk.inj hsorted
  obtain ⟨rfl, rfl⟩ := Prod.mk.inj hrest
  obtain ⟨names, hnames, hof⟩ := exists_referenced_sort hunsorted
    (fun _ => splitReference?_of_mem_fields hread) sort
  rw [hnames] at hrelations'
  obtain ⟨added, rfl, hdistinct, hfresh, hadded⟩ := exists_attachedAll_added hrelations hrelations'
  refine ⟨sort, added, ⟨hunsorted, (exists_column_of_checkFind hcheck).1, ?_, ?_⟩, rfl⟩
  · exact fun r hr q hq heq => hfresh r hr q hq (congrArg Text.lower heq)
  · intro r hr
    obtain ⟨name, hname, hlower⟩ := hadded r hr
    obtain ⟨reference, hreference, column, hsplit⟩ := mem_tablesOf.mp (hof name hname)
    obtain ⟨entry, hentry, rfl⟩ := List.mem_map.mp hreference
    obtain ⟨own, hown⟩ := (exists_column_of_checkFind hcheck').2 entry hentry
    obtain ⟨q, hq⟩ := FindOptions.exists_request_of_column? hsplit hown
    obtain ⟨hmem, htable⟩ := FindOptions.request?_eq_some hq
    -- The check has found the column under the name as the sort spells it.
    rw [table_eq_of_lower_eq hdistinct hfresh hr hlower hmem htable]
    exact hof name hname

variable {sort : List SortCondition} {added : List RelationRequest}

theorem mem_referenced_sortedBy (h : o.sort = []) {table : String} :
    table ∈ Relations.referenced (o.sortedBy sort added) ↔
      table ∈ Relations.referenced o ∨ table ∈ tablesOf (sort.map (·.column)) := by
  rw [mem_referenced, mem_referenced, FindOptions.sortedBy]
  simp only [tablesOf_append, h, List.map_nil, List.append_nil, List.mem_append]
  exact or_right_comm

theorem request?_sortedBy {table : String} {r : RelationRequest} (h : o.request? table = some r) :
    (o.sortedBy sort added).request? table = some r := by
  rw [FindOptions.request?] at h
  rw [FindOptions.request?, FindOptions.sortedBy, List.find?_append, h]
  rfl

end Engine

/-! ### What a sort adds to a statement -/

namespace SqlRead

open Engine Introspection

variable {caps : Capabilities} {o : FindOptions} {sort : List SortCondition}
  {added : List RelationRequest} {joinAll : Bool}

/-- The relations to one row that the columns of the sort are of are joined without it. -/
def JoinedUnsorted (o o' : FindOptions) (joinAll : Bool) : Prop :=
  ∀ r ∈ o'.relations, r.isToOne = true → r.table ∈ tablesOf (o'.sort.map (·.column)) →
    r.table ∈ (joins o joinAll).map (·.table)

instance (o o' : FindOptions) (joinAll : Bool) : Decidable (JoinedUnsorted o o' joinAll) :=
  inferInstanceAs (Decidable (∀ r ∈ o'.relations, _))

theorem requirement_sortedBy {p : Predicate} {column : Column}
    (h : o.column? p.column = some column) :
    requirement caps (o.sortedBy sort added) p = requirement caps o p := by
  have hfound : (o.sortedBy sort added).column? p.column = o.column? p.column ∧
      toMany? (o.sortedBy sort added) p.column = toMany? o p.column := by
    rw [FindOptions.column?, FindOptions.column?, toMany?, toMany?]
    cases hsplit : splitReference? p.column with
    | none => exact ⟨rfl, rfl⟩
    | some pair =>
        obtain ⟨r, hr⟩ := FindOptions.exists_request_of_column? hsplit h
        dsimp only
        rw [hr, request?_sortedBy hr]
        exact ⟨rfl, rfl⟩
  rw [requirement, requirement, condition, condition, hfound.1, hfound.2]
  rfl

theorem joins_sortedBy (h : Adds o sort added)
    (hjoined : JoinedUnsorted o (o.sortedBy sort added) joinAll) :
    joins (o.sortedBy sort added) joinAll = joins o joinAll := by
  have hmore : ∀ r ∈ o.relations ++ added, r.isToOne = true →
      r.table ∈ tablesOf (sort.map (·.column)) →
      ∃ q ∈ o.relations, (joinAll = true ∨ q.table ∈ Relations.referenced o) ∧ q.table = r.table := by
    intro r hr htoOne hnamed
    obtain ⟨j, hj, htable⟩ := List.mem_map.mp (hjoined r hr htoOne hnamed)
    obtain ⟨q, hq, rfl⟩ := List.mem_map.mp hj
    obtain ⟨hmem, hcondition⟩ := List.mem_filter.mp hq
    simp only [Bool.and_eq_true, Bool.or_eq_true, List.contains_iff_mem] at hcondition
    exact ⟨q, hmem, hcondition.2, htable⟩
  -- A relation that is there without the sort is joined for it only if it is joined already.
  have hkept : ∀ r ∈ o.relations,
      (r.isToOne && (joinAll || (Relations.referenced (o.sortedBy sort added)).contains r.table)) =
        (r.isToOne && (joinAll || (Relations.referenced o).contains r.table)) := by
    intro r hr
    rw [Bool.eq_iff_iff]
    simp only [Bool.and_eq_true, Bool.or_eq_true, List.contains_iff_mem,
      mem_referenced_sortedBy h.unsorted]
    refine and_congr_right fun htoOne => ⟨?_, Or.imp_right .inl⟩
    rintro (hall | hnamed | hnamed)
    · exact .inl hall
    · exact .inr hnamed
    · obtain ⟨q, -, hcondition, htable⟩ := hmore r (List.mem_append_left added hr) htoOne hnamed
      exact htable ▸ hcondition
  have hnone : ∀ r ∈ added,
      ¬ (r.isToOne && (joinAll || (Relations.referenced (o.sortedBy sort added)).contains r.table)) =
        true := by
    intro r hr hcondition
    rw [Bool.and_eq_true] at hcondition
    obtain ⟨q, hq, -, htable⟩ :=
      hmore r (List.mem_append_right _ hr) hcondition.1 (h.named r hr)
    exact h.fresh r hr q hq htable
  rw [joins, joins]
  change ((o.relations ++ added).filter _).map _ = _
  rw [List.filter_append, List.filter_eq_nil_iff.mpr hnone, List.append_nil,
    List.filter_congr hkept]

/-- If all relations to one row are joined, then so are those that a sort adds. -/
theorem joins_sortedBy_all :
    joins (o.sortedBy sort added) true = joins o true ++ joins { o with relations := added } true := by
  rw [joins, joins, joins, ← List.map_append, FindOptions.sortedBy]
  simp only [Bool.true_or, Bool.and_true, List.filter_append]

/-- A sort leaves everything of a statement as it is but the joins. -/
theorem source_sortedBy (h : Adds o sort added) :
    source caps (o.sortedBy sort added) joinAll = (source caps o joinAll).map fun s =>
      { s with joins := joins (o.sortedBy sort added) joinAll } := by
  have hrequirements : o.filters.mapM (requirement caps (o.sortedBy sort added)) =
      o.filters.mapM (requirement caps o) := by
    refine mapM_congr fun p hp => ?_
    obtain ⟨column, hcolumn⟩ := h.found p hp
    exact requirement_sortedBy hcolumn
  rw [source, source]
  change Except.map _ (o.filters.mapM _) = _
  rw [hrequirements]
  cases o.filters.mapM (requirement caps o) <;> rfl

/-- **What a sort does to a count.** Of a read that was prepared from a catalog with a sort, and
without it, the count and the rows that pages are cut from are the same if the relations to one row that
the columns of the sort are of are joined without it. If all relations are joined, then the counts are
the same only in that case. -/
theorem countQuery_sorted {σ : Type}
    (responder : Dialogue.Responder StoreCall StoreCall.Answer σ)
    (catalog : String → Except EngineError Schema) (d : SqlDialect) (settings : EngineSettings)
    (label table : String) (before after : Params) (text : String) (o o' : FindOptions)
    (joinAll : Bool) (state state' : σ) (hcatalog : FromCatalog responder catalog)
    (hunsorted : ∀ entry ∈ before ++ after, entry.1 ≠ "sort")
    (hprepared : ((prepareFind settings label table (before ++ after)).run responder state).1 = .ok o)
    (hsorted : ((prepareFind settings label table (before ++ ("sort", text) :: after)).run responder
      state').1 = .ok o') :
    (JoinedUnsorted o o' joinAll →
      source d.capabilities o' joinAll = source d.capabilities o joinAll ∧
      d.countQuery o' joinAll = d.countQuery o joinAll) ∧
    ∀ q, joinAll = true → d.countQuery o joinAll = .ok q → d.countQuery o' joinAll = .ok q →
      JoinedUnsorted o o' joinAll := by
  rw [fst_run_prepareFind hcatalog] at hprepared hsorted
  obtain ⟨sort, added, hadds, rfl⟩ := exists_adds hunsorted hprepared hsorted
  refine ⟨fun hjoined => ?_, ?_⟩
  · have hsource : source d.capabilities (o.sortedBy sort added) joinAll =
        source d.capabilities o joinAll := by
      rw [source_sortedBy hadds, joins_sortedBy hadds hjoined]
      cases hs : source d.capabilities o joinAll with
      | error error => rfl
      | ok s =>
          obtain ⟨requirements, -, rfl⟩ := exists_of_map_eq_ok hs
          rfl
    exact ⟨hsource, congrArg _ hsource⟩
  · rintro q rfl hcount hcount'
    obtain ⟨s, hs, rfl⟩ := exists_of_map_eq_ok hcount
    rw [SqlDialect.countQuery, source_sortedBy hadds, hs] at hcount'
    obtain ⟨requirements, -, rfl⟩ := exists_of_map_eq_ok hs
    have hmore := Source.eq_nil_of_compile_eq (joins_sortedBy_all ▸ Except.ok.inj hcount')
    intro r hr htoOne hnamed
    rcases List.mem_append.mp hr with hr | hr
    · exact mem_tables_joins hr htoOne (.inl rfl)
    · have hmem := mem_tables_joins (o := { o with relations := added }) hr htoOne (.inl rfl)
      rw [hmore] at hmem
      cases hmem

/-- Employees with their departments are counted alike when they are sorted by department. -/
theorem countQuery_sorted_staff :
    ∃ o o' q, prepareStaff [] [("relations", "departments")] = .ok o ∧
      prepareStaff [] [("relations", "departments"), ("sort", "departments.name.desc")] = .ok o' ∧
      SqlDialect.sqlite.countQuery o true = .ok q ∧ SqlDialect.sqlite.countQuery o' true = .ok q := by
  refine ⟨_, _, _, rfl, rfl, rfl, ?_⟩
  refine ((countQuery_sorted (knowing (staff [])) (catalogOf (staff [])) .sqlite .standard "-"
    "employees" [("relations", "departments")] [] "departments.name.desc" _ _ true () ()
    (fromCatalog_knowing _) (by decide) rfl rfl).1 ?_).2
  decide +kernel

/-- Employees are joined with their departments to be counted if they are sorted by department. -/
theorem count_of_sorted_staff :
    ∃ o o' q q', prepareStaff [] [] = .ok o ∧
      prepareStaff [] [("sort", "departments.name.asc")] = .ok o' ∧
      SqlDialect.sqlite.countQuery o true = .ok q ∧ SqlDialect.sqlite.countQuery o' true = .ok q' ∧
      q.sql = "SELECT COUNT(*) AS \"total\" FROM \"employees\"" ∧
      q'.sql = "SELECT COUNT(*) AS \"total\" FROM \"employees\" INNER JOIN \"departments\"" ++
        " ON \"employees\".\"department\" = \"departments\".\"id\"" := by
  refine ⟨_, _, _, _, rfl, rfl, rfl, rfl, ?_, ?_⟩
  · decide +kernel
  · decide +kernel

end SqlRead

end DataAccess
