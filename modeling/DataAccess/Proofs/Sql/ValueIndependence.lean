import DataAccess.Proofs.Sql.Placeholders

/-!
# Values do not reach the text of a statement

Two requests of one shape, which differ in nothing but the values that they compare with or write,
compile to statements of one text. Each statement is compared with what is left of it when its values
are blanked out: a text is made of that alone, and that is made of the shape alone.
-/

namespace DataAccess

open Statement

/-! ### Shapes of requests -/

namespace Predicate

/-- A comparison without a value, or with null. -/
def comparesNull (p : Predicate) : Bool :=
  match p.operator with
  | .equals | .notEquals | .lt | .lte | .gt | .gte => p.value.all Json.isNull
  | _ => false

/-- The count of the values of a list operator. -/
def listLength (p : Predicate) : Nat := if p.operator.takesList then p.listValues.length else 0

/-- Conditions that are the same but for their values; nulls compare with nulls, and lists are of one
length. -/
structure Alike (p p' : Predicate) : Prop where
  column : p.column = p'.column
  operator : p.operator = p'.operator
  comparesNull : p.comparesNull = p'.comparesNull
  listLength : p.listLength = p'.listLength

end Predicate

/-- Lists of conditions that are alike one by one. -/
inductive FiltersAlike : List Predicate → List Predicate → Prop
  | nil : FiltersAlike [] []
  | cons {p p' : Predicate} {rest rest' : List Predicate} (h : p.Alike p')
    (hrest : FiltersAlike rest rest') : FiltersAlike (p :: rest) (p' :: rest')

/-- Requests that are the same but for their values. -/
inductive SqlBuild.Alike : SqlBuild → SqlBuild → Prop
  | select {options : FindOptions} {filters : List Predicate} (joinAll paginate : Bool)
    (h : FiltersAlike options.filters filters) :
    Alike (.select options joinAll paginate) (.select { options with filters } joinAll paginate)
  | count {options : FindOptions} {filters : List Predicate} (joinAll : Bool)
    (h : FiltersAlike options.filters filters) :
    Alike (.count options joinAll) (.count { options with filters } joinAll)
  | insert (schema : Schema) (key : String) {data data' : Record} (returnIdentity : Bool)
    (h : data.map (·.1) = data'.map (·.1)) :
    Alike (.insert schema key data returnIdentity) (.insert schema key data' returnIdentity)
  | update (schema : Schema) (key : String) {data data' : Record} (id id' : Json)
    (h : data.map (·.1) = data'.map (·.1)) :
    Alike (.update schema key data id) (.update schema key data' id')
  | delete (schema : Schema) (key : String) (id id' : Json) :
    Alike (.delete schema key id) (.delete schema key id')
  | duplicates (schema : Schema) (column : Column) (value value' : Json)
    {exclude exclude' : Option (String × Json)} (h : exclude.map (·.1) = exclude'.map (·.1)) :
    Alike (.duplicates schema column value exclude) (.duplicates schema column value' exclude')

/-! ### Blanked statements -/

/-- A piece with null in the place of its value. -/
def Piece.blank : Piece → Piece
  | .value column _ => .value column .null
  | p => p

namespace Statement

variable {d : SqlDialect}

def blank (s : Statement) : Statement := s.map Piece.blank

theorem blank_cons (p : Piece) (s : Statement) : blank (p :: s) = p.blank :: blank s := rfl

theorem blank_append (s t : Statement) : blank (s ++ t) = blank s ++ blank t := List.map_append

theorem texts_blank (d : SqlDialect) (n : Nat) (s : Statement) :
    texts d n (blank s) = texts d n s := by
  induction s generalizing n with
  | nil => rfl
  | cons p rest ih => cases p <;> simp [blank_cons, Piece.blank, texts, ih]

theorem sql_eq_of_blank_eq {s t : Statement} (h : blank s = blank t) :
    (compile d s).sql = (compile d t).sql := by
  have htexts : texts d 1 s = texts d 1 t := by
    rw [← texts_blank, h, texts_blank]
  exact congrArg String.join htexts

theorem blank_separated (separator : String) (parts : List Statement) :
    blank (separated separator parts) = separated separator (parts.map blank) := by
  induction parts with
  | nil => rfl
  | cons first rest ih =>
      cases rest with
      | nil => rfl
      | cons second rest =>
          have hparts : ∀ s : Statement, ∀ parts, separated separator (s :: second :: parts) =
              s ++ .code separator :: separated separator (second :: parts) := fun _ _ => rfl
          rw [hparts, blank_append, blank_cons, ih]
          rfl

end Statement

/-! ### Conditions -/

section Reads

variable {d : SqlDialect} {caps : Capabilities} {options : FindOptions} {p p' : Predicate}

theorem column_of_bound {column : Option Column} {value : Json} {v : BoundValue}
    (h : SqlRead.bound caps column value = .ok v) : v.column = column := by
  cases column with
  | none =>
      obtain rfl := Except.ok.inj h
      rfl
  | some c =>
      obtain ⟨coerced, -, rfl⟩ := exists_of_map_eq_ok h
      rfl

theorem blank_bound_list {column : Option Column} {values : List Json} {found : List BoundValue}
    (h : values.mapM (SqlRead.bound caps column) = .ok found) :
    found.map (fun v => blank [v.piece]) =
      List.replicate values.length [.value column .null] := by
  induction values generalizing found with
  | nil =>
      obtain rfl := Except.ok.inj h
      rfl
  | cons first rest ih =>
      rw [List.mapM_cons] at h
      obtain ⟨v, hv, hrest⟩ := exists_of_bind_eq_ok h
      obtain ⟨more, hmore, hdone⟩ := exists_of_bind_eq_ok hrest
      obtain rfl := Except.ok.inj hdone
      rw [List.map_cons, ih hmore, List.length_cons, List.replicate_succ, ← column_of_bound hv]
      rfl

/-- A comparison is a test for null, or it compares with some value for the column. -/
theorem compared_cases {ref : ColumnRef} {column : Option Column} {comparison : Comparison}
    {c : Condition} (h : SqlRead.compared caps p ref column comparison = .ok c) :
    (p.value.all Json.isNull = true ∧ c = .isNull ref (comparison == .notEqual)) ∨
      (p.value.all Json.isNull = false ∧ ∃ value, c = .compare ref comparison ⟨column, value⟩) := by
  unfold SqlRead.compared at h
  split at h
  next hvalue =>
    rw [hvalue]
    cases comparison <;> cases h <;> exact .inl ⟨rfl, rfl⟩
  next hvalue =>
    rw [hvalue]
    cases comparison <;> cases h <;> exact .inl ⟨rfl, rfl⟩
  next value hnull hvalue =>
    obtain ⟨v, hv, rfl⟩ := exists_of_map_eq_ok h
    refine .inr ⟨?_, v.value, ?_⟩
    · rw [hvalue]
      cases value with
      | null => exact absurd rfl hnull
      | _ => rfl
    · rw [← column_of_bound hv]

theorem blank_compared {ref : ColumnRef} {column : Option Column} {comparison : Comparison}
    {c c' : Condition} (hnull : p.value.all Json.isNull = p'.value.all Json.isNull)
    (h : SqlRead.compared caps p ref column comparison = .ok c)
    (h' : SqlRead.compared caps p' ref column comparison = .ok c') :
    blank (c.pieces d) = blank (c'.pieces d) := by
  rcases compared_cases h with ⟨hnone, rfl⟩ | ⟨hsome, value, rfl⟩
  · rcases compared_cases h' with ⟨-, rfl⟩ | ⟨hsome, -⟩
    · rfl
    · rw [hnone, hsome] at hnull
      cases hnull
  · rcases compared_cases h' with ⟨hnone, -⟩ | ⟨-, value', rfl⟩
    · rw [hnone, hsome] at hnull
      cases hnull
    · simp only [Condition.pieces, blank_append, blank_cons, BoundValue.piece, Piece.blank]

theorem blank_listed {ref : ColumnRef} {column : Option Column} {negated : Bool} {c c' : Condition}
    {values values' : List Json} (hlength : values.length = values'.length)
    (h : (if values.isEmpty then .ok (.always negated)
      else (values.mapM (SqlRead.bound caps column)).map (.isIn ref negated)) = Except.ok c)
    (h' : (if values'.isEmpty then .ok (.always negated)
      else (values'.mapM (SqlRead.bound caps column)).map (.isIn ref negated)) = Except.ok c') :
    blank (c.pieces d) = blank (c'.pieces d) := by
  have hempty : values.isEmpty = values'.isEmpty := by
    cases values <;> cases values' <;> first | rfl | cases hlength
  rw [← hempty] at h'
  split at h
  next htrue =>
    rw [if_pos htrue] at h'
    rw [← Except.ok.inj h, ← Except.ok.inj h']
  next hfalse =>
    rw [if_neg hfalse] at h'
    obtain ⟨found, hfound, rfl⟩ := exists_of_map_eq_ok h
    obtain ⟨found', hfound', rfl⟩ := exists_of_map_eq_ok h'
    have hvalues : (found.map fun v => [v.piece]).map blank =
        (found'.map fun v => [v.piece]).map blank := by
      rw [List.map_map, List.map_map]
      exact (blank_bound_list hfound).trans (hlength ▸ (blank_bound_list hfound').symm)
    simp only [Condition.pieces, blank_append, blank_cons, blank_separated, hvalues]

theorem blank_condition {c c' : Condition} (halike : p.Alike p')
    (h : SqlRead.condition caps options p = .ok c)
    (h' : SqlRead.condition caps options p' = .ok c') :
    blank (c.pieces d) = blank (c'.pieces d) := by
  obtain ⟨column, operator, value⟩ := p
  obtain ⟨column', operator', value'⟩ := p'
  obtain ⟨hcolumn, hoperator, hnull, hlength⟩ := halike
  obtain rfl : column = column' := hcolumn
  obtain rfl : operator = operator' := hoperator
  cases operator
  case isIn | notIn => exact blank_listed hlength h h'
  case null | notNull =>
    rw [← Except.ok.inj h, ← Except.ok.inj h']
  case like | notLike | search =>
    obtain rfl := Except.ok.inj h
    obtain rfl := Except.ok.inj h'
    simp only [Condition.pieces, Condition.likePieces, blank_append, blank_cons, Piece.blank]
  case equals | notEquals | lt | lte | gt | gte =>
    simp only [SqlRead.condition] at h h'
    exact blank_compared hnull h h'

theorem blank_requirement {r r' : Requirement} (halike : p.Alike p')
    (h : SqlRead.requirement caps options p = .ok r)
    (h' : SqlRead.requirement caps options p' = .ok r') :
    blank (r.pieces d) = blank (r'.pieces d) := by
  obtain ⟨c, hc, rfl⟩ := exists_of_map_eq_ok h
  obtain ⟨c', hc', rfl⟩ := exists_of_map_eq_ok h'
  have hcondition := blank_condition (d := d) halike hc hc'
  rw [halike.column]
  split
  · simp only [Requirement.pieces, blank_append, blank_cons, hcondition]
  · exact hcondition

/-! ### Reads -/

variable {filters : List Predicate} {joinAll : Bool} {source source' : Source}

theorem FiltersAlike.map_column {filters filters' : List Predicate}
    (h : FiltersAlike filters filters') : filters.map (·.column) = filters'.map (·.column) := by
  induction h with
  | nil => rfl
  | cons hp _ ih => rw [List.map_cons, List.map_cons, ih, hp.column]

theorem blank_requirements {filters filters' : List Predicate} {found found' : List Requirement}
    (halike : FiltersAlike filters filters')
    (h : filters.mapM (SqlRead.requirement caps options) = .ok found)
    (h' : filters'.mapM (SqlRead.requirement caps options) = .ok found') :
    (found.map (Requirement.pieces d)).map blank = (found'.map (Requirement.pieces d)).map blank := by
  induction halike generalizing found found' with
  | nil =>
      obtain rfl := Except.ok.inj h
      obtain rfl := Except.ok.inj h'
      rfl
  | cons hp _ ih =>
      rw [List.mapM_cons] at h h'
      obtain ⟨r, hr, hrest⟩ := exists_of_bind_eq_ok h
      obtain ⟨r', hr', hrest'⟩ := exists_of_bind_eq_ok h'
      obtain ⟨more, hmore, hdone⟩ := exists_of_bind_eq_ok hrest
      obtain ⟨more', hmore', hdone'⟩ := exists_of_bind_eq_ok hrest'
      obtain rfl := Except.ok.inj hdone
      obtain rfl := Except.ok.inj hdone'
      simp only [List.map_cons, ih hmore hmore', blank_requirement hp hr hr']

theorem blank_wherePieces {found found' : List Requirement}
    (h : (found.map (Requirement.pieces d)).map blank =
      (found'.map (Requirement.pieces d)).map blank) :
    blank (Source.wherePieces d found) = blank (Source.wherePieces d found') := by
  cases found with
  | nil =>
    cases found' with
    | nil => rfl
    | cons first' rest' => cases h
  | cons first rest =>
    cases found' with
    | nil => cases h
    | cons first' rest' => simp only [Source.wherePieces, blank_cons, blank_separated, h]

theorem referenced_alike (h : FiltersAlike options.filters filters) :
    Relations.referenced { options with filters } = Relations.referenced options := by
  rw [Relations.referenced, Relations.referenced, h.map_column]

theorem blank_source (halike : FiltersAlike options.filters filters)
    (h : SqlRead.source caps options joinAll = .ok source)
    (h' : SqlRead.source caps { options with filters } joinAll = .ok source') :
    blank (source.pieces d) = blank (source'.pieces d) := by
  obtain ⟨found, hfound, rfl⟩ := exists_of_map_eq_ok h
  obtain ⟨found', hfound', rfl⟩ := exists_of_map_eq_ok h'
  have hwhere := blank_wherePieces (blank_requirements (d := d) halike hfound hfound')
  have hjoins : SqlRead.joins { options with filters } joinAll = SqlRead.joins options joinAll := by
    rw [SqlRead.joins, SqlRead.joins, referenced_alike halike]
  simp only [Source.pieces, hjoins, blank_append, hwhere]
  rfl

theorem blank_paged {body body' : Statement} (h : blank body = blank body')
    (order : List OrderTerm) (limit offset : Nat) :
    blank (Select.paged d body order limit offset) =
      blank (Select.paged d body' order limit offset) := by
  rw [Select.paged, Select.paged]
  cases d.paginationStyle with
  | limitOffset | offsetFetch | rowNumber => simp only [blank_append, h]

theorem blank_pieces {items : List Selected} {order : List OrderTerm} {page : Option (Nat × Nat)}
    (h : blank (source.pieces d) = blank (source'.pieces d)) :
    blank (Select.pieces d ⟨items, source, order, page⟩) =
      blank (Select.pieces d ⟨items, source', order, page⟩) := by
  cases page with
  | none => simp only [Select.pieces, blank_append, h]
  | some page =>
      refine blank_paged ?_ order page.1 page.2
      simp only [blank_append, h]

theorem lookupKeys_filters (options : FindOptions) (filters : List Predicate) (joinAll : Bool)
    (relations : List RelationRequest) (found : List String) :
    SqlRead.lookupKeys { options with filters } joinAll relations found =
      SqlRead.lookupKeys options joinAll relations found := by
  induction relations generalizing found with
  | nil => rfl
  | cons q rest ih => simp only [SqlRead.lookupKeys, ih]

theorem blank_select {paginate : Bool} {select select' : Select}
    (halike : FiltersAlike options.filters filters)
    (h : SqlRead.select caps options joinAll paginate = .ok select)
    (h' : SqlRead.select caps { options with filters } joinAll paginate = .ok select') :
    blank (select.pieces d) = blank (select'.pieces d) := by
  obtain ⟨source, hsource, rfl⟩ := exists_of_map_eq_ok h
  obtain ⟨source', hsource', rfl⟩ := exists_of_map_eq_ok h'
  have hitems : SqlRead.items { options with filters } joinAll = SqlRead.items options joinAll := by
    rw [SqlRead.items, SqlRead.items, lookupKeys_filters]
    rfl
  rw [hitems]
  exact blank_pieces (blank_source halike hsource hsource')

end Reads

/-! ### Writes -/

section Writes

variable {d : SqlDialect} {schema : Schema} {key : String} {data data' : Record}

theorem map_eq_of_keys_eq {β : Type} {f : String × Json → β} (g : String → β)
    (hf : ∀ entry, f entry = g entry.1) (h : data.map (·.1) = data'.map (·.1)) :
    data.map f = data'.map f := by
  have hkeys : ∀ record : Record, record.map f = (record.map (·.1)).map g := by
    intro record
    rw [List.map_map]
    exact List.map_congr_left fun entry _ => hf entry
  rw [hkeys, hkeys, h]

theorem blank_insertPieces (returnIdentity : Bool) (h : data.map (·.1) = data'.map (·.1)) :
    blank (d.insertPieces schema key data returnIdentity) =
      blank (d.insertPieces schema key data' returnIdentity) := by
  have hempty : data.isEmpty = data'.isEmpty := by
    cases data <;> cases data' <;> first | rfl | cases h
  have hnames : (data.map fun entry => [Piece.name entry.1]) =
      data'.map fun entry => [Piece.name entry.1] :=
    map_eq_of_keys_eq (fun name => [.name name]) (fun _ => rfl) h
  have hvalues : (data.map fun entry => [SqlDialect.fieldValue schema entry.1 entry.2]).map blank =
      (data'.map fun entry => [SqlDialect.fieldValue schema entry.1 entry.2]).map blank := by
    rw [List.map_map, List.map_map]
    exact map_eq_of_keys_eq (fun name => [.value (schema.column? name) .null]) (fun _ => rfl) h
  rw [SqlDialect.insertPieces, SqlDialect.insertPieces, hempty]
  cases data'.isEmpty with
  | true => rfl
  | false =>
      simp only [Bool.false_eq_true, if_false, blank_append, blank_cons, blank_separated, hnames,
        hvalues]

theorem blank_updatePieces (id id' : Json) (h : data.map (·.1) = data'.map (·.1)) :
    blank (SqlDialect.updatePieces schema key data id) =
      blank (SqlDialect.updatePieces schema key data' id') := by
  have hsettings : (data.map fun entry =>
        [Piece.name entry.1, .code " = ", SqlDialect.fieldValue schema entry.1 entry.2]).map blank =
      (data'.map fun entry =>
        [Piece.name entry.1, .code " = ", SqlDialect.fieldValue schema entry.1 entry.2]).map blank := by
    rw [List.map_map, List.map_map]
    exact map_eq_of_keys_eq
      (fun name => [.name name, .code " = ", .value (schema.column? name) .null]) (fun _ => rfl) h
  simp only [SqlDialect.updatePieces, blank_append, blank_separated, hsettings]
  rfl

theorem blank_duplicatesPieces (column : Column) (value value' : Json)
    {exclude exclude' : Option (String × Json)} (h : exclude.map (·.1) = exclude'.map (·.1)) :
    blank (SqlDialect.duplicatesPieces schema column value exclude) =
      blank (SqlDialect.duplicatesPieces schema column value' exclude') := by
  cases exclude with
  | none =>
    cases exclude' with
    | none => rfl
    | some entry' => cases h
  | some entry =>
    cases exclude' with
    | none => cases h
    | some entry' =>
        obtain ⟨name, id⟩ := entry
        obtain ⟨name', id'⟩ := entry'
        obtain rfl : name = name' := Option.some.inj h
        rfl

end Writes

/-- **Values do not reach the text.** Requests that differ in nothing but their values, nulls standing
for nulls and lists for lists of the same length, have the same text in every dialect, whenever both
of them have one. -/
theorem SqlBuild.sql_eq_of_alike (d : SqlDialect) (b b' : SqlBuild) (q q' : CompiledQuery)
    (halike : b.Alike b') (h : b.query d = .ok q) (h' : b'.query d = .ok q') : q.sql = q'.sql := by
  cases halike with
  | select joinAll paginate hfilters =>
      obtain ⟨select, hselect, rfl⟩ := exists_of_map_eq_ok h
      obtain ⟨select', hselect', rfl⟩ := exists_of_map_eq_ok h'
      exact sql_eq_of_blank_eq (blank_select hfilters hselect hselect')
  | count joinAll hfilters =>
      obtain ⟨source, hsource, rfl⟩ := exists_of_map_eq_ok h
      obtain ⟨source', hsource', rfl⟩ := exists_of_map_eq_ok h'
      refine sql_eq_of_blank_eq ?_
      rw [Source.countPieces, Source.countPieces, blank_append, blank_append,
        blank_source hfilters hsource hsource']
  | insert schema key returnIdentity hkeys =>
      obtain rfl := Except.ok.inj h
      obtain rfl := Except.ok.inj h'
      exact sql_eq_of_blank_eq (blank_insertPieces returnIdentity hkeys)
  | update schema key id id' hkeys =>
      obtain rfl := Except.ok.inj h
      obtain rfl := Except.ok.inj h'
      exact sql_eq_of_blank_eq (blank_updatePieces id id' hkeys)
  | delete schema key id id' =>
      obtain rfl := Except.ok.inj h
      obtain rfl := Except.ok.inj h'
      rfl
  | duplicates schema column value value' hkeys =>
      obtain rfl := Except.ok.inj h
      obtain rfl := Except.ok.inj h'
      exact sql_eq_of_blank_eq (blank_duplicatesPieces column value value' hkeys)

/-- A quote in a list of names is bound like any other text. -/
theorem SqlBuild.sql_eq_of_alike_names :
    ∃ (options : FindOptions) (filters : List Predicate) (q q' : CompiledQuery),
      options.filters = [⟨"name", .isIn, some (.array [.string "Ann", .string "Bo"])⟩] ∧
      filters = [⟨"name", .isIn, some (.string "', Bo")⟩] ∧
      (count options false).query .postgres = .ok q ∧
      (count { options with filters } false).query .postgres = .ok q' ∧
      q.params = [.text "Ann", .text "Bo"] ∧ q'.params = [.text "'", .text "Bo"] ∧ q.sql = q'.sql := by
  let options : FindOptions :=
    { FindOptions.ofSchema (.ofColumns "users" [.ofType "name" .string]) with
      filters := [⟨"name", .isIn, some (.array [.string "Ann", .string "Bo"])⟩] }
  let filters : List Predicate := [⟨"name", .isIn, some (.string "', Bo")⟩]
  have halike : FiltersAlike options.filters filters := .cons ⟨rfl, rfl, rfl, rfl⟩ .nil
  exact ⟨options, filters, _, _, rfl, rfl, rfl, rfl, rfl, rfl,
    sql_eq_of_alike .postgres _ _ _ _ (.count false halike) rfl rfl⟩

end DataAccess
