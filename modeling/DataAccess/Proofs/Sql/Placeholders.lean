import DataAccess.Proofs.Results
import DataAccess.Proofs.Sql.ReadBindings
import DataAccess.Sql.Write

/-!
# Placeholders line up with their values

Whatever is asked of it, a dialect numbers the placeholders of a statement from left to right, and
the value at each position is that of the condition, assignment or column that the text names for
its placeholder. The text is read back character by character for this; the values are those that
the request has for its columns.
-/

namespace DataAccess

open SqlText Statement

/-- What a dialect can be asked to make a statement of, without tables to define. -/
inductive SqlBuild
  | select (options : FindOptions) (joinAll paginate : Bool)
  | count (options : FindOptions) (joinAll : Bool)
  | insert (schema : Schema) (key : String) (data : Record) (returnIdentity : Bool)
  | update (schema : Schema) (key : String) (data : Record) (id : Json)
  | delete (schema : Schema) (key : String) (id : Json)
  | duplicates (schema : Schema) (column : Column) (value : Json) (exclude : Option (String × Json))

namespace SqlBuild

def query (d : SqlDialect) : SqlBuild → Except EngineError CompiledQuery
  | select options joinAll paginate => d.selectQuery options joinAll paginate
  | count options joinAll => d.countQuery options joinAll
  | insert schema key data returnIdentity => .ok (d.insertQuery schema key data returnIdentity)
  | update schema key data id => .ok (d.updateQuery schema key data id)
  | delete schema key id => .ok (d.deleteQuery schema key id)
  | duplicates schema column value exclude => .ok (d.duplicatesQuery schema column value exclude)

/-! ### What a request binds -/

/-- A value as the column that a condition names takes it. -/
def coercedSlot (d : SqlDialect) (options : FindOptions) (column : String) (value : Json) :
    Except EngineError Slot :=
  (SqlRead.bound d.capabilities (options.column? column) value).map fun v =>
    ⟨(SqlRead.columnRef options column).names, v.value⟩

/-- A comparison with null binds nothing. -/
def comparedSlots (d : SqlDialect) (options : FindOptions) (p : Predicate) :
    Except EngineError (List Slot) :=
  match p.value with
  | none | some .null => .ok []
  | some value => (coercedSlot d options p.column value).map fun slot => [slot]

/-- The values of a condition, in their order. -/
def conditionSlots (d : SqlDialect) (options : FindOptions) (p : Predicate) :
    Except EngineError (List Slot) :=
  let reference := (SqlRead.columnRef options p.column).names
  match p.operator with
  | .null | .notNull => .ok []
  | .isIn | .notIn => p.listValues.mapM (coercedSlot d options p.column)
  | .like | .notLike => .ok [⟨reference, .text (SqlRead.patternText p)⟩]
  | .search => .ok [⟨reference, .text (containsPattern d.wildcards (SqlRead.patternText p))⟩]
  | .equals | .notEquals | .lt | .lte | .gt | .gte => comparedSlots d options p

/-- The value of a field, which is coerced already. -/
def fieldSlot (entry : String × Json) : Slot := ⟨[entry.1], .ofJson entry.2⟩

/-- The values that a request has for its columns, in the order in which it names them. -/
def slots (d : SqlDialect) : SqlBuild → Except EngineError (List Slot)
  | select options _ _ | count options _ =>
    (options.filters.mapM (conditionSlots d options)).map List.flatten
  | insert _ _ data _ => .ok (data.map fieldSlot)
  | update _ key data id => .ok (data.map fieldSlot ++ [fieldSlot (key, id)])
  | delete _ key id => .ok [fieldSlot (key, id)]
  | duplicates _ column value exclude =>
    .ok (fieldSlot (column.field, value) :: exclude.toList.map fieldSlot)

/-- The placeholder behind those of the values, for the key that an insertion gives out. -/
def outMarks (d : SqlDialect) (n : Nat) : SqlBuild → List (Option Nat)
  | insert _ _ _ returnIdentity =>
    if returnIdentity ∧ d.identityReturn = .returningInto then [shownIndex d n] else []
  | _ => []

/-- The placeholders of a text with their columns. An insertion lists the columns behind the name of
the table and the values in the same order; any other statement names a column before its values. -/
def columnsRead : SqlBuild → List Token → List (Option Nat × List String)
  | insert .., tokens => (marks tokens).zip ((namesBefore tokens).tail.map fun name => [name])
  | _, tokens => owners [] tokens

end SqlBuild

variable {d : SqlDialect}

/-! ### Conditions of reads -/

theorem mapM_eq_ok_of_mapM_eq_ok {ε α β γ : Type} {f : α → Except ε β} {g : α → Except ε γ}
    {proj : β → γ} (h : ∀ a b, f a = .ok b → g a = .ok (proj b)) {l : List α} {found : List β}
    (hfound : l.mapM f = .ok found) : l.mapM g = .ok (found.map proj) := by
  induction l generalizing found with
  | nil =>
      obtain rfl := Except.ok.inj hfound
      rfl
  | cons first rest ih =>
      rw [List.mapM_cons] at hfound ⊢
      obtain ⟨b, hb, hrest⟩ := exists_of_bind_eq_ok hfound
      obtain ⟨more, hmore, hdone⟩ := exists_of_bind_eq_ok hrest
      obtain rfl := Except.ok.inj hdone
      rw [h first b hb, ih hmore]
      rfl

namespace SqlBuild

variable {options : FindOptions} {p : Predicate} {c : Condition}

theorem coercedSlot_eq {value : Json} {v : BoundValue}
    (h : SqlRead.bound d.capabilities (options.column? p.column) value = .ok v) :
    coercedSlot d options p.column value =
      .ok ⟨(SqlRead.columnRef options p.column).names, v.value⟩ := by
  rw [coercedSlot, h]
  rfl

theorem comparedSlots_eq {comparison : Comparison}
    (h : SqlRead.compared d.capabilities p (SqlRead.columnRef options p.column)
      (options.column? p.column) comparison = .ok c) :
    comparedSlots d options p = .ok (c.slots d) := by
  unfold SqlRead.compared at h
  split at h
  next hvalue =>
    rw [comparedSlots, hvalue]
    cases comparison <;> cases h <;> rfl
  next hvalue =>
    rw [comparedSlots, hvalue]
    cases comparison <;> cases h <;> rfl
  next value hnull hvalue =>
    obtain ⟨v, hv, rfl⟩ := exists_of_map_eq_ok h
    simp only [comparedSlots, hvalue, coercedSlot_eq hv]
    rfl

theorem listedSlots_eq {negated : Bool}
    (h : (if p.listValues.isEmpty then .ok (.always negated)
      else (p.listValues.mapM (SqlRead.bound d.capabilities (options.column? p.column))).map
        (.isIn (SqlRead.columnRef options p.column) negated)) = Except.ok c) :
    p.listValues.mapM (coercedSlot d options p.column) = .ok (c.slots d) := by
  split at h
  next hempty =>
    obtain rfl := Except.ok.inj h
    rw [List.isEmpty_iff.mp hempty]
    rfl
  next _ =>
    obtain ⟨found, hfound, rfl⟩ := exists_of_map_eq_ok h
    exact mapM_eq_ok_of_mapM_eq_ok (fun _ _ hv => coercedSlot_eq hv) hfound

theorem conditionSlots_eq (h : SqlRead.condition d.capabilities options p = .ok c) :
    conditionSlots d options p = .ok (c.slots d) := by
  rw [SqlRead.condition] at h
  rw [conditionSlots]
  cases hoperator : p.operator <;> simp only [hoperator] at h ⊢
  case isIn | notIn => exact listedSlots_eq h
  case null | notNull | like | notLike | search =>
    obtain rfl := Except.ok.inj h
    rfl
  case equals | notEquals | lt | lte | gt | gte => exact comparedSlots_eq h

theorem requirementSlots_eq {r : Requirement}
    (h : SqlRead.requirement d.capabilities options p = .ok r) :
    conditionSlots d options p = .ok (r.slots d) := by
  obtain ⟨c, hc, rfl⟩ := exists_of_map_eq_ok h
  rw [conditionSlots_eq hc]
  split <;> rfl

theorem sourceSlots_eq {joinAll : Bool} {source : Source}
    (h : SqlRead.source d.capabilities options joinAll = .ok source) :
    (options.filters.mapM (conditionSlots d options)).map List.flatten = .ok (source.slots d) := by
  obtain ⟨requirements, hrequirements, rfl⟩ := exists_of_map_eq_ok h
  rw [mapM_eq_ok_of_mapM_eq_ok (fun _ _ => requirementSlots_eq) hrequirements]
  rfl

end SqlBuild

/-! ### Statements read back -/

theorem breaks_nil : Breaks d [] := by
  rintro c ⟨⟩

theorem Binds.tokens_compile {s : Statement} {slots : List Slot} {after : List String}
    (h : Binds d [] s slots after) :
    marks (tokens d (compile d s).sql) = (List.range' 1 slots.length).map (shownIndex d) ∧
      owners [] (tokens d (compile d s).sql) = Slot.numbered d 1 slots := by
  have hmarks := h.marks_scan 1 breaks_nil
  have howners := h.owners_scan 1 breaks_nil
  rw [List.append_nil] at hmarks howners
  rw [tokens, toList_compile]
  exact ⟨hmarks.trans (List.append_nil _), howners.trans (List.append_nil _)⟩

/-- A statement other than an insertion, all of whose values come after their columns. -/
theorem Owns.lines_up {s : Statement} {slots : List Slot} (h : Owns d s slots) :
    (compile d s).params = slots.map (·.value) ∧
      marks (tokens d (compile d s).sql) =
        (List.range' 1 (compile d s).params.length).map (shownIndex d) ++ [] ∧
      (owners [] (tokens d (compile d s).sql)).take (compile d s).params.length =
        Slot.numbered d 1 slots := by
  obtain ⟨after, h⟩ := h []
  obtain ⟨hmarks, howners⟩ := h.tokens_compile
  have hparams : (compile d s).params = slots.map (·.value) := h.values_eq
  refine ⟨hparams, ?_, ?_⟩
  · rw [hparams, List.length_map, List.append_nil, hmarks]
  · rw [hparams, List.length_map, howners, ← Slot.length_numbered d 1 slots, List.take_length]

/-! ### Writes -/

namespace SqlDialect

theorem owns_comparison (schema : Schema) {sign : String} (hstarts : starts sign = true)
    (hplain : sign.toList.all isPlain = true) (entry : String × Json) :
    Owns d [.name entry.1, .code sign, fieldValue schema entry.1 entry.2]
      [SqlBuild.fieldSlot entry] :=
  fun _ => ⟨[entry.1], .name (opens_code hstarts _) (.plain hplain (.value opens_nil (.nil _)))⟩

theorem owns_equality (schema : Schema) (entry : String × Json) :
    Owns d [.name entry.1, .code " = ", fieldValue schema entry.1 entry.2]
      [SqlBuild.fieldSlot entry] :=
  owns_comparison schema rfl (by decide) entry

theorem owns_updatePieces (schema : Schema) (key : String) (data : Record) (id : Json) :
    Owns d (updatePieces schema key data id)
      (data.map SqlBuild.fieldSlot ++ [SqlBuild.fieldSlot (key, id)]) := by
  have hsettings := Owns.separated (d := d) ", " rfl (by decide)
    (fun entry => [SqlBuild.fieldSlot entry]) data fun entry _ => owns_equality schema entry
  rw [← List.map_eq_flatMap] at hsettings
  have hwhere : Owns d [.code " WHERE ", .name key, .code " = ", fieldValue schema key id]
      [SqlBuild.fieldSlot (key, id)] :=
    .plain (by decide) (owns_equality schema (key, id))
  have hbody := hsettings.append hwhere (opens_code rfl _)
  exact .plain (by decide) (.name _ (opens_code rfl _) (.plain (by decide) hbody))

theorem owns_deletePieces (schema : Schema) (key : String) (id : Json) :
    Owns d (deletePieces schema key id) [SqlBuild.fieldSlot (key, id)] := by
  have hkey := owns_equality (d := d) schema (key, id)
  exact .plain (by decide) (.name _ (opens_code rfl _) (.plain (by decide) hkey))

theorem owns_duplicatesPieces (schema : Schema) (column : Column) (value : Json)
    (exclude : Option (String × Json)) :
    Owns d (duplicatesPieces schema column value exclude)
      (SqlBuild.fieldSlot (column.field, value) :: exclude.toList.map SqlBuild.fieldSlot) := by
  have hvalue : Owns d
      [.code "SELECT COUNT(*) AS ", .name Source.totalColumn, .code " FROM ", .name schema.table,
        .code " WHERE ", .name column.field, .code " = ", .value (some column) (.ofJson value)]
      [SqlBuild.fieldSlot (column.field, value)] := by
    refine .plain (by decide) (.name _ (opens_code rfl _) (.plain (by decide) ?_))
    refine .name _ (opens_code rfl _) (.plain (by decide) fun _ => ?_)
    exact ⟨[column.field], .name (opens_code rfl _) (.plain (by decide)
      (.value opens_nil (.nil _)))⟩
  cases exclude with
  | none => exact hvalue.append .nil opens_nil
  | some entry =>
      have hkey : Owns d [.name entry.1, .code " <> ", fieldValue schema entry.1 entry.2]
          [SqlBuild.fieldSlot entry] := owns_comparison schema rfl (by decide) entry
      exact hvalue.append (.plain (by decide) hkey) (opens_code rfl _)

/-! ### Insertions -/

theorem leadingNames_separated {α : Type} (name : α → String) (l : List α) (rest : Statement) :
    leadingNames (separated ", " (l.map fun x => [.name (name x)]) ++ rest) =
      l.map name ++ leadingNames rest := by
  induction l with
  | nil => rfl
  | cons first more ih =>
      cases more with
      | nil => rfl
      | cons second more => exact congrArg (name first :: ·) ih

/-- Whatever an insertion says behind its values adds nothing to its columns. -/
theorem leadingNames_append {reference after : List String} {s : Statement} {slots : List Slot}
    (h : Binds d reference s slots after) (hslots : slots ≠ []) (t : Statement) :
    leadingNames (s ++ t) = leadingNames s := by
  induction h with
  | nil => exact absurd rfl hslots
  | code _ _ ih => exact ih hslots
  | name _ _ ih => exact congrArg (_ :: ·) (ih hslots)
  | qualified _ _ ih => exact congrArg (_ :: _ :: ·) (ih hslots)
  | value _ _ _ => rfl

/-- The place where an insertion gives out the key. -/
def outPieces (d : SqlDialect) (returnIdentity : Bool) : Statement :=
  if returnIdentity ∧ d.identityReturn = .returningInto then [.out] else []

theorem values_outPieces (d : SqlDialect) (returnIdentity : Bool) :
    values (d.outPieces returnIdentity) = [] := by
  rw [outPieces]
  split <;> rfl

theorem marks_outPieces (d : SqlDialect) (n : Nat) (returnIdentity : Bool) :
    Breaks d (chars d n (d.outPieces returnIdentity)) ∧
      marks (scan d (.code .plain) (chars d n (d.outPieces returnIdentity))) =
        if returnIdentity ∧ d.identityReturn = .returningInto then [shownIndex d n] else [] := by
  rw [outPieces]
  by_cases hout : returnIdentity ∧ d.identityReturn = .returningInto
  · -- One dialect alone gives the key out at a placeholder.
    simp only [if_pos hout]
    cases d with
    | oracle =>
        have hchars : chars .oracle n [.out] =
            (SqlDialect.placeholder .oracle n none).toList ++ [] := rfl
        have htext : SqlDialect.placeholder .oracle n none = ":" ++ n.repr := rfl
        refine ⟨?_, ?_⟩
        · rw [hchars, htext, String.toList_append, List.append_nil]
          exact breaks_of_starts rfl _
        · rw [hchars, scan_placeholder breaks_nil]
          rfl
    | mysql | postgres | mssql | sqlite => cases hout.2
  · simp only [if_neg hout]
    exact ⟨breaks_nil, rfl⟩

/-- The part of an insertion that gives back the key, without the place where it comes out. -/
theorem exists_owns_identity (d : SqlDialect) (key : String) (returnIdentity : Bool) :
    ∃ s, Owns d s [] ∧ Opens d s ∧ (if returnIdentity then d.identitySuffix key else []) =
      s ++ d.outPieces returnIdentity := by
  cases returnIdentity with
  | false => exact ⟨[], .nil, opens_nil, rfl⟩
  | true =>
    cases d with
    | mysql | sqlite => exact ⟨[], .nil, opens_nil, rfl⟩
    | postgres =>
        exact ⟨_, .plain (by decide) (.name key opens_nil .nil), opens_code rfl _, rfl⟩
    | mssql =>
        exact ⟨_, .plain (by decide) (.name key opens_nil .nil), opens_code rfl _, rfl⟩
    | oracle =>
        exact ⟨[.code " RETURNING ", .name key, .code " INTO "],
          .plain (by decide) (.name key (opens_code rfl _)
            (.plain (by decide) .nil)), opens_code rfl _, rfl⟩

theorem owns_emptyInsert (d : SqlDialect) (table key : String) :
    Owns d (d.emptyInsert table key) [] := by
  cases d with
  | mysql | postgres | mssql | sqlite =>
      exact .plain (by decide) (.name _ (opens_code rfl _) (.plain (by decide) .nil))
  | oracle =>
      exact .plain (by decide) (.name _ (opens_code rfl _) (.plain (by decide)
        (.name _ (opens_code rfl _) (.plain (by decide) .nil))))

/-- An insertion of fields, without what gives back the key. -/
def insertBody (schema : Schema) (data : Record) : Statement :=
  [.code "INSERT INTO ", .name schema.table, .code " ("]
    ++ (separated ", " (data.map fun entry => [.name entry.1])
      ++ .code ") VALUES ("
      :: separated ", " (data.map fun entry => [fieldValue schema entry.1 entry.2])
      ++ [.code ")"])

theorem exists_binds_insertBody (schema : Schema) (data : Record) :
    ∃ last, Binds d [] (insertBody schema data)
      (data.map fun entry => ⟨last, .ofJson entry.2⟩) last := by
  have hnames := Owns.separated_nil (d := d) ", " rfl (by decide) data
    fun entry _ => Owns.name entry.1 opens_nil .nil
  obtain ⟨last, hnames⟩ := hnames [schema.table]
  have hvalues : Binds d last
      (.code ") VALUES ("
        :: separated ", " (data.map fun entry => [fieldValue schema entry.1 entry.2]))
      (data.map fun entry => ⟨last, .ofJson entry.2⟩) last :=
    .plain (by decide) (.values last _ _ data)
  have hend : Binds d last [.code ")"] [] last := .plain (by decide) (.nil last)
  have hlist := (hnames.append hvalues (opens_code rfl _)).append hend (opens_code rfl _)
  rw [List.nil_append, List.append_nil] at hlist
  exact ⟨last, .plain (by decide) (.name (opens_code rfl _)
    (.plain (by decide) hlist))⟩

theorem leadingNames_insertBody (schema : Schema) {data : Record} (hdata : data ≠ []) :
    leadingNames (insertBody schema data) = schema.table :: data.map (·.1) := by
  have hvalues : ∀ rest, leadingNames
      (separated ", " (data.map fun entry => [fieldValue schema entry.1 entry.2]) ++ rest) = [] := by
    intro rest
    obtain ⟨first, more, rfl⟩ := List.exists_cons_of_ne_nil hdata
    cases more <;> rfl
  refine congrArg (schema.table :: ·) ?_
  rw [List.append_assoc]
  refine (leadingNames_separated (fun entry : String × Json => entry.1) data _).trans ?_
  rw [List.cons_append, leadingNames, hvalues, List.append_nil]

/-- The values of an insertion come after all of its columns, so each belongs to the last one as far
as order goes. -/
theorem exists_binds_insertPieces (schema : Schema) (key : String) (data : Record)
    (returnIdentity : Bool) :
    ∃ s slots after, Binds d [] s slots after ∧
      slots.map (·.value) = data.map (fun entry => SqlValue.ofJson entry.2) ∧
      (data ≠ [] → leadingNames s = schema.table :: data.map (·.1)) ∧
      d.insertPieces schema key data returnIdentity = s ++ d.outPieces returnIdentity := by
  obtain ⟨suffix, hsuffix, hopens, heq⟩ := exists_owns_identity d key returnIdentity
  rw [insertPieces, heq, ← List.append_assoc]
  cases data with
  | nil =>
      obtain ⟨after, hbinds⟩ := (owns_emptyInsert d schema.table key).append hsuffix hopens []
      exact ⟨_, [], after, hbinds, rfl, absurd rfl, rfl⟩
  | cons first rest =>
      obtain ⟨last, hbody⟩ := exists_binds_insertBody (d := d) schema (first :: rest)
      obtain ⟨after, hsuffix⟩ := hsuffix last
      refine ⟨_, _, after, hbody.append hsuffix hopens, by simp, fun hdata => ?_, rfl⟩
      rw [leadingNames_append hbody (by simp), leadingNames_insertBody schema hdata]

end SqlDialect

namespace SqlBuild

theorem numbered_fieldSlots (n : Nat) (data : Record) (more : List (Option Nat)) :
    Slot.numbered d n (data.map fieldSlot) =
      ((List.range' n data.length).map (shownIndex d) ++ more).zip
        (data.map fun entry => [entry.1]) := by
  induction data generalizing n with
  | nil => rw [List.map_nil, List.map_nil, List.zip_nil_right, Slot.numbered]
  | cons first rest ih =>
      rw [List.map_cons, Slot.numbered, ih, List.length_cons, List.range'_succ]
      rfl

section Insertion

variable (schema : Schema) (key : String) (data : Record) (returnIdentity : Bool)

theorem params_insertQuery :
    (d.insertQuery schema key data returnIdentity).params =
      (data.map fieldSlot).map (·.value) := by
  obtain ⟨s, bound, after, hbinds, hvalues, -, hpieces⟩ :=
    SqlDialect.exists_binds_insertPieces (d := d) schema key data returnIdentity
  calc
    values (d.insertPieces schema key data returnIdentity) = values s := by
      rw [hpieces, values_append, SqlDialect.values_outPieces, List.append_nil]
    _ = bound.map (·.value) := hbinds.values_eq
    _ = data.map fun entry => .ofJson entry.2 := hvalues
    _ = (data.map fieldSlot).map (·.value) := by rw [List.map_map]; rfl

theorem tokens_insertQuery :
    marks (tokens d (d.insertQuery schema key data returnIdentity).sql) =
        (List.range' 1 data.length).map (shownIndex d) ++
          (insert schema key data returnIdentity).outMarks d (data.length + 1) ∧
      (data ≠ [] → namesBefore (tokens d (d.insertQuery schema key data returnIdentity).sql) =
        schema.table :: data.map (·.1)) := by
  obtain ⟨s, bound, after, hbinds, hvalues, hnames, hpieces⟩ :=
    SqlDialect.exists_binds_insertPieces (d := d) schema key data returnIdentity
  have hlength : bound.length = data.length := by
    simpa using congrArg List.length hvalues
  obtain ⟨hbreaks, hout⟩ := SqlDialect.marks_outPieces d (1 + width s) returnIdentity
  have htokens : tokens d (d.insertQuery schema key data returnIdentity).sql =
      scan d (.code .plain)
        (chars d 1 s ++ chars d (1 + width s) (d.outPieces returnIdentity)) := by
    rw [SqlDialect.insertQuery, tokens, toList_compile, hpieces, chars_append]
  rw [htokens]
  constructor
  · rw [hbinds.marks_scan 1 hbreaks, hout, hbinds.width_eq, hlength, Nat.add_comm 1]
    rfl
  · intro hdata
    have hbound : bound ≠ [] := by
      rintro rfl
      exact hdata (List.length_eq_zero_iff.mp hlength.symm)
    rw [hbinds.namesBefore_scan hbound 1 hbreaks, hnames hdata]

/-- The columns that an insertion lists are those of its placeholders, one by one. -/
theorem columnsRead_insertQuery :
    ((insert schema key data returnIdentity).columnsRead
        (tokens d (d.insertQuery schema key data returnIdentity).sql)).take data.length =
      Slot.numbered d 1 (data.map fieldSlot) := by
  obtain ⟨hmarks, hnames⟩ := tokens_insertQuery (d := d) schema key data returnIdentity
  by_cases hdata : data = []
  · -- Such an insertion names the key at most, and binds nothing.
    subst hdata
    rfl
  · have hread : (insert schema key data returnIdentity).columnsRead
          (tokens d (d.insertQuery schema key data returnIdentity).sql) =
        Slot.numbered d 1 (data.map fieldSlot) := by
      rw [columnsRead, hmarks, hnames hdata, List.tail_cons, List.map_map,
        numbered_fieldSlots 1 data ((insert schema key data returnIdentity).outMarks d _)]
      rfl
    have hlength : data.length = (Slot.numbered d 1 (data.map fieldSlot)).length := by
      rw [Slot.length_numbered, List.length_map]
    rw [hread, hlength, List.take_length]

theorem insert_lines_up :
    let b := insert schema key data returnIdentity
    let q := d.insertQuery schema key data returnIdentity
    q.params = (data.map fieldSlot).map (·.value) ∧
      marks (tokens d q.sql) = (List.range' 1 q.params.length).map (shownIndex d) ++
        b.outMarks d (q.params.length + 1) ∧
      (b.columnsRead (tokens d q.sql)).take q.params.length =
        Slot.numbered d 1 (data.map fieldSlot) := by
  intro b q
  have hparams : q.params = (data.map fieldSlot).map (·.value) :=
    params_insertQuery schema key data returnIdentity
  have hcount : q.params.length = data.length := by
    rw [hparams, List.length_map, List.length_map]
  rw [hcount]
  exact ⟨hparams, (tokens_insertQuery schema key data returnIdentity).1,
    columnsRead_insertQuery schema key data returnIdentity⟩

end Insertion

/-- **Placeholders line up with their values.** Read from left to right outside quoted names and
literals, the text of a statement has one placeholder for each parameter, numbered in their order,
and behind them only the one for a generated key. The parameters are the values that the request has
for its columns, and the column that the text names for a placeholder is the one of its value. -/
theorem placeholders_line_up (d : SqlDialect) (b : SqlBuild) (q : CompiledQuery)
    (h : b.query d = .ok q) :
    ∃ slots, b.slots d = .ok slots ∧ q.params = slots.map (·.value) ∧
      marks (tokens d q.sql) = (List.range' 1 q.params.length).map (shownIndex d) ++
        b.outMarks d (q.params.length + 1) ∧
      (b.columnsRead (tokens d q.sql)).take q.params.length = Slot.numbered d 1 slots := by
  cases b with
  | select options joinAll paginate =>
      obtain ⟨select, hselect, rfl⟩ := exists_of_map_eq_ok h
      obtain ⟨source, hsource, rfl⟩ := exists_of_map_eq_ok hselect
      exact ⟨source.slots d, sourceSlots_eq hsource, (Select.owns_pieces _).lines_up⟩
  | count options joinAll =>
      obtain ⟨source, hsource, rfl⟩ := exists_of_map_eq_ok h
      exact ⟨source.slots d, sourceSlots_eq hsource, source.owns_countPieces.lines_up⟩
  | insert schema key data returnIdentity =>
      obtain rfl := Except.ok.inj h
      exact ⟨_, rfl, insert_lines_up schema key data returnIdentity⟩
  | update schema key data id =>
      obtain rfl := Except.ok.inj h
      exact ⟨_, rfl, (SqlDialect.owns_updatePieces schema key data id).lines_up⟩
  | delete schema key id =>
      obtain rfl := Except.ok.inj h
      exact ⟨_, rfl, (SqlDialect.owns_deletePieces schema key id).lines_up⟩
  | duplicates schema column value exclude =>
      obtain rfl := Except.ok.inj h
      exact ⟨_, rfl, (SqlDialect.owns_duplicatesPieces schema column value exclude).lines_up⟩

/-- The time of an insertion is the first placeholder, though its format holds colons, and the key
comes out at the second. -/
theorem placeholders_line_up_birthday :
    ∃ q, (insert (.ofColumns "users" [.ofType "born" .date]) "id" [("born", .string "2000-01-01")]
        true).query .oracle = .ok q ∧
      q.sql = "INSERT INTO \x22users\x22 (\x22born\x22) VALUES " ++
        "(TO_TIMESTAMP(:1, 'YYYY-MM-DD HH24:MI:SS')) RETURNING \x22id\x22 INTO :2" ∧
      q.params = [.text "2000-01-01"] ∧ marks (tokens .oracle q.sql) = [some 1, some 2] ∧
      ((marks (tokens .oracle q.sql)).zip
        ((namesBefore (tokens .oracle q.sql)).tail.map fun name => [name])).take 1 =
          [(some 1, ["born"])] := by
  obtain ⟨slots, hslots, hparams, hmarks, hcolumns⟩ := placeholders_line_up .oracle
    (insert (.ofColumns "users" [.ofType "born" .date]) "id" [("born", .string "2000-01-01")] true)
    _ rfl
  obtain rfl := Except.ok.inj hslots
  exact ⟨_, rfl, by decide, hparams, hmarks, hcolumns⟩

end SqlBuild

end DataAccess
