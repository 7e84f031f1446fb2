import DataAccess.Proofs.Query.JoinedRows

/-!
# What the expansion of relations leaves alone

Every relation that is looked up sets one field of a row, under the name of its table, and every other
field stays as it was. A lookup takes its join value from the row that the lookups before it have
added to, so a join column that is named like the table of one of these holds that table's rows by
then. Where no join column is, what a relation sets depends on the row as it was fetched, and the order
of the relations does not matter.
-/

namespace DataAccess

open Dialogue

namespace Relations

/-! ### Lookups that depend on nothing but their options -/

section Lookup

variable (found : FindOptions → Except EngineError (List Record)) (limit : Nat)

/-- The related rows for a join value, by what lookups find. Without a value other than null there are
none, and a lookup that fails counts as one that found none. -/
def foundFor (r : RelationRequest) (value : Option Json) : List Record :=
  (((value.filter fun key => !key.isNull).bind fun key => lookupOptions r key limit).bind fun o =>
    (found o).toOption).getD []

/-- The related rows of a row whose join value for a relation is given. -/
inductive RelatedRows (r : RelationRequest) : Option Json → List Record → Prop
  | missing : RelatedRows r none []
  | null : RelatedRows r (some .null) []
  | unattached {key : Json} (hnull : key.isNull = false) (hschema : r.schema? = none) :
      RelatedRows r (some key) []
  | found {key : Json} {o : FindOptions} {rows : List Record} (hnull : key.isNull = false)
      (hoptions : lookupOptions r key limit = some o) (hfound : found o = .ok rows) :
      RelatedRows r (some key) rows
  | failed {key : Json} {o : FindOptions} {error : EngineError} (hnull : key.isNull = false)
      (hoptions : lookupOptions r key limit = some o) (hfailed : found o = .error error) :
      RelatedRows r (some key) []

theorem relatedRows_foundFor (r : RelationRequest) (value : Option Json) :
    RelatedRows found limit r value (foundFor found limit r value) := by
  cases value with
  | none => exact .missing
  | some key =>
      cases hnull : key.isNull with
      | true =>
          cases key with
          | null => exact .null
          | _ => cases hnull
      | false =>
          rw [foundFor, Option.filter_some, hnull, Bool.not_false, if_pos rfl, Option.bind_some]
          cases hoptions : lookupOptions r key limit with
          | none => exact .unattached hnull (Option.map_eq_none_iff.mp hoptions)
          | some o =>
              rw [Option.bind_some]
              cases hfound : found o with
              | ok rows => exact .found hnull hoptions hfound
              | error error => exact .failed hnull hoptions hfound

/-- A row after the lookups of some relations, one after the other. -/
def expanded (row : Record) (requests : List RelationRequest) : Record :=
  requests.foldl (fun row r => row.insert r.table
    (.array ((foundFor found limit r (row.get? r.relation.orgColumn)).map .object))) row

end Lookup

section Run

variable {Request : Type} {Answer : Request → Type} {σ : Type}
  {responder : Responder Request Answer σ} {label : String} {limit : Nat}
  {lookup : FindOptions → Dialogue Request Answer (List Record)}
  {found : FindOptions → Except EngineError (List Record)}
  (hlookup : ∀ o state, ((lookup o).run responder state).1 = found o)

include hlookup

theorem fst_run_relatedRows (row : Record) (r : RelationRequest) (state : σ) :
    ((relatedRows label limit lookup row r).run responder state).1 =
      .ok (foundFor found limit r (row.get? r.relation.orgColumn)) := by
  rw [relatedRows, foundFor]
  split
  next hkey =>
    rw [hkey]
    rfl
  next hkey =>
    rw [hkey]
    rfl
  next key hnull hkey =>
    have hvalue : key.isNull = false := by
      cases key with
      | null => exact absurd rfl hnull
      | _ => rfl
    rw [hkey, Option.filter_some, hvalue, Bool.not_false, if_pos rfl, Option.bind_some]
    cases hoptions : lookupOptions r key limit with
    | none => rfl
    | some o =>
        simp only [Option.bind_some]
        rw [bind_eq_bind, run_bind, run_attempt, ← hlookup o state]
        cases ((lookup o).run responder state).1 <;> rfl

theorem fst_run_expandRow (row : Record) (requests : List RelationRequest) (state : σ) :
    ((expandRow label limit lookup row requests).run responder state).1 =
      .ok (expanded found limit row requests) := by
  induction requests generalizing row state with
  | nil => rfl
  | cons r rest ih =>
      rw [expandRow, bind_eq_bind, fst_run_bind responder _ fun related state => ih _ state,
        fst_run_relatedRows hlookup]
      rfl

theorem fst_run_expandRows (requests : List RelationRequest) (rows : List Record) (state : σ) :
    ((expandRows label limit lookup requests rows).run responder state).1 =
      .ok (rows.map (expanded found limit · requests)) := by
  induction rows generalizing state with
  | nil => rfl
  | cons row rest ih =>
      rw [expandRows, bind_eq_bind, fst_run_bind responder (fun row' =>
        .ok (row' :: rest.map (expanded found limit · requests))) fun row' state => ?_,
        fst_run_expandRow hlookup]
      · rfl
      · rw [bind_eq_bind, fst_run_bind responder (fun rows => .ok (row' :: rows)) fun _ _ => rfl, ih]
        rfl

/-- Expansion goes row by row, and it never fails. -/
theorem fst_run_expand (o : FindOptions) (rows : List Record) (joined : Bool) (state : σ) :
    ((expand label o rows limit joined lookup).run responder state).1 =
      .ok (rows.map (expanded found limit · (pending o joined))) := by
  rw [expand]
  cases pending o joined with
  | nil => exact congrArg Except.ok (List.map_id' rows).symm
  | cons r rest => exact fst_run_expandRows hlookup (r :: rest) rows state

end Run

/-! ### What lookups set and what they leave -/

section Expanded

variable {found : FindOptions → Except EngineError (List Record)} {limit : Nat}
  {requests : List RelationRequest} {row : Record}

theorem expanded_cons (r : RelationRequest) (rest : List RelationRequest) (row : Record) :
    expanded found limit row (r :: rest) =
      expanded found limit (row.insert r.table
        (.array ((foundFor found limit r (row.get? r.relation.orgColumn)).map .object))) rest :=
  rfl

theorem expanded_append (before after : List RelationRequest) (row : Record) :
    expanded found limit row (before ++ after) =
      expanded found limit (expanded found limit row before) after :=
  List.foldl_append

/-- A field that bears no name of a table stays. -/
theorem get?_expanded_of_not_mem {name : String} (h : name ∉ requests.map (·.table)) (row : Record) :
    (expanded found limit row requests).get? name = row.get? name := by
  induction requests generalizing row with
  | nil => rfl
  | cons r rest ih =>
      rw [List.map_cons, List.mem_cons, not_or] at h
      rw [expanded_cons, ih h.2, Record.get?_insert_of_ne h.1]

/-- A relation sets what was found for the join value of the row as it was fetched, unless its join
column is named like a table before it or its table is that of a relation after it. -/
theorem get?_expanded {before after : List RelationRequest} {r : RelationRequest}
    (hbefore : r.relation.orgColumn ∉ before.map (·.table)) (hafter : r.table ∉ after.map (·.table))
    (row : Record) :
    (expanded found limit row (before ++ r :: after)).get? r.table =
      some (.array ((foundFor found limit r (row.get? r.relation.orgColumn)).map .object)) := by
  rw [expanded_append, expanded_cons, get?_expanded_of_not_mem hafter, Record.get?_insert_self,
    get?_expanded_of_not_mem hbefore]

theorem sorted_expanded (h : row.Sorted) (requests : List RelationRequest) :
    (expanded found limit row requests).Sorted := by
  induction requests generalizing row with
  | nil => exact h
  | cons r rest ih => exact ih (h.insert _ _)

/-- Relations that are not in each other's way: their tables differ, and no join column is named like
the table of another one. -/
structure Independent (requests : List RelationRequest) : Prop where
  distinct : (requests.map (·.table)).Nodup
  joins : ∀ r ∈ requests, ∀ q ∈ requests, r.relation.orgColumn = q.table → r.table = q.table

theorem Independent.perm {requests' : List RelationRequest} (h : Independent requests)
    (hperm : requests.Perm requests') : Independent requests' where
  distinct := (hperm.map _).nodup_iff.mp h.distinct
  joins r hr q hq := h.joins r (hperm.mem_iff.mpr hr) q (hperm.mem_iff.mpr hq)

theorem Independent.get?_expanded (h : Independent requests) {r : RelationRequest}
    (hr : r ∈ requests) (row : Record) :
    (expanded found limit row requests).get? r.table =
      some (.array ((foundFor found limit r (row.get? r.relation.orgColumn)).map .object)) := by
  obtain ⟨before, after, rfl⟩ := List.append_of_mem hr
  have hdistinct := h.distinct
  rw [List.map_append, List.map_cons, List.nodup_append] at hdistinct
  obtain ⟨-, hrest, hapart⟩ := hdistinct
  refine Relations.get?_expanded (fun hmem => ?_) (List.nodup_cons.mp hrest).1 row
  obtain ⟨q, hq, hname⟩ := List.mem_map.mp hmem
  have htable := h.joins r hr q (List.mem_append_left _ hq) hname.symm
  exact hapart _ (List.mem_map_of_mem hq) _ List.mem_cons_self htable.symm

/-- The order of relations that are not in each other's way does not matter. -/
theorem Independent.expanded_perm {requests' : List RelationRequest} (h : Independent requests)
    (hperm : requests.Perm requests') (hrow : row.Sorted) :
    expanded found limit row requests = expanded found limit row requests' := by
  refine (sorted_expanded hrow requests).ext (sorted_expanded hrow requests') fun name => ?_
  by_cases hname : name ∈ requests.map (·.table)
  · obtain ⟨r, hr, rfl⟩ := List.mem_map.mp hname
    rw [h.get?_expanded hr, (h.perm hperm).get?_expanded (hperm.mem_iff.mp hr)]
  · rw [get?_expanded_of_not_mem hname,
      get?_expanded_of_not_mem fun hname' => hname ((hperm.map _).mem_iff.mpr hname')]

end Expanded

/-! ### What folding leaves -/

section Unflattened

variable {o : FindOptions} {name : String}

theorem names_insert? {nested after : Nested} {table column : String} {value : Json}
    (h : nested.insert? table column value = some after) :
    table ∈ nested.map (·.1) ∧ after.map (·.1) = nested.map (·.1) := by
  induction nested generalizing after with
  | nil => cases h
  | cons first rest ih =>
      obtain ⟨own, row⟩ := first
      rw [Nested.insert?] at h
      split at h
      next heq =>
        obtain rfl := Option.some.inj h
        exact ⟨List.mem_cons.mpr (.inl heq.symm), rfl⟩
      next _ =>
        obtain ⟨others, hothers, rfl⟩ := Option.map_eq_some_iff.mp h
        obtain ⟨hmem, hnames⟩ := ih hothers
        exact ⟨List.mem_cons_of_mem _ hmem, congrArg (own :: ·) hnames⟩

/-- A value is put under its name in the row unless the name is a dotted one of a nested table, and the
nested tables stay the same. -/
theorem place_cases (parts : Record × Nested) (key : String) (value : Json) :
    (place parts key value).2.map (·.1) = parts.2.map (·.1) ∧
      ((place parts key value).1 = parts.1.insert key value ∨
        isNested (parts.2.map (·.1)) key = true ∧ (place parts key value).1 = parts.1) := by
  rw [place]
  cases hsplit : splitReference? key with
  | none => exact ⟨rfl, .inl rfl⟩
  | some pair =>
      obtain ⟨table, column⟩ := pair
      dsimp only
      cases hinsert : parts.2.insert? table column value with
      | none => exact ⟨rfl, .inl rfl⟩
      | some nested =>
          obtain ⟨hmem, hnames⟩ := names_insert? hinsert
          refine ⟨hnames, .inr ⟨List.any_eq_true.mpr ⟨table, hmem, ?_⟩, rfl⟩⟩
          rw [columnIn?, hsplit, Option.bind_some]
          simp

theorem get?_foldl_place (row : Record) (parts : Record × Nested)
    (h : isNested (parts.2.map (·.1)) name = false) :
    (row.foldl (fun parts entry => place parts entry.1 entry.2) parts).2.map (·.1) =
        parts.2.map (·.1) ∧
      (row.foldl (fun parts entry => place parts entry.1 entry.2) parts).1.get? name =
        (parts.1.setAll row).get? name := by
  induction row generalizing parts with
  | nil => exact ⟨rfl, rfl⟩
  | cons entry rest ih =>
      obtain ⟨key, value⟩ := entry
      obtain ⟨hnames, hplaced⟩ := place_cases parts key value
      obtain ⟨hnames', hget⟩ := ih (place parts key value) (hnames ▸ h)
      refine ⟨hnames'.trans hnames, hget.trans ?_⟩
      rcases hplaced with hplaced | ⟨hnested, hplaced⟩
      · rw [hplaced]
        rfl
      · have hkey : name ≠ key := by
          rintro rfl
          rw [h] at hnested
          cases hnested
        rw [hplaced, Record.get?_setAll_reverse, Record.setAll, List.foldl_cons, ← Record.setAll,
          Record.get?_setAll_reverse, Record.get?_insert_of_ne hkey]

/-- Folding keeps every field that is neither under a dotted name of a relation to one row nor named
like its table. -/
theorem get?_unflattenRow {row : Record} (hrow : row.Sorted)
    (hdotted : isNested (nestedTables o) name = false) (htable : name ∉ nestedTables o) :
    (unflattenRow o row).get? name = row.get? name := by
  have hnested : ∀ (nested : Nested) (base : Record), name ∉ nested.map (·.1) →
      (nested.foldl (fun base entry => base.insert entry.1 (nestedArray entry.2)) base).get? name =
        base.get? name := by
    intro nested
    induction nested with
    | nil => exact fun _ _ => rfl
    | cons first rest ih =>
        intro base h
        rw [List.map_cons, List.mem_cons, not_or] at h
        rw [List.foldl_cons, ih _ h.2, Record.get?_insert_of_ne h.1]
  have htables : ((o.relations.filter (·.isToOne)).map fun r => (r.table, ([] : Record))).map (·.1) =
      nestedTables o := by
    rw [List.map_map]
    rfl
  rw [← htables] at hdotted
  obtain ⟨hnames, hget⟩ := get?_foldl_place row
    ([], (o.relations.filter (·.isToOne)).map fun r => (r.table, [])) hdotted
  rw [unflattenRow]
  dsimp only
  rw [hnested _ _ (hnames ▸ htables ▸ htable), hget]
  exact Record.get?_ofFields hrow.nodup name

end Unflattened

/-! ### Expansion as a map of rows -/

/-- What the lookups of some relations make of a row. -/
structure Expansion (found : FindOptions → Except EngineError (List Record)) (limit : Nat)
    (requests : List RelationRequest) (row row' : Record) : Prop where
  keeps : ∀ name, name ∉ requests.map (·.table) → row'.get? name = row.get? name
  attaches : ∀ before r after, requests = before ++ r :: after →
    r.relation.orgColumn ∉ before.map (·.table) → r.table ∉ after.map (·.table) →
    ∃ related, RelatedRows found limit r (row.get? r.relation.orgColumn) related ∧
      row'.get? r.table = some (.array (related.map .object))

/-- **Expansion is a map of rows.** It leaves every field that is not named like the table of a
relation that is looked up, and gives every relation what is found for its join value as it was
fetched, if no relation before it has set its join column and none after it has its table. Relations
that are not in each other's way can be in any order. Folding joined rows keeps every field that is
neither one of a relation to one row nor named like its table. -/
theorem expand_maps_rows {Request : Type} {Answer : Request → Type} {σ : Type}
    (responder : Responder Request Answer σ) (label : String) (limit : Nat) (joined : Bool)
    (lookup : FindOptions → Dialogue Request Answer (List Record))
    (found : FindOptions → Except EngineError (List Record)) (o : FindOptions)
    (hlookup : ∀ options state, ((lookup options).run responder state).1 = found options) :
    (∃ f : Record → Record,
      (∀ rows state, ((expand label o rows limit joined lookup).run responder state).1 =
        .ok (rows.map f)) ∧
      (∀ row, Expansion found limit (pending o joined) row (f row)) ∧
      ∀ o', o'.relations.Perm o.relations → Independent (pending o joined) →
        ∀ rows : List Record, (∀ row ∈ rows, row.Sorted) → ∀ state,
          ((expand label o' rows limit joined lookup).run responder state).1 = .ok (rows.map f)) ∧
    ∃ f : Record → Record, (∀ rows, unflatten o rows = rows.map f) ∧
      ∀ row : Record, row.Sorted → ∀ name, isNested (nestedTables o) name = false →
        name ∉ nestedTables o → (f row).get? name = row.get? name := by
  refine ⟨⟨fun row => expanded found limit row (pending o joined), ?_, ?_, ?_⟩,
    unflattenRow o, fun _ => rfl, fun row hrow name hdotted htable =>
      get?_unflattenRow hrow hdotted htable⟩
  · exact fun rows state => fst_run_expand hlookup o rows joined state
  · refine fun row => ⟨fun name hname => get?_expanded_of_not_mem hname row, ?_⟩
    intro before r after hrequests hbefore hafter
    refine ⟨_, relatedRows_foundFor found limit r _, ?_⟩
    rw [hrequests]
    exact get?_expanded hbefore hafter row
  · intro o' hperm hindependent rows hrows state
    rw [fst_run_expand hlookup]
    refine congrArg Except.ok (List.map_congr_left fun row hrow => ?_)
    exact (hindependent.expanded_perm (hperm.symm.filter _) (hrows row hrow)).symm

/-- Orders with some relations. -/
def ordersWith (relations : List RelationRequest) : FindOptions :=
  { FindOptions.ofSchema (.ofColumns "orders" [(Column.ofType "id" .number).asPrimary]) with
    relations }

def customerOfSeller : RelationRequest :=
  ⟨{ Relation.link "customer" "id" "orders" "seller" with
      schema := some (.ofColumns "customer" [(Column.ofType "id" .number).asPrimary]) }, .left, []⟩

def countryOfBuyer : RelationRequest :=
  ⟨{ Relation.link "country" "code" "orders" "buyer" with
      schema := some (.ofColumns "country" [(Column.ofType "code" .string).asPrimary]) }, .left, []⟩

def countryOfCustomer : RelationRequest :=
  ⟨{ Relation.link "country" "code" "orders" "customer" with
      schema := some (.ofColumns "country" [(Column.ofType "code" .string).asPrimary]) }, .left, []⟩

/-- Every customer is found, and no country. -/
def findCustomers (o : FindOptions) : Except EngineError (List Record) :=
  if o.table = "customer" then .ok [[("id", .int 3)]] else .error (.queryExecution "no connection")

def askNobody : Responder Empty (fun _ => Empty) Unit :=
  ⟨fun request _ => request.elim, fun _ state => state⟩

theorem independent_customer_country : Independent [customerOfSeller, countryOfBuyer] where
  distinct := by decide
  joins := by decide

/-- Of two relations one finds its row and one fails, in either order. -/
theorem expand_maps_rows_failing :
    ((expand "-" (ordersWith [countryOfBuyer, customerOfSeller])
        [[("buyer", .string "FR"), ("seller", .int 3)]] 20 false
        fun o => .ofExcept (findCustomers o)).run askNobody ()).1 =
      .ok [[("buyer", .string "FR"), ("country", .array []),
        ("customer", .array [.object [("id", .int 3)]]), ("seller", .int 3)]] := by
  obtain ⟨⟨f, hf, -, hperm⟩, -⟩ := expand_maps_rows askNobody "-" 20 false
    (fun o => .ofExcept (findCustomers o)) findCustomers (ordersWith [customerOfSeller, countryOfBuyer])
    fun o state => by rw [run_ofExcept]
  rw [hperm _ (.swap _ _ _) independent_customer_country _ (by decide) (), ← hf _ ()]
  rfl

/-- Every customer and every country is found. -/
def findAll (o : FindOptions) : Except EngineError (List Record) :=
  if o.table = "customer" then .ok [[("id", .int 3)]] else .ok [[("code", .string "FR")]]

/-- A field that is named like a table is lost, here the customer of the first order. A join column
that is named like a table is read after the rows of the table were put there, so that a country is
found for the second order although it was fetched without a customer; in the other order of the
relations it is not. Folding loses such a field too. -/
theorem expansion_overwrites :
    ((expand "-" (ordersWith [customerOfSeller, countryOfCustomer])
        [[("customer", .int 7), ("seller", .int 3)], [("seller", .int 3)]] 20 false
        fun o => .ofExcept (findAll o)).run askNobody ()).1 =
      .ok [[("country", .array [.object [("code", .string "FR")]]),
          ("customer", .array [.object [("id", .int 3)]]), ("seller", .int 3)],
        [("country", .array [.object [("code", .string "FR")]]),
          ("customer", .array [.object [("id", .int 3)]]), ("seller", .int 3)]] ∧
    ((expand "-" (ordersWith [countryOfCustomer, customerOfSeller]) [[("seller", .int 3)]] 20 false
        fun o => .ofExcept (findAll o)).run askNobody ()).1 =
      .ok [[("country", .array []), ("customer", .array [.object [("id", .int 3)]]),
        ("seller", .int 3)]] ∧
    unflatten (ordersWith [customerOfSeller]) [[("customer", .int 7), ("seller", .int 3)]] =
      [[("customer", .array []), ("seller", .int 3)]] :=
  ⟨rfl, rfl, rfl⟩

end Relations

end DataAccess
