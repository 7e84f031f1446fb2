import DataAccess.Proofs.Number.Digits
import DataAccess.Proofs.Rest.Truncation

/-!
# Pages cut out of a list

A service knows no offsets: it tells the records of a query from the first one on, in pages of its own
making, and stops at the most that it was asked for. A read asks for as many records as end with its
page and cuts the page out of them. Limit and offset may add up to more than can be asked for; then the
bound is the greatest count, which no list of records exceeds.
-/

namespace DataAccess

open Dialogue

namespace RestStore

/-! ### Cutting a page -/

/-- The records of a list up to a bound, if there is one. -/
def upTo {α : Type} : Option Nat → List α → List α
  | some bound, records => records.take bound
  | none, records => records

theorem map_upTo {α β : Type} (f : α → β) (bound : Option Nat) (records : List α) :
    (upTo bound records).map f = upTo bound (records.map f) := by
  cases bound with
  | none => rfl
  | some bound => exact List.map_take

/-- What is asked for reaches to the end of the page. -/
theorem take_drop_upTo_maxRecords {α : Type} (o : FindOptions) {records : List α}
    (hcount : records.length ≤ greatestCount) :
    ((upTo (maxRecords o) records).drop o.offset).take o.limit =
      (records.drop o.offset).take o.limit := by
  rw [maxRecords]
  split
  next hlimit =>
    rw [upTo, List.drop_take, List.take_take]
    by_cases hsum : o.offset + o.limit ≤ greatestCount
    · rw [Nat.min_eq_left hsum, Nat.add_sub_cancel_left, Nat.min_self]
    · -- The sum is cut to the greatest count, and there the list has ended.
      have hrest : (records.drop o.offset).length ≤ greatestCount - o.offset := by
        rw [List.length_drop]
        omega
      have hbound : greatestCount - o.offset ≤ o.limit := by omega
      rw [Nat.min_eq_right (Nat.le_of_not_le hsum), Nat.min_eq_right hbound,
        List.take_of_length_le hrest, List.take_of_length_le (Nat.le_trans hrest hbound)]
  next hlimit =>
    obtain hzero : o.limit = 0 := Nat.eq_zero_of_not_pos hlimit
    rw [hzero, List.take_zero, List.take_zero]

/-! ### A service that tells a list -/

section Service

variable {σ : Type} (s : RestStore) (transport : Responder RestRequest RestRequest.Answer σ)
  (table : String)

/-- Whatever its state, a service answers a query by some records, or by the first of them if the query
sets a bound. It may split them into pages as it likes, with empty ones among them. -/
def Tells (q : ListQuery) (records : List Json) : Prop :=
  ∀ (bound : Option Nat) (state : σ), ∃ bodies after,
    Pages transport (s.tablePath table) { q with maxRecords := bound }.params none state bodies after ∧
      bodies.length ≤ s.pageBudget ∧ bodies.flatMap listed = upTo bound records

variable {s transport table} (label : String)

theorem flatMap_pageRecords (bodies : List Json) :
    bodies.flatMap pageRecords = (bodies.flatMap listed).map flatten := by
  rw [List.map_flatMap]
  exact congrArg (List.flatMap · bodies) (funext pageRecords_eq)

theorem run_list {q : ListQuery} {records : List Json} (h : s.Tells transport table q records)
    (bound : Option Nat) (state : σ) :
    ∃ after, (s.list label table { q with maxRecords := bound }).run transport state =
      (.ok ((upTo bound records).map flatten), after) := by
  obtain ⟨entry, hlist⟩ : ∃ entry, s.list label table { q with maxRecords := bound } =
      .note entry (listPages label (s.tablePath table) { q with maxRecords := bound }.params
        s.pageBudget none) := ⟨_, rfl⟩
  obtain ⟨bodies, after, hpages, hbudget, hrecords⟩ := h bound (transport.note entry state)
  refine ⟨after, ?_⟩
  rw [hlist, Dialogue.run, (run_listPages label hpages hbudget).1, flatMap_pageRecords, hrecords]

/-- A record as callers see it. -/
def callerRow (schema : Schema) (record : Json) : Record :=
  Coercion.schemaRowInbound schema (flatten record)

/-- Without relations there is nothing to expand. -/
theorem expandAll_nil (rows : List Record) : s.expandAll label [] rows = .done rows := by
  induction rows with
  | nil => rfl
  | cons row rest ih =>
      rw [expandAll, ih]
      rfl

variable {o : FindOptions} {formula : Option Formula}

/-- The query of a read without relations, with an order and without a bound. -/
def plainQuery (o : FindOptions) (formula : Option Formula) (sort : List SortCondition) : ListQuery :=
  ⟨formula, sort, selectedFields o.fields, none⟩

theorem listQuery_eq_plainQuery (hrelations : o.relations = [])
    (hformula : Formula.ofPredicates o.schema o.filters = .ok formula) :
    listQuery o = .ok (plainQuery o formula o.sort) := by
  have hfields : listedFields o = selectedFields o.fields := by
    rw [listedFields, hrelations]
    split
    next hempty => exact (List.isEmpty_iff.mp hempty).symm
    next _ => rfl
  rw [listQuery, hformula, hfields]
  rfl

theorem fetch_eq (hrelations : o.relations = [])
    (hformula : Formula.ofPredicates o.schema o.filters = .ok formula) :
    s.fetch label o =
      (s.list label o.table { plainQuery o formula o.sort with maxRecords := maxRecords o }).bind
        fun rows =>
          .done (((rows.drop o.offset).take o.limit).map (Coercion.schemaRowInbound o.schema)) := by
  rw [fetch, listQuery_eq_plainQuery hrelations hformula, hrelations]
  simp only [expandAll_nil]
  rfl

theorem countRows_eq (hrelations : o.relations = [])
    (hformula : Formula.ofPredicates o.schema o.filters = .ok formula) :
    s.countRows label o =
      (s.list label o.table { plainQuery o formula [] with maxRecords := none }).bind fun rows =>
        .done rows.length := by
  rw [countRows, listQuery_eq_plainQuery hrelations hformula]
  rfl

/-- A page is a slice of the records told. -/
theorem run_fetch {records : List Json} (hrelations : o.relations = [])
    (hformula : Formula.ofPredicates o.schema o.filters = .ok formula)
    (htells : s.Tells transport o.table (plainQuery o formula o.sort) records)
    (hcount : records.length ≤ greatestCount) (state : σ) :
    ∃ after, (s.fetch label o).run transport state =
      (.ok (((records.drop o.offset).take o.limit).map (callerRow o.schema)), after) := by
  obtain ⟨after, hlist⟩ := run_list label htells (maxRecords o) state
  refine ⟨after, ?_⟩
  have hlength : (records.map flatten).length ≤ greatestCount := by rwa [List.length_map]
  rw [fetch_eq label hrelations hformula, (run_transcript_bind transport hlist _).1, map_upTo,
    Dialogue.run, take_drop_upTo_maxRecords o hlength, ← List.map_drop, ← List.map_take, List.map_map]
  rfl

/-- **Pagination is an exact slice.** Of a service that answers a query by a list of records, cut to
the most that it is asked for and split into pages in any way, a read without relations returns the
records from its offset on, as many as its limit says or as there are. A read of one row returns the
first, and a count counts all, though it asks for no order and may find another. -/
theorem page_slices {records : List Json} (hrelations : o.relations = [])
    (hformula : Formula.ofPredicates o.schema o.filters = .ok formula)
    (htells : s.Tells transport o.table (plainQuery o formula o.sort) records)
    (hunsorted : ∃ unsorted, unsorted.Perm records ∧
      s.Tells transport o.table (plainQuery o formula []) unsorted)
    (hcount : records.length ≤ greatestCount) (state : σ) :
    ((s.fetch label o).run transport state).1 =
        .ok (((records.drop o.offset).take o.limit).map (callerRow o.schema)) ∧
      ((s.findOne label o).run transport state).1 = .ok (records.head?.map (callerRow o.schema)) ∧
      ((s.countRows label o).run transport state).1 = .ok records.length := by
  refine ⟨?_, ?_, ?_⟩
  · obtain ⟨after, hfetch⟩ := run_fetch label hrelations hformula htells hcount state
    rw [hfetch]
  · obtain ⟨after, hfetch⟩ := run_fetch (o := { o with limit := 1, offset := 0 }) label hrelations
      hformula htells hcount state
    rw [findOne, bind_eq_bind, (run_transcript_bind transport hfetch _).1]
    cases records <;> rfl
  · -- A count is of the records in whatever order comes without one.
    obtain ⟨unsorted, hperm, hunsorted⟩ := hunsorted
    obtain ⟨after, hlist⟩ := run_list label hunsorted none state
    rw [countRows_eq label hrelations hformula, (run_transcript_bind transport hlist _).1,
      Dialogue.run, List.length_map, upTo, hperm.length_eq]

end Service

/-! ### A service that sorts backwards -/

/-- The bound that a query sets. -/
def bound? (query : List (String × String)) : Option Nat :=
  (query.find? (·.1 == "maxRecords")).map fun pair => Decimal.valueOf pair.2.toList

/-- A service that tells its records backwards to a query with an order, and an empty page before
them. -/
def backwards (records : List Json) : Responder RestRequest RestRequest.Answer Unit where
  answer request _ :=
    match request with
    | .send .get _ query _ =>
      let sorted := if query.any (·.1 == "sort[0][field]") then records.reverse else records
      (.ok (if query.any (·.1 == "offset") then pageOf (upTo (bound? query) sorted) none
        else pageOf [] (some "rest")), ())
    | .send _ _ _ _ => (.ok (.object []), ())
    | .now => (default, ())
  note _ state := state

theorem params_maxRecords (q : ListQuery) (bound : Option Nat) :
    { q with maxRecords := bound }.params = { q with maxRecords := none }.params ++
      (bound.map fun n => ("maxRecords", ListQuery.number n)).toList := by
  cases bound <;> simp [ListQuery.params]

theorem bound?_append {params : List (String × String)} (bound : Option Nat) (token : Option String)
    (hfree : params.find? (·.1 == "maxRecords") = none) :
    bound? (pageParams (params ++ (bound.map fun n => ("maxRecords", ListQuery.number n)).toList)
      token) = bound := by
  cases bound with
  | none => cases token <;> simp [bound?, pageParams, hfree]
  | some n =>
      have hnumber : Decimal.valueOf (ListQuery.number n).toList = n := by
        rw [ListQuery.number, String.toList_ofList, Decimal.valueOf_digitChars]
      cases token <;> simp [bound?, pageParams, hfree, hnumber]

theorem tells_backwards {s : RestStore} (table : String) {q : ListQuery} (sorted : Bool)
    (records : List Json) (hbudget : 2 ≤ s.pageBudget)
    (hmax : ({ q with maxRecords := none } : ListQuery).params.find? (·.1 == "maxRecords") = none)
    (hoffset : ({ q with maxRecords := none } : ListQuery).params.any (·.1 == "offset") = false)
    (hsorted : ({ q with maxRecords := none } : ListQuery).params.any (·.1 == "sort[0][field]") =
      sorted) :
    s.Tells (backwards records) table q (if sorted then records.reverse else records) := by
  intro bound _
  have hanswer : ∀ token, (backwards records).answer (.send .get (s.tablePath table)
      (pageParams { q with maxRecords := bound }.params token) none) () =
        (.ok (if token.isSome then
          pageOf (upTo bound (if sorted then records.reverse else records)) none
            else pageOf [] (some "rest")), ()) := by
    intro token
    rw [params_maxRecords]
    simp only [backwards]
    rw [bound?_append bound token hmax]
    cases bound <;> cases token <;> simp [pageParams, hoffset, hsorted]
  refine ⟨[pageOf [] (some "rest"), pageOf _ none], (), .more (hanswer none) rfl
    (.last (hanswer (some "rest")) rfl), hbudget, ?_⟩
  rw [List.flatMap_cons, List.flatMap_cons, List.flatMap_nil, List.append_nil]
  rfl

/-- The notes of the greatest names first, from the second on. -/
theorem page_slices_past_greatest :
    let s : RestStore := ⟨"app", .standard, 2⟩
    let records := ["a", "b", "c"].map fun name => recordOf ("rec" ++ name) [("Name", .string name)]
    let o : FindOptions :=
      { FindOptions.ofSchema (.ofColumns "Notes" [.ofType "id" .string, .ofType "Name" .string]) with
        sort := [⟨"Name", .descending⟩], limit := greatestCount, offset := 1 }
    let row (name : String) : Record := [("Name", .string name), ("id", .string ("rec" ++ name))]
    greatestCount < o.offset + o.limit ∧
      ((s.fetch "main" o).run (backwards records) ()).1 = .ok [row "b", row "a"] ∧
      ((s.findOne "main" o).run (backwards records) ()).1 = .ok (some (row "c")) ∧
      ((s.countRows "main" o).run (backwards records) ()).1 = .ok 3 := by
  intro s records o row
  have htells : s.Tells (backwards records) o.table (plainQuery o none o.sort) records.reverse :=
    tells_backwards "Notes" true records (Nat.le_refl 2) (by decide +kernel)
      (by decide +kernel) (by decide +kernel)
  have hunsorted : s.Tells (backwards records) o.table (plainQuery o none []) records :=
    tells_backwards "Notes" false records (Nat.le_refl 2) (by decide +kernel)
      (by decide +kernel) (by decide +kernel)
  obtain ⟨hpage, hfirst, htotal⟩ := page_slices "main" rfl rfl htells
    ⟨records, (List.reverse_perm records).symm, hunsorted⟩ (by decide) ()
  refine ⟨by decide, hpage.trans ?_, hfirst.trans ?_, htotal⟩
  · exact congrArg Except.ok (by decide +kernel)
  · exact congrArg Except.ok (by decide +kernel)

end RestStore

end DataAccess
