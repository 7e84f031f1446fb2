import DataAccess.Proofs.Engine.Authorization

/-!
# Pages of a read

The page that a request gets is the page of one read, at the position that its parameters ask for and
never longer than the settings allow. Parameters that differ in nothing but the position are prepared
as the same read at another position.
-/

namespace DataAccess

open Dialogue

/-- The read at another position. -/
def FindOptions.movedTo (o : FindOptions) (c : PageCursor) : FindOptions :=
  { o with limit := c.limit, offset := c.offset }

/-- Parameters that differ in nothing but the position they ask for. -/
structure Params.SameRead (asked following : Params) : Prop where
  conditions : asked.conditions = following.conditions
  sort : asked.get? "sort" = following.get? "sort"
  fields : asked.get? "fields" = following.get? "fields"
  relations : asked.get? "relations" = following.get? "relations"

namespace Params

/-- The last value of a key is the one that counts. -/
theorem get?_append_singleton (params : Params) (key name value : String) :
    (params ++ [(name, value)]).get? key = if name = key then some value else params.get? key := by
  rw [get?, get?, List.reverse_append]
  by_cases h : name = key
  · simp [h]
  · simp [h]

theorem conditions_append_directive (params : Params) {name : String} (value : String)
    (h : name ∈ directives) : (params ++ [(name, value)]).conditions = params.conditions := by
  simp [conditions, h]

theorem SameRead.refl (a : Params) : a.SameRead a := ⟨rfl, rfl, rfl, rfl⟩

theorem SameRead.trans {a b c : Params} (hab : a.SameRead b) (hbc : b.SameRead c) :
    a.SameRead c where
  conditions := hab.conditions.trans hbc.conditions
  sort := hab.sort.trans hbc.sort
  fields := hab.fields.trans hbc.fields
  relations := hab.relations.trans hbc.relations

/-- The keys that a position is read from. -/
def positionKeys : List String := ["page", "limit", "offset"]

theorem sameRead_append {name : String} (h : name ∈ positionKeys) (params : Params)
    (value : String) : params.SameRead (params ++ [(name, value)]) := by
  have hother : ∀ key, key ∉ positionKeys →
      params.get? key = (params ++ [(name, value)]).get? key := by
    intro key hkey
    rw [get?_append_singleton, if_neg]
    rintro rfl
    exact hkey h
  have hdirective : ∀ name ∈ positionKeys, name ∈ directives := by decide
  exact ⟨(conditions_append_directive params value (hdirective name h)).symm,
    hother "sort" (by decide), hother "fields" (by decide), hother "relations" (by decide)⟩

end Params

namespace PageLimits

variable {limits : PageLimits} {params : Params}

/-- What a request says of its position, before the limit is cut. -/
def stated (limits : PageLimits) (params : Params) : Except EngineError PageCursor :=
  match params.get? "page" with
  | some page => if page = "" then limits.explicit params else PageCursor.decode page
  | none => limits.explicit params

theorem position_eq (limits : PageLimits) (params : Params) :
    limits.position params =
      (limits.stated params).map fun c => ⟨min c.limit limits.ceiling, c.offset⟩ := by
  rw [position, stated]
  cases params.get? "page" with
  | none => cases limits.explicit params <;> rfl
  | some page =>
      by_cases hpage : page = ""
      · simp only [if_pos hpage]
        cases limits.explicit params <;> rfl
      · simp only [if_neg hpage]
        cases PageCursor.decode page <;> rfl

theorem position_limit_le {c : PageCursor} (h : limits.position params = .ok c) :
    c.limit ≤ limits.ceiling := by
  rw [position_eq] at h
  obtain ⟨cursor, -, rfl⟩ := exists_of_map_eq_ok h
  exact Nat.min_le_right _ _

end PageLimits

namespace Engine

variable {settings : EngineSettings} {label table : String}

/-- A directive as it is read, or what stands for it when it is missing. -/
def directive {α : Type} (read : String → Except EngineError α) (missing : α) :
    Option String → Except EngineError α
  | some raw => read raw
  | none => .ok missing

/-- What parameters ask for, at the start of the result. -/
def readAtStart (schema : Schema) (params : Params) :
    Except EngineError (FindOptions × List RequestedRelation × List (String × String)) := do
  let filters ← Reading.filters schema params
  let sort ← directive (Reading.sort schema) [] (params.get? "sort")
  let fields ← directive (Reading.fields schema) ⟨[], []⟩ (params.get? "fields")
  let requested ← directive (Reading.relations schema) [] (params.get? "relations")
  return (⟨schema, fields.base, filters, [], sort, 0, 0⟩, requested, fields.related)

/-- The position is read last, and nothing else depends on it. -/
theorem readOptions_eq (schema : Schema) (params : Params) :
    readOptions settings schema params = (do
      let (o, rest) ← readAtStart schema params
      let c ← settings.pageLimits.position params
      return (o.movedTo c, rest)) := by
  rw [readOptions, readAtStart]
  cases params.get? "sort" <;> cases params.get? "fields" <;> cases params.get? "relations" <;>
    simp only [directive, LawfulMonad.bind_assoc, pure_bind, FindOptions.movedTo]

theorem readOptions_position {schema : Schema} {params : Params} {o : FindOptions}
    {rest : List RequestedRelation × List (String × String)}
    (h : readOptions settings schema params = .ok (o, rest)) :
    settings.pageLimits.position params = .ok ⟨o.limit, o.offset⟩ := by
  rw [readOptions_eq] at h
  obtain ⟨⟨start, own⟩, -, h⟩ := exists_of_bind_eq_ok h
  obtain ⟨c, hposition, h⟩ := exists_of_bind_eq_ok h
  obtain ⟨rfl, -⟩ := Prod.mk.inj (Except.ok.inj h)
  exact hposition

theorem readAtStart_congr {asked following : Params} (h : asked.SameRead following)
    (schema : Schema) : readAtStart schema asked = readAtStart schema following := by
  simp only [readAtStart, Reading.filters, h.conditions, h.sort, h.fields, h.relations]

/-- The same read at another position is read alike. -/
theorem readOptions_movedTo {asked following : Params} {c c' : PageCursor}
    (hread : asked.SameRead following) (hasked : settings.pageLimits.position asked = .ok c)
    (hfollowing : settings.pageLimits.position following = .ok c') (schema : Schema) :
    readOptions settings schema following =
      (readOptions settings schema asked).map fun (o, rest) => (o.movedTo c', rest) := by
  rw [readOptions_eq, readOptions_eq, readAtStart_congr hread, hasked, hfollowing]
  cases readAtStart schema following <;> rfl

/-- The same read at another position is prepared alike: no relation and no check depends on it. -/
theorem prepareFind_movedTo {asked following : Params} {c c' : PageCursor}
    (hread : asked.SameRead following) (hasked : settings.pageLimits.position asked = .ok c)
    (hfollowing : settings.pageLimits.position following = .ok c') :
    prepareFind settings label table following =
      (prepareFind settings label table asked).bind fun o => .done (o.movedTo c') := by
  rw [prepareFind, prepareFind, bind_eq_bind, bind_eq_bind, bind_assoc]
  congr 1
  funext schema
  rw [readOptions_movedTo hread hasked hfollowing]
  cases readOptions settings schema asked with
  | error error => rfl
  | ok found =>
      obtain ⟨o, requested, related⟩ := found
      change (resolveRelations label schema _ related).bind _ =
        ((resolveRelations label schema _ related).bind _).bind _
      rw [bind_assoc]
      congr 1
      funext relations
      let checked : FindOptions := { o with relations }
      change (Dialogue.ofExcept (Validation.checkFind checked)).bind
          (fun _ => .done (checked.movedTo c')) =
        ((Dialogue.ofExcept (Validation.checkFind checked)).bind fun _ => .done checked).bind
          fun o => .done (o.movedTo c')
      rw [bind_assoc]
      rfl

section Run

variable {σ : Type} {responder : Responder StoreCall StoreCall.Answer σ} {state after : σ}

/-- A read that was prepared is what its parameters say of its schema, with relations that were
attached to it, and it was checked. -/
theorem exists_of_run_prepareFind {params : Params} {o : FindOptions}
    (h : (prepareFind settings label table params).run responder state = (.ok o, after)) :
    ∃ own requested related middle,
      (StoreDialogue.call (.getSchema table)).run responder state = (.ok o.schema, middle) ∧
      readOptions settings o.schema params = .ok (own, requested, related) ∧
      (attachAll label o.schema related (addReferenced requested (Relations.referenced own))
        []).run responder middle = (.ok o.relations, after) ∧
      o = { own with relations := o.relations } ∧ Validation.checkFind o = .ok () := by
  rw [prepareFind] at h
  obtain ⟨schema, middle, hschema, h⟩ := exists_of_run_bind_eq_ok _ h
  obtain ⟨⟨own, requested, related⟩, _, hread, h⟩ := exists_of_run_bind_eq_ok _ h
  obtain ⟨relations, _, hrelations, h⟩ := exists_of_run_bind_eq_ok _ h
  obtain ⟨_, _, hcheck, h⟩ := exists_of_run_bind_eq_ok _ h
  obtain ⟨rfl, rfl⟩ := eq_of_run_done _ h
  rw [run_ofExcept] at hread hcheck
  obtain ⟨hoptions, rfl⟩ := Prod.mk.inj hread
  obtain ⟨hchecked, rfl⟩ := Prod.mk.inj hcheck
  obtain ⟨rfl, -⟩ := readOptions_ok hoptions
  exact ⟨own, requested, related, middle, hschema, hoptions, hrelations, rfl, hchecked⟩

theorem position_of_run_prepareFind {params : Params} {o : FindOptions}
    (h : (prepareFind settings label table params).run responder state = (.ok o, after)) :
    settings.pageLimits.position params = .ok ⟨o.limit, o.offset⟩ := by
  obtain ⟨own, requested, related, _, -, hread, -, ho, -⟩ := exists_of_run_prepareFind h
  have hposition := readOptions_position hread
  rw [ho]
  exact hposition

/-- A page stands at the position of its read, and its rows are none or those of one call. -/
theorem data_of_run_findPage {o : FindOptions} {page : Page}
    (h : (findPage o).run responder state = (.ok page, after)) :
    page.limit = o.limit ∧ page.offset = o.offset ∧ (page.data = [] ∨ ∃ before middle,
      (StoreDialogue.call (.findMany o)).run responder before = (.ok page.data, middle)) := by
  rw [findPage] at h
  obtain ⟨total, middle, -, h⟩ := exists_of_run_bind_eq_ok _ h
  by_cases htotal : total = 0
  · simp only [htotal, if_true] at h
    obtain ⟨rfl, -⟩ := eq_of_run_done _ h
    exact ⟨rfl, rfl, .inl rfl⟩
  · simp only [htotal, if_false] at h
    obtain ⟨data, last, hdata, h⟩ := exists_of_run_bind_eq_ok _ h
    obtain ⟨rfl, -⟩ := eq_of_run_done _ h
    exact ⟨rfl, rfl, .inr ⟨middle, last, hdata⟩⟩

/-- **One read, cut to the settings.** A request for a page is answered with the page of a read whose
limit is within the settings. -/
theorem exists_findPage_of_run {restriction : Option Restriction} {params : Params} {page : Page}
    (h : (execute settings label restriction (.findMany table params)).run responder state =
      (.ok (.page page), after)) :
    ∃ o before, o.limit ≤ settings.pageLimits.ceiling ∧
      (findPage o).run responder before = (.ok page, after) := by
  rw [execute] at h
  obtain ⟨_, middle, -, h⟩ := exists_of_run_bind_eq_ok _ h
  rw [answer] at h
  obtain ⟨o, middle, hprepared, h⟩ := exists_of_run_bind_eq_ok _ h
  obtain ⟨found, last, hfound, h⟩ := exists_of_run_bind_eq_ok _ h
  obtain ⟨hpage, rfl⟩ := Prod.mk.inj h
  obtain rfl := Response.page.inj (Except.ok.inj hpage)
  refine ⟨_, middle, ?_, hfound⟩
  exact PageLimits.position_limit_le (position_of_run_prepareFind hprepared)

end Run

end Engine

end DataAccess
