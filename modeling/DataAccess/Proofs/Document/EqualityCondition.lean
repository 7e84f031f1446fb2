import DataAccess.Engine.Basic
import DataAccess.Proofs.Document.Inference

/-!
# What a condition of equality means

A filter compares a field with the shaped value of a condition of equality, unless it reads that
value as operators. Shaping settles for most columns that it does not: it makes a wrapper or a scalar
of the value, or refuses it. Columns of texts, of structured values and of no known type keep an
object as it is, and then an object of operators is a condition of its own.
-/

namespace DataAccess

namespace Document

/-- Whether the condition that a column equals a value is read as operators. -/
def readsOperators (column : Column) (value : Json) : Bool :=
  isOperators value && keepsObjects column.type && column.extra.nativeType != some objectId

theorem isOperators_ofValue_eq {column : Column} {value expected : Json}
    (h : ofValue column value = .ok expected) :
    isOperators expected = readsOperators column value := by
  cases hexpected : isOperators expected with
  | true =>
      obtain ⟨rfl, hnative, htype⟩ := isOperators_ofValue h hexpected
      simp [readsOperators, hexpected, htype, hnative]
  | false =>
      cases hreads : readsOperators column value with
      | false => rfl
      | true =>
        -- The column keeps the object, so what is expected would be the operators themselves.
        simp only [readsOperators, Bool.and_eq_true, bne_iff_ne] at hreads
        obtain ⟨⟨hoperators, htype⟩, hnative⟩ := hreads
        cases value with
        | object fields =>
            rw [ofValue_object hnative htype] at h
            obtain rfl := Except.ok.inj h
            rw [hoperators] at hexpected
            cases hexpected
        | _ => cases hoperators

/-- **The meaning of equality.** If the condition that a column equals a value can be compiled, then
the column takes the value, in some shape. A document matches the condition exactly if its field
equals the shaped value, unless the value is an object of operators and the column keeps objects as
they are: then the field has to satisfy the operators. A column under the name that filters reserve
for conjunctions is no field at all, and its value is a list of filters. -/
theorem matchesFilter_equals (schema : Schema) (name : String) (value : Json) (compiled : Record)
    (h : filter schema [.equals name value] = .ok compiled) :
    ∃ column expected, schema.column? name = some column ∧ ofValue column value = .ok expected ∧
      (name ≠ "$and" → readsOperators column value = false → ∀ d,
        (matchesFilter d compiled = true ↔ equal (Record.get? d name) expected = true)) ∧
      (name ≠ "$and" → readsOperators column value = true → ∃ operators,
        value = .object operators ∧ ∀ d, matchesFilter d compiled =
          holdsAll (Record.get? d name) (regexOptions operators) operators) ∧
      (name = "$and" → ∀ d, matchesFilter d compiled = matchesClauses d expected) := by
  rw [filter_singleton] at h
  obtain ⟨column, expected, hcolumn, hexpected, rfl⟩ := predicateFilter_equals_eq_ok h
  have hoperators := isOperators_ofValue_eq hexpected
  refine ⟨column, expected, hcolumn, hexpected, ?_, ?_, ?_⟩
  · intro hname hreads d
    rw [hreads] at hoperators
    rw [matchesFilter_singleton hname, holds_of_not_isOperators hoperators]
  · intro hname hreads
    rw [hreads] at hoperators
    obtain ⟨rfl, -⟩ := isOperators_ofValue hexpected hoperators
    cases expected with
    | object operators =>
        refine ⟨operators, rfl, fun d => ?_⟩
        rw [matchesFilter_singleton hname, holds_of_isOperatorObject hoperators]
    | _ => cases hoperators
  · intro hname d
    rw [hname, matchesFilter, matchesFilter, if_pos rfl, Bool.and_true]

/-- A column of choices takes an object of operators for a text. -/
theorem matchesFilter_equals_role :
    filter (.ofColumns "users" [.ofType "role" .enum])
        [.equals "role" (.object [("$ne", .string "admin")])] =
          .ok [("role", .string "\x7b\"$ne\":\"admin\"\x7d")] ∧
      ∀ d, (matchesFilter d [("role", .string "\x7b\"$ne\":\"admin\"\x7d")] = true ↔
        equal (Record.get? d "role") (.string "\x7b\"$ne\":\"admin\"\x7d") = true) := by
  refine ⟨rfl, fun d => ?_⟩
  obtain ⟨column, expected, hcolumn, hexpected, hequals, -⟩ := matchesFilter_equals
    (.ofColumns "users" [.ofType "role" .enum]) "role" (.object [("$ne", .string "admin")])
    [("role", .string "\x7b\"$ne\":\"admin\"\x7d")] rfl
  obtain rfl := Option.some.inj hcolumn
  obtain rfl := Except.ok.inj hexpected
  exact hequals (by decide) rfl d

end Document

namespace DocumentStore

/-- Who deletes the account that is not the first deletes the second. -/
theorem deletion_by_operators :
    ∃ (id expected : Json) (schema : Schema) (column : Column) (own first second : Record),
      inferred ⟨"documents", .standard⟩ .accounts "accounts" = .ok schema ∧
        schema.column? "_id" = some column ∧ Document.ofValue column id = .ok expected ∧
        keyFilter schema "_id" id = .ok own ∧
        DocumentMemory.accounts.documents "accounts" = [first, second] ∧
        Document.equal (Record.get? second "_id") expected = false ∧
        Document.matchesFilter second own = true ∧
        (serve ⟨"documents", .standard⟩ default "-"
          (Engine.perform .standard none (.delete "accounts" id)) .accounts).2.documents "accounts" =
          [first] := by
  refine ⟨.object [("$ne", .string "a1")], _, _, _, _, _, _, rfl, rfl, rfl, rfl, rfl, ?_, ?_, rfl⟩
  · decide
  · decide

end DocumentStore

end DataAccess
