import DataAccess.Store.Call

/-!
A store that knows schemas and holds no rows, for what needs nothing but schemas.
-/

namespace DataAccess

namespace StoreCall

/-- Answers from a list of schemas. Reads find nothing, and writes have no effect. -/
def answerFrom (catalog : List Schema) : (c : StoreCall) → c.Answer
  | .getSchema table =>
    match catalog.find? fun schema => schema.table == table with
    | some schema => .ok schema
    | none => .error (.schemaNotFound table)
  | .checkConnection | .createTable _ => .ok true
  | .listTables => .ok (catalog.map (·.table))
  | .createOne .. | .updateOne .. => .ok ([] : Record)
  | .findOne _ => .ok none
  | .findMany _ => .ok []
  | .countRows _ | .deleteOne .. => .ok (0 : Nat)
  | .uniqueCheck .. => .ok UniqueVerdict.unique
  | .truncate _ => .ok ()

/-- The result of a dialogue with such a store. -/
def runWith {α : Type} (catalog : List Schema) (dialogue : StoreDialogue α) : Except EngineError α :=
  (dialogue.run ⟨fun c s => (answerFrom catalog c, s), fun _ s => s⟩ ()).1

end StoreCall

end DataAccess
