import DataAccess.Dialogue.Recorded
import DataAccess.Document.Script
import DataAccess.Rest.Script
import DataAccess.Sql.Script

/-!
The three kinds of stores, each behind it a script in place of a server.
-/

namespace DataAccess

inductive ScriptedStore
  | sql (store : SqlStore) (script : SqlScript)
  | document (store : DocumentStore) (script : DocumentScript)
  | rest (store : RestStore) (script : RestScript)

namespace ScriptedStore

def name : ScriptedStore → String
  | sql store _ => store.dialect.name
  | document store _ => store.name
  | rest .. => "airtable"

/-- The result of a dialogue with a store. -/
structure Outcome (α : Type) where
  result : Except EngineError α
  store : ScriptedStore
  calls : List Json
  log : List LogEntry

/-- Runs a dialogue under a label, and records what the store asks and logs. -/
def run {α : Type} (label : String) (dialogue : StoreDialogue α) : ScriptedStore → Outcome α
  | sql store script =>
    let (result, record) := Recorded.run (SqlRequest.toJson? store.dialect)
      (SqlScript.answer store.dialect) (dialogue.interpret (store.answer label)) script
    ⟨result, .sql store record.state, record.calls, record.log⟩
  | document store script =>
    let (result, record) := Recorded.run DocumentRequest.toJson? DocumentScript.answer
      (dialogue.interpret (store.answer label)) script
    ⟨result, .document store record.state, record.calls, record.log⟩
  | rest store script =>
    let (result, record) := Recorded.run RestRequest.toJson? RestScript.answer
      (dialogue.interpret (store.answer label)) script
    ⟨result, .rest store record.state, record.calls, record.log⟩

end ScriptedStore

end DataAccess
