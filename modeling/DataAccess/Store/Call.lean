import DataAccess.Dialogue
import DataAccess.Json.Shown
import DataAccess.Query.Find

/-!
What every store can be asked. A store may refuse any request with an error.
-/

namespace DataAccess

inductive StoreCall
  | getSchema (table : String)
  | checkConnection
  | listTables
  | createOne (schema : Schema) (data : Record)
  | findOne (options : FindOptions)
  | findMany (options : FindOptions)
  | countRows (options : FindOptions)
  | updateOne (schema : Schema) (id : Json) (data : Record)
  /-- With a column to stamp the row is kept and the column receives the time. -/
  | deleteOne (schema : Schema) (id : Json) (stamp : Option String)
  /-- The row of the key is not its own duplicate. -/
  | uniqueCheck (schema : Schema) (data : Record) (id : Option Json)
  | createTable (schema : Schema)
  | truncate (table : String)
  deriving Repr, Inhabited

/-- The verdict on the unique columns of a payload, with a message if there is a duplicate. -/
structure UniqueVerdict where
  valid : Bool
  message : Option String
  deriving DecidableEq, Repr, Inhabited

namespace UniqueVerdict

def unique : UniqueVerdict := ⟨true, none⟩

def duplicate (column : String) (value : Json) : UniqueVerdict :=
  ⟨false, some s!"A record with {column} '{value.shown}' already exists"⟩

end UniqueVerdict

namespace StoreCall

/-- What a store gives back when it does not refuse. -/
abbrev Result : StoreCall → Type
  | getSchema _ => Schema
  | checkConnection => Bool
  | listTables => List String
  | createOne .. => Record
  | findOne _ => Option Record
  | findMany _ => List Record
  | countRows _ => Nat
  | updateOne .. => Record
  | deleteOne .. => Nat
  | uniqueCheck .. => UniqueVerdict
  | createTable _ => Bool
  | truncate _ => Unit

abbrev Answer (call : StoreCall) : Type := Except EngineError call.Result

end StoreCall

abbrev StoreDialogue := Dialogue StoreCall StoreCall.Answer

namespace StoreDialogue

/-- Asks a store, and fails if it refuses. -/
def call (c : StoreCall) : StoreDialogue c.Result :=
  (Dialogue.request c).bind fun answer => Dialogue.ofExcept answer

end StoreDialogue

end DataAccess
