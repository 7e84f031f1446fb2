import DataAccess.Query.Page

/-!
Settings that every store shares.
-/

namespace DataAccess

structure EngineSettings where
  /-- The length of a page when a request does not say. -/
  defaultLimit : Nat
  maxLimit : Nat
  /-- The column that is stamped where a row would be deleted. -/
  softDeleteColumn : Option String
  /-- The collection of documents that declare relations. -/
  relationRegistry : String
  /-- Whether SQL stores read relations to one row by joins. -/
  joinRelations : Bool
  deriving DecidableEq, Repr, Inhabited

namespace EngineSettings

def standard : EngineSettings :=
  { defaultLimit := FindOptions.defaultLimit
    maxLimit := PageLimits.defaultMost
    softDeleteColumn := none
    relationRegistry := "_relations"
    joinRelations := true }

def pageLimits (s : EngineSettings) : PageLimits := ⟨s.defaultLimit, s.maxLimit⟩

end EngineSettings

end DataAccess
