import DataAccess.Json.Writer

/-!
A value as messages show it.
-/

namespace DataAccess

namespace Json

/-- A string as it is, any other value as compact text. -/
def shown : Json → String
  | string s => s
  | other => other.compact

end Json

end DataAccess
