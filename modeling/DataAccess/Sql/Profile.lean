import DataAccess.Sql.Definition
import DataAccess.Sql.Introspection

/-!
A dialect's profile as data: what it can do, and the fixed statements it uses.
-/

namespace DataAccess

namespace PaginationStyle

def name : PaginationStyle → String
  | limitOffset => "LimitOffset"
  | offsetFetch => "OffsetFetch"
  | rowNumber => "RowNum"

end PaginationStyle

namespace IdentityReturn

def name : IdentityReturn → String
  | returning => "Returning"
  | lastInsertId => "LastInsertId"
  | scopeIdentity => "ScopeIdentity"
  | returningInto => "ReturningInto"

end IdentityReturn

namespace CatalogStatements

def toJson (c : CatalogStatements) : Json :=
  .object
    [("columns", .string c.columns), ("forward_keys", .string c.forwardKeys),
      ("backward_keys", .string c.backwardKeys), ("tables", .string c.tables)]

end CatalogStatements

namespace SqlDialect

def profile (d : SqlDialect) : Json :=
  .object
    [("name", .string d.name), ("native_boolean", .bool d.capabilities.nativeBoolean),
      ("native_json", .bool d.capabilities.nativeJson),
      ("pagination_style", .string d.paginationStyle.name),
      ("identity_return", .string d.identityReturn.name),
      ("enum_check_constraints", .bool d.checksEnums),
      ("alter_foreign_keys", .bool d.altersForeignKeys),
      ("like_wildcards", .string (String.ofList d.wildcards)), ("ping_sql", .string d.ping),
      ("catalog", d.catalog.toJson)]

end SqlDialect

end DataAccess
