import DataAccess.Json.Described
import DataAccess.Query.Predicate

/-!
Permissions. A source answers for an identity, a table and an access: allow, deny, or allow the rows
in which a column has a value.
-/

namespace DataAccess

inductive Access
  | read
  | create
  | update
  | delete
  deriving DecidableEq, Repr, Inhabited

namespace Access

def all : List Access := [.read, .create, .update, .delete]

def name : Access → String
  | read => "read"
  | create => "create"
  | update => "update"
  | delete => "delete"

end Access

/-- Only rows in which the column equals the value. -/
structure Restriction where
  column : String
  value : Json
  deriving DecidableEq, Repr, Inhabited

def Restriction.predicate (r : Restriction) : Predicate := .equals r.column r.value

inductive Outcome
  | allow
  | restricted (restriction : Restriction)
  | deny
  deriving DecidableEq, Repr, Inhabited

namespace Outcome

/-- What a request has to keep to; a denial is an error. -/
def restriction (outcome : Outcome) (table : String) : Except EngineError (Option Restriction) :=
  match outcome with
  | allow => .ok none
  | restricted r => .ok (some r)
  | deny => .error (.permissionDenied table)

/-- The outcome as log lines show it. -/
def described : Outcome → String
  | allow => "Allow"
  | deny => "Deny"
  | restricted r =>
    "Restricted(Restriction \x7b column: " ++ Text.described r.column ++ ", value: "
      ++ r.value.described ++ " \x7d)"

end Outcome

namespace Restriction

/-- The condition comes last, after those of the request. -/
def addTo (r : Option Restriction) (filters : List Predicate) : List Predicate :=
  match r with
  | some r => filters ++ [r.predicate]
  | none => filters

/-- A new record gets the value. -/
def force (r : Option Restriction) (data : Record) : Record :=
  match r with
  | some r => data.insert r.column r.value
  | none => data

end Restriction

abbrev PermissionSource := (identity table : String) → Access → Except EngineError Outcome

/-- A rule of a fixed table. No identity, or no access, stands for any. -/
structure PermissionRule where
  identity : Option String
  table : String
  access : Option Access
  outcome : Outcome
  deriving DecidableEq, Repr, Inhabited

namespace PermissionRule

def applies (rule : PermissionRule) (identity table : String) (access : Access) : Bool :=
  rule.identity.all (· == identity) && rule.table == table && rule.access.all (· == access)

/-- The first rule that applies decides; without one the answer is no. -/
def source (rules : List PermissionRule) : PermissionSource := fun identity table access =>
  .ok (((rules.find? fun rule => rule.applies identity table access).map (·.outcome)).getD .deny)

end PermissionRule

end DataAccess
