import DataAccess.Document.Filter
import DataAccess.Text.RegexReader

/-!
What a filter document means: which documents match it.
-/

namespace DataAccess

namespace Document

mutual

/-- The order of two values of one kind; null comes before everything. Values of different kinds and
most structured values have no order. -/
def order? : Json → Json → Option Ordering
  | .number a, .number b => a.toBinary64.compare? b.toBinary64
  | .string a, .string b => some (compare a b)
  | .bool a, .bool b => some (compare a.toNat b.toNat)
  | .object a, .object b =>
    match Json.field? b "$date" with
    | some date => orderOfDate? a date
    | none => none
  | .null, .null => some .eq
  | .null, _ => some .lt
  | _, .null => some .gt
  | _, _ => none

/-- The order of the date among some fields and another date. -/
def orderOfDate? : List (String × Json) → Json → Option Ordering
  | [], _ => none
  | (key, value) :: rest, date => if key = "$date" then order? value date else orderOfDate? rest date

end

/-- Whether the value of a field, if there is one, equals an expected value. A missing field equals
null. -/
def equal (value : Option Json) (expected : Json) : Bool :=
  match value with
  | none => expected.isNull
  | some v => (v.isNull && expected.isNull) || v.same expected
      || (order? v expected == some .eq && !v.isNull)

/-- Whether an object is one of operators and not a value. -/
def isOperatorObject (fields : List (String × Json)) : Bool :=
  !fields.isEmpty && fields.all (fun entry => isOperatorKey entry.1)
    && !Record.contains fields "$oid" && !Record.contains fields "$date"

/-- Whether a text matches an expression; nothing but a text does, and no expression that cannot be
read matches. -/
def regexHolds (pattern : String) (options : Option String) (value : Option Json) : Bool :=
  let flags := { RegexFlags.plain with ignoringCase := options.any fun o => o.toList.contains 'i' }
  match Regex.read? flags pattern.toList, value.bind Json.asString? with
  | some r, some text => r.occursIn text.toList
  | _, _ => false

def orderHolds (accepts : Ordering → Bool) (value : Option Json) (operand : Json) : Bool :=
  ((value.bind fun v => order? v operand).map accepts).getD false

def isAmong (value : Option Json) : Json → Bool
  | .array items => items.any (equal value)
  | _ => false

/-- The text under the options key of an object of operators. -/
def regexOptions (fields : List (String × Json)) : Option String :=
  (Json.field? fields "$options").bind Json.asString?

mutual

/-- Whether the value of a field satisfies a condition: equality, or every operator of an object. -/
def holds (value : Option Json) : Json → Bool
  | .object fields =>
    if isOperatorObject fields then holdsAll value (regexOptions fields) fields
    else equal value (.object fields)
  | other => equal value other

/-- Whether the value of a field satisfies every operator of a list. -/
def holdsAll (value : Option Json) (options : Option String) : List (String × Json) → Bool
  | [] => true
  | (operator, operand) :: rest =>
    (match operator with
      | "$ne" => !equal value operand
      | "$lt" => orderHolds (· == .lt) value operand
      | "$lte" => orderHolds (· != .gt) value operand
      | "$gt" => orderHolds (· == .gt) value operand
      | "$gte" => orderHolds (· != .lt) value operand
      | "$regex" => regexHolds ((operand.asString?).getD "") options value
      | "$options" => true
      | "$not" => !holds value operand
      | "$in" => isAmong value operand
      | "$nin" => !isAmong value operand
      | _ => false) && holdsAll value options rest

end

mutual

/-- Whether a document matches every entry of a filter. -/
def matchesFilter (document : Record) : List (String × Json) → Bool
  | [] => true
  | (key, condition) :: rest =>
    (if key = "$and" then matchesClauses document condition
      else holds (document.get? key) condition) && matchesFilter document rest

/-- Whether a document matches every clause of a list. -/
def matchesClauses (document : Record) : Json → Bool
  | .array clauses => matchesEach document clauses
  | _ => false

def matchesEach (document : Record) : List Json → Bool
  | [] => true
  | .object clause :: rest => matchesFilter document clause && matchesEach document rest
  | _ :: _ => false

end

end Document

end DataAccess
