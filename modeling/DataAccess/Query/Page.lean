import DataAccess.Json.Decode
import DataAccess.Json.Reader
import DataAccess.Number.Reader
import DataAccess.Query.Find
import DataAccess.Query.Params
import DataAccess.Text.Base64
import DataAccess.Text.Utf8

/-!
Positions in a result and the links between its pages. A cursor is a position as JSON text in base64.
-/

namespace DataAccess

structure PageCursor where
  limit : Nat
  offset : Nat
  deriving DecidableEq, Repr, Inhabited

namespace PageCursor

def toJson (c : PageCursor) : Json :=
  .object [("limit", .nat c.limit), ("offset", .nat c.offset)]

def encode (c : PageCursor) : String :=
  String.ofList (Base64.encode (Utf8.encode c.toJson.compactChars))

def members : List String := ["limit", "offset"]

/-- Both counts, as a pair or by name; each name stands once. -/
def ofJson? (value : Json) : Option PageCursor := do
  let fields ← Json.Decode.members? members value
  let limit ← Json.Decode.field? fields "limit" (Json.Decode.word? 64)
  let offset ← Json.Decode.field? fields "offset" (Json.Decode.word? 64)
  return ⟨limit, offset⟩

def decode (text : String) : Except EngineError PageCursor :=
  match Base64.decode? (Text.trimChars text.toList) with
  | none => .error (.invalidCursor "not base64")
  | some bytes =>
    match (Json.readAsked? (.names members) (Utf8.units bytes)).bind ofJson? with
    | none => .error (.invalidCursor "not a page position")
    | some cursor => .ok cursor

end PageCursor

structure PageLinks where
  current : String
  prev : Option String
  next : Option String
  first : String
  last : String
  deriving DecidableEq, Repr, Inhabited

structure PageInfo where
  total : Nat
  page : PageLinks
  deriving DecidableEq, Repr, Inhabited

namespace PageInfo

/-- The links of a page of a result of `total` rows. A page is followed by another only if rows are
left, and preceded by one only if a whole page fits before it. -/
def ofPosition (limit offset total : Nat) : PageInfo :=
  let link (offset : Nat) : String := (PageCursor.mk limit offset).encode
  { total
    page :=
      { current := link offset
        prev := if limit ≤ offset then some (link (offset - limit)) else none
        next := if min (offset + limit) greatestCount < total then some (link (offset + limit)) else none
        first := link 0
        last := link (total - limit) } }

end PageInfo

/-- How long pages are when a request does not say, and at most. -/
structure PageLimits where
  usual : Nat
  most : Nat
  deriving DecidableEq, Repr, Inhabited

namespace PageLimits

def defaultMost : Nat := 1000

/-- The greatest length, at least one. -/
def ceiling (limits : PageLimits) : Nat := max limits.most 1

/-- A count given under a key; a blank one is as good as none. -/
def countParam (params : Params) (key : String) : Except EngineError (Option Nat) :=
  match params.get? key with
  | none => .ok none
  | some raw =>
    let text := Text.trimChars raw.toList
    if text.isEmpty then .ok none
    else
      match Decimal.readWord? text with
      | some n => .ok (some n)
      | none => .error (.invalidValue key "non-negative integer" raw)

def explicit (limits : PageLimits) (params : Params) : Except EngineError PageCursor := do
  let limit ← countParam params "limit"
  let offset ← countParam params "offset"
  return ⟨limit.getD limits.usual, offset.getD 0⟩

/-- The position that a request asks for: its cursor, or else its limit and offset. The limit is cut
to the greatest length. -/
def position (limits : PageLimits) (params : Params) : Except EngineError PageCursor := do
  let cursor ← match params.get? "page" with
    | some page => if page = "" then limits.explicit params else PageCursor.decode page
    | none => limits.explicit params
  return ⟨min cursor.limit limits.ceiling, cursor.offset⟩

end PageLimits

end DataAccess
