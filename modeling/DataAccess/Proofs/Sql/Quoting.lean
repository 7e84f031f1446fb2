import DataAccess.Proofs.Text.Quoted
import DataAccess.Sql.Definition

/-!
# Names and literals as a dialect reads them

Every name is read back from its quotes whole, whatever stands in it and whatever follows, unless that
is a quote. So is the literal of every text, but not in mysql: there a backslash escapes the character
behind it, and literals are written without regard to that. Such a literal may end late or early, and
the rest of its text is then read as code.

The grammars are those of quotes and backslashes. That a backslash in front of a line end joins two
lines in mssql is none of them.
-/

namespace DataAccess

namespace SqlDialect

/-- Reads a text between quotes, and what follows it. -/
def takeBetween? (escapes : Bool) (opener close : Char) : List Char → Option (String × List Char)
  | [] => none
  | c :: rest =>
    if c = opener then
      (Text.takeQuoted? escapes close rest).map fun r => (String.ofList r.1, r.2)
    else none

def takeName? (d : SqlDialect) (s : List Char) : Option (String × List Char) :=
  takeBetween? false d.openQuote d.closeQuote s

/-- Whether a backslash escapes in a literal, which in mysql is so by default. -/
def hasEscapes : SqlDialect → Bool
  | mysql => true
  | postgres | mssql | oracle | sqlite => false

def takeLiteral? (d : SqlDialect) (s : List Char) : Option (String × List Char) :=
  takeBetween? d.hasEscapes '\x27' '\x27' s

/-- A text as a list of literals with commas between them. -/
inductive Lists (d : SqlDialect) : List Char → List String → Prop
  | nil : Lists d [] []
  | last {s : List Char} {v : String} (hread : d.takeLiteral? s = some (v, [])) : Lists d s [v]
  | more {s rest : List Char} {v w : String} {vs : List String}
      (hread : d.takeLiteral? s = some (v, ',' :: ' ' :: rest)) (hrest : Lists d rest (w :: vs)) :
      Lists d s (v :: w :: vs)

/-- A text whose literal says the same in the dialect. -/
def Holds (d : SqlDialect) (s : String) : Prop :=
  d.hasEscapes = true → Text.keepsBackslashes s.toList = true

section Quotes

variable {d : SqlDialect} {escapes : Bool} {opener close : Char} {s rest : List Char} {name : String}

theorem takeBetween?_eq_some_iff :
    takeBetween? escapes opener close s = some (name, rest) ↔
      ∃ inner, s = opener :: inner ∧
        Text.takeQuoted? escapes close inner = some (name.toList, rest) := by
  cases s with
  | nil => simp [takeBetween?]
  | cons c inner =>
      rw [takeBetween?]
      constructor
      · intro h
        split at h
        next hc =>
          obtain ⟨r, hread, hr⟩ := Option.map_eq_some_iff.mp h
          obtain ⟨rfl, rfl⟩ := Prod.mk.inj hr
          exact ⟨inner, congrArg (· :: inner) hc, by rw [String.toList_ofList, hread]⟩
        next => cases h
      · rintro ⟨inner, hs, hread⟩
        obtain ⟨rfl, rfl⟩ := List.cons.inj hs
        rw [if_pos rfl, hread, Option.map_some, String.ofList_toList]

theorem takeBetween?_enclosed_iff (hescapes : escapes = true → close = '\x27') :
    takeBetween? escapes opener close (Text.enclosed opener close name.toList ++ rest) =
        some (name, rest) ↔
      rest.head? ≠ some close ∧ (escapes = true → Text.keepsBackslashes name.toList = true) := by
  have hsplit : Text.enclosed opener close name.toList ++ rest =
      opener :: (Text.doubled close name.toList ++ close :: rest) := by simp [Text.enclosed]
  rw [hsplit, takeBetween?_eq_some_iff, ← Text.takeQuoted?_doubled_iff hescapes]
  constructor
  · rintro ⟨inner, hinner, hread⟩
    rwa [(List.cons.inj hinner).2]
  · exact fun hread => ⟨_, rfl, hread⟩

theorem takeBetween?_plain_iff :
    takeBetween? false opener close s = some (name, rest) ↔
      s = Text.enclosed opener close name.toList ++ rest ∧ rest.head? ≠ some close := by
  have hnever : false = true → close = '\x27' := nofun
  constructor
  · intro h
    obtain ⟨inner, rfl, hread⟩ := takeBetween?_eq_some_iff.mp h
    obtain ⟨rfl, hrest⟩ := Text.takeQuoted?_eq_some_iff.mp hread
    exact ⟨by simp [Text.enclosed], hrest⟩
  · rintro ⟨rfl, hrest⟩
    exact (takeBetween?_enclosed_iff hnever).mpr ⟨hrest, nofun⟩

theorem takeName?_quote (hrest : rest.head? ≠ some d.closeQuote) (name : String) :
    d.takeName? ((d.quote name).toList ++ rest) = some (name, rest) := by
  rw [takeName?, quote, Text.quoteIdentifier, String.toList_ofList]
  exact takeBetween?_plain_iff.mpr ⟨rfl, hrest⟩

theorem quote_injective (d : SqlDialect) : Function.Injective d.quote := by
  intro name other h
  have hread : ∀ name, d.takeName? (d.quote name).toList = some (name, []) := by
    intro name
    have hend : ([] : List Char).head? ≠ some d.closeQuote := nofun
    have hname := takeName?_quote hend name
    rwa [List.append_nil] at hname
  have hname := hread name
  rw [h, hread other] at hname
  exact (Prod.mk.inj (Option.some.inj hname)).1.symm

/-- **Names.** A reader of a dialect finds a name and a rest exactly where the quoted name stands in
front of that rest and the rest does not begin with the closing quote. So quoted names differ where
names do. -/
theorem quoted_name_read_whole (d : SqlDialect) :
    (∀ (text : List Char) (name : String) (rest : List Char),
      d.takeName? text = some (name, rest) ↔
        text = (d.quote name).toList ++ rest ∧ rest.head? ≠ some d.closeQuote) ∧
      Function.Injective d.quote := by
  refine ⟨fun text name rest => ?_, quote_injective d⟩
  rw [takeName?, quote, Text.quoteIdentifier, String.toList_ofList]
  exact takeBetween?_plain_iff

end Quotes

/-! ### Literals -/

section Literals

variable {d : SqlDialect} {s rest : List Char} {v : String} {vs : List String}

theorem takeLiteral?_iff (d : SqlDialect) (v : String) (rest : List Char) :
    d.takeLiteral? ((Text.literal v).toList ++ rest) = some (v, rest) ↔
      rest.head? ≠ some '\x27' ∧ d.Holds v := by
  rw [takeLiteral?, Text.literal, String.toList_ofList]
  exact takeBetween?_enclosed_iff fun _ => rfl

/-- The backslashes of a list of texts. -/
def backslashes (vs : List String) : Nat := (vs.flatMap String.toList).count '\\'

theorem backslashes_cons (v : String) (vs : List String) :
    backslashes (v :: vs) = v.toList.count '\\' + backslashes vs := by
  rw [backslashes, List.flatMap_cons, List.count_append, backslashes]

theorem toList_literals_cons (v w : String) (vs : List String) :
    (Text.join ", " ((v :: w :: vs).map Text.literal)).toList =
      (Text.literal v).toList ++
        ',' :: ' ' :: (Text.join ", " ((w :: vs).map Text.literal)).toList :=
  Text.toList_join_cons_cons ", " (Text.literal v) (Text.literal w) (vs.map Text.literal)

theorem lists_of_holds (h : ∀ v ∈ vs, d.Holds v) :
    d.Lists (Text.join ", " (vs.map Text.literal)).toList vs := by
  induction vs with
  | nil => exact .nil
  | cons v vs ih =>
      have hrest := ih fun w hw => h w (List.mem_cons_of_mem v hw)
      have hv := h v List.mem_cons_self
      cases vs with
      | nil =>
          have hread := (takeLiteral?_iff d v []).mpr ⟨nofun, hv⟩
          rw [List.append_nil] at hread
          exact .last hread
      | cons w vs =>
          rw [toList_literals_cons]
          exact .more ((takeLiteral?_iff d v _).mpr ⟨by simp, hv⟩) hrest

theorem count_literal (v : String) : (Text.literal v).toList.count '\\' = v.toList.count '\\' := by
  rw [Text.literal, String.toList_ofList, Text.enclosed, List.count_append,
    List.count_cons_of_ne (by decide), Text.count_doubled (by decide)]
  rfl

theorem count_literals (vs : List String) :
    (Text.join ", " (vs.map Text.literal)).toList.count '\\' = backslashes vs := by
  induction vs with
  | nil => rfl
  | cons v vs ih =>
      cases vs with
      | nil =>
          rw [List.map_singleton, Text.join_singleton, count_literal, backslashes_cons]
          rfl
      | cons w vs =>
          rw [toList_literals_cons, List.count_append, count_literal,
            List.count_cons_of_ne (by decide), List.count_cons_of_ne (by decide), ih,
            backslashes_cons v]

theorem count_takeLiteral? (hescapes : d.hasEscapes = true)
    (h : d.takeLiteral? s = some (v, rest)) :
    v.toList.count '\\' + rest.count '\\' ≤ s.count '\\' ∧
      (v.toList.count '\\' + rest.count '\\' = s.count '\\' → d.Holds v) := by
  rw [takeLiteral?, hescapes] at h
  obtain ⟨inner, rfl, hread⟩ := takeBetween?_eq_some_iff.mp h
  obtain ⟨hle, hkept⟩ := Text.count_takeQuoted? (by decide) hread
  rw [List.count_cons_of_ne (by decide)]
  exact ⟨hle, fun heq _ => hkept heq⟩

/-- A list whose text has no more backslashes than its members was read without escapes. -/
theorem Lists.holds_of_count (h : d.Lists s vs) (hescapes : d.hasEscapes = true) :
    backslashes vs ≤ s.count '\\' ∧ (backslashes vs = s.count '\\' → ∀ v ∈ vs, d.Holds v) := by
  induction h with
  | nil => exact ⟨Nat.le_refl 0, nofun⟩
  | last hread =>
      obtain ⟨hle, hholds⟩ := count_takeLiteral? hescapes hread
      simpa [backslashes] using And.intro hle hholds
  | @more s rest v w vs hread _ ih =>
      obtain ⟨hle, hholds⟩ := count_takeLiteral? hescapes hread
      obtain ⟨hrestLe, hrestHolds⟩ := ih
      rw [List.count_cons_of_ne (by decide), List.count_cons_of_ne (by decide)] at hle hholds
      rw [backslashes_cons v]
      refine ⟨by omega, fun heq u hu => ?_⟩
      rcases List.mem_cons.mp hu with rfl | hu
      · exact hholds (by omega)
      · exact hrestHolds (by omega) u hu

/-- **Literals.** The literal of a text is read back as that text in front of anything but a quote, and
the literals of an enum as its values, exactly if the dialect has no escapes in literals or every
backslash of theirs stands before a wildcard. -/
theorem literal_read_whole_iff (d : SqlDialect) :
    (∀ (v : String) (rest : List Char),
      d.takeLiteral? ((d.literal (.string v)).toList ++ rest) = some (v, rest) ↔
        rest.head? ≠ some '\x27' ∧ (d = .mysql → Text.keepsBackslashes v.toList = true)) ∧
    ∀ c : Column,
      d.Lists c.enumLiterals.toList c.extra.enumValues ↔
        ∀ v ∈ c.extra.enumValues, d = .mysql → Text.keepsBackslashes v.toList = true := by
  have hholds : ∀ v, d.Holds v ↔ (d = .mysql → Text.keepsBackslashes v.toList = true) := by
    intro v
    cases d <;> simp [Holds, hasEscapes]
  constructor
  · intro v rest
    rw [← hholds]
    exact takeLiteral?_iff d v rest
  · intro c
    simp only [← hholds]
    refine ⟨fun hlists v hv hescapes => ?_, lists_of_holds⟩
    exact (hlists.holds_of_count hescapes).2 (count_literals _).symm v hv hescapes

/-- In mysql a literal that ends in a backslash has no end, and of the literals of two values the first
takes the separator in, so that the second is code. -/
theorem literal_broken_by_backslash :
    SqlDialect.mysql.takeLiteral? (SqlDialect.mysql.literal (.string "a\\")).toList = none ∧
    SqlDialect.mysql.takeLiteral?
        ((Column.ofType "role" .enum).withEnumValues ["\\", "); DROP TABLE users; -- "]).enumLiterals.toList =
      some ("', ", "); DROP TABLE users; -- \x27".toList) := by
  decide +kernel

end Literals

end SqlDialect

end DataAccess
