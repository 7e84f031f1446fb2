import DataAccess.Proofs.Text.Pattern
import DataAccess.Sql.Select

/-!
# Searches are literal

A search binds its term as a pattern in which every sign of the dialect is escaped. Read with that
escape, the pattern says the characters of the term one by one, between two signs for any text.
-/

namespace DataAccess

/-- The marks of a dialect's patterns, read with an escape. Only one dialect knows classes. -/
def SqlDialect.patternRules (d : SqlDialect) (escape : Char) : Pattern.Rules :=
  ⟨some escape, d == .mssql⟩

namespace Pattern

variable {d : SqlDialect} {c : Char}

/-- What the dialect counts among its wildcards is all that could mean something else. -/
theorem itemOf_of_not_mem_wildcards (h : c ∉ d.wildcards) :
    itemOf c = .char c ∧ ((d.patternRules likeEscape).classes = true → c ≠ '[') := by
  have hsigns : c ≠ '%' ∧ c ≠ '_' := by
    constructor <;> rintro rfl <;> exact h (by cases d <;> decide)
  refine ⟨?_, ?_⟩
  · rw [itemOf, if_neg hsigns.1, if_neg hsigns.2]
  · rintro hclasses rfl
    obtain rfl : d = .mssql := beq_iff_eq.mp hclasses
    exact h (by decide)

/-- An escaped text is read as its own characters, whatever follows it. -/
theorem read?_escapeWildcards_append (d : SqlDialect) (t rest : List Char) :
    read? (d.patternRules likeEscape) none (escapeWildcards d.wildcards t ++ rest) =
      (read? (d.patternRules likeEscape) none rest).map (t.map .char ++ ·) := by
  induction t with
  | nil =>
      rw [escapeWildcards, List.nil_append]
      exact Option.map_id'.symm
  | cons c t ih =>
      have hread : read? (d.patternRules likeEscape) none
          (escapeWildcards d.wildcards (c :: t) ++ rest) =
            (read? (d.patternRules likeEscape) none (escapeWildcards d.wildcards t ++ rest)).map
              (.char c :: ·) := by
        rw [escapeWildcards]
        split
        next => exact read?_escape rfl c
        next hplain =>
          obtain ⟨hescape, hwildcard⟩ := not_or.mp hplain
          obtain ⟨hitem, hopen⟩ := itemOf_of_not_mem_wildcards hwildcard
          have hother : (d.patternRules likeEscape).escape ≠ some c := fun h =>
            hescape (Option.some.inj h).symm
          rw [List.cons_append, read?_itemOf hother hopen, hitem]
      rw [hread, ih, Option.map_map]
      rfl

theorem items?_containsPattern (d : SqlDialect) (t : String) :
    items? (d.patternRules likeEscape) (containsPattern d.wildcards t) =
      some (.anyText :: (t.toList.map .char ++ [.anyText])) := by
  have hpercent : (d.patternRules likeEscape).escape ≠ some '%' := by
    cases d <;> decide
  rw [items?, containsPattern, String.toList_ofList, List.cons_append,
    read?_itemOf hpercent fun _ => by decide, read?_escapeWildcards_append,
    read?_itemOf hpercent fun _ => by decide]
  rfl

example : containsPattern SqlDialect.mssql.wildcards "5%_![x]" = "%5!%!_!!![x]%" := by decide +kernel

end Pattern

namespace SqlRead

/-- **Searches are literal.** In every dialect a search binds one pattern, names the escape with which
it is to be read, and the pattern matches exactly the texts that contain the term. -/
theorem search_matches_iff (d : SqlDialect) (options : FindOptions) (column term s : String) :
    ∃ c before pattern items,
      condition d.capabilities options ⟨column, .search, some (.string term)⟩ = .ok c ∧
      c.pieces d = before ++ [.code " ESCAPE '!'"] ∧
      Statement.values (c.pieces d) = [.text pattern] ∧
      Pattern.items? (d.patternRules likeEscape) pattern = some items ∧
      (Pattern.matchesText items s.toList = true ↔ term.toList <:+: s.toList) := by
  refine ⟨.contains (columnRef options column) term, _, containsPattern d.wildcards term, _, rfl, rfl,
    rfl, Pattern.items?_containsPattern d term, Pattern.matchesText_contained⟩

end SqlRead

end DataAccess
