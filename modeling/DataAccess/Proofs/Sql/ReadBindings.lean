import DataAccess.Proofs.Sql.Bindings
import DataAccess.Sql.Select

/-!
# What reads bind

The values of a read are those of its conditions, and each condition names its column itself. Joins,
selected columns, order and page bind nothing, however the dialect writes them.
-/

namespace DataAccess

open SqlText Statement

variable {d : SqlDialect}

/-! ### Conditions -/

def ColumnRef.names (r : ColumnRef) : List String := [r.table, r.column]

/-- The values that a condition binds, all of which belong to its column. -/
def Condition.slots (d : SqlDialect) : Condition → List Slot
  | isNull .. | always _ => []
  | isIn ref _ values => values.map fun v => ⟨ref.names, v.value⟩
  | like ref _ pattern => [⟨ref.names, .text pattern⟩]
  | contains ref text => [⟨ref.names, .text (containsPattern d.wildcards text)⟩]
  | compare ref _ value => [⟨ref.names, value.value⟩]

/-- A list of values, all of which belong to the column that was named last. -/
theorem Binds.values {α : Type} (reference : List String) (column : α → Option Column)
    (value : α → SqlValue) (l : List α) :
    Binds d reference (separated ", " (l.map fun x => [.value (column x) (value x)]))
      (l.map fun x => ⟨reference, value x⟩) reference := by
  induction l with
  | nil => exact .nil reference
  | cons first rest ih =>
      cases rest with
      | nil => exact .value opens_nil (.nil reference)
      | cons second rest =>
          exact .value (opens_code rfl _) (.plain (by decide) ih)

namespace Condition

theorem likeFrame_reads (d : SqlDialect) (negate ignoringCase : Bool) :
    let frame := d.likeFrame negate ignoringCase
    Silent d frame.before.toList ∧ (starts frame.between = true ∧ Silent d frame.between.toList) ∧
      Silent d frame.after.toList ∧ (frame.after = "" ∨ starts frame.after = true) := by
  cases d <;> cases negate <;> cases ignoringCase <;>
    exact ⟨fun _ => rfl, ⟨by decide, fun _ => rfl⟩, fun _ => rfl, by decide⟩

theorem owns_likePieces (ref : ColumnRef) (negated ignoringCase : Bool) (pattern : String) :
    Owns d (likePieces d ref negated ignoringCase pattern) [⟨ref.names, .text pattern⟩] := by
  obtain ⟨hbefore, ⟨hstarts, hbetween⟩, hafter, hopens⟩ := likeFrame_reads d negated ignoringCase
  intro reference
  exact ⟨ref.names, .code hbefore (.qualified (opens_code hstarts _) (.code hbetween
    (.value (opens_singleton_code hopens) (.code hafter (.nil _)))))⟩

theorem owns_pieces (c : Condition) : Owns d (c.pieces d) (c.slots d) := by
  cases c with
  | isNull ref negated =>
      cases negated
      · exact .qualified _ _ (opens_code rfl _) (.plain (by decide) .nil)
      · exact .qualified _ _ (opens_code rfl _) (.plain (by decide) .nil)
  | always truth =>
      cases truth
      · exact .plain (by decide) .nil
      · exact .plain (by decide) .nil
  | isIn ref negated values =>
      have hlist : ∀ text : String, starts text = true → text.toList.all isPlain = true →
          Owns d (ref.pieces ++ .code text :: separated ", " (values.map fun v => [v.piece]))
            (values.map fun v => ⟨ref.names, v.value⟩) := by
        intro text hstarts hplain reference
        have hvalues := Binds.values (d := d) ref.names BoundValue.column BoundValue.value values
        exact ⟨ref.names, .qualified (opens_code hstarts _) (.plain hplain hvalues)⟩
      have hend : Silent d ")".toList := silent_of_isPlain (by decide)
      cases negated
      · exact (hlist _ rfl (by decide)).append_code rfl hend
      · exact (hlist _ rfl (by decide)).append_code rfl hend
  | like ref negated pattern => exact owns_likePieces ref negated false pattern
  | contains ref text =>
      have hescape : Silent d " ESCAPE '!'".toList := by
        cases d <;> exact fun _ => rfl
      exact (owns_likePieces ref false true _).append_code rfl hescape
  | compare ref comparison value =>
      have hsign : starts (" " ++ comparison.sign ++ " ") = true ∧
          (" " ++ comparison.sign ++ " ").toList.all isPlain = true := by
        cases comparison <;> exact ⟨by decide, by decide⟩
      intro reference
      exact ⟨ref.names, .qualified (opens_code hsign.1 _) (.plain hsign.2
        (.value opens_nil (.nil _)))⟩

end Condition

/-! ### Requirements -/

def Requirement.slots (d : SqlDialect) : Requirement → List Slot
  | ofRow condition | ofSomeRelated _ _ condition => condition.slots d

theorem Requirement.owns_pieces (r : Requirement) : Owns d (r.pieces d) (r.slots d) := by
  cases r with
  | ofRow condition => exact condition.owns_pieces
  | ofSomeRelated related parent condition =>
      have hcondition : Owns d (condition.pieces d ++ [.code ")"]) (condition.slots d) :=
        condition.owns_pieces.append_code rfl (silent_of_isPlain (by decide))
      have hpieces : (ofSomeRelated related parent condition).pieces d =
          .code "EXISTS (SELECT 1 FROM " :: .name related.table :: .code " WHERE " ::
            .name related.table :: .code "." :: .name related.column :: .code " = " ::
            .name parent.table :: .code "." :: .name parent.column :: .code " AND " ::
            (condition.pieces d ++ [.code ")"]) := by
        simp [pieces, ColumnRef.pieces, Statement.qualified]
      rw [hpieces]
      refine .plain (by decide) (.name _ (opens_code rfl _) (.plain (by decide) ?_))
      refine .qualified _ _ (opens_code rfl _) (.plain (by decide) ?_)
      exact .qualified _ _ (opens_code rfl _) (.plain (by decide) hcondition)

/-! ### Reads -/

namespace Source

def slots (d : SqlDialect) (s : Source) : List Slot := s.requirements.flatMap (Requirement.slots d)

theorem owns_join (j : Join) : Owns d j.pieces [] ∧ Opens d j.pieces := by
  have hclause : starts (" " ++ j.type.clause ++ " ") = true ∧
      (" " ++ j.type.clause ++ " ").toList.all isPlain = true := by
    cases j.type <;> exact ⟨by decide, by decide⟩
  refine ⟨.plain hclause.2 (.name _ (opens_code rfl _) (.plain (by decide) ?_)),
    opens_code hclause.1 _⟩
  exact .qualified _ _ (opens_code rfl _)
    (.plain (by decide) (.qualified _ _ opens_nil .nil))

theorem owns_wherePieces (requirements : List Requirement) :
    Owns d (wherePieces d requirements) (requirements.flatMap (Requirement.slots d)) ∧
      Opens d (wherePieces d requirements) := by
  cases requirements with
  | nil => exact ⟨.nil, opens_nil⟩
  | cons first rest =>
      have hall := Owns.separated (d := d) " AND " rfl (by decide) (Requirement.slots d)
        (first :: rest) fun r _ => r.owns_pieces
      exact ⟨.plain (by decide) hall, opens_code rfl _⟩

theorem owns_pieces (s : Source) : Owns d (s.pieces d) (s.slots d) ∧ Opens d (s.pieces d) := by
  obtain ⟨hjoins, hopensJoins⟩ := Owns.flatMap (d := d) (fun _ => []) s.joins
    fun j _ => owns_join j
  obtain ⟨hwhere, hopensWhere⟩ := owns_wherePieces (d := d) s.requirements
  have hrest := hjoins.append hwhere hopensWhere
  rw [List.flatMap_eq_nil_iff.mpr fun _ _ => rfl, List.nil_append] at hrest
  have hpieces : s.pieces d = .code " FROM " :: .name s.table ::
      (s.joins.flatMap Join.pieces ++ wherePieces d s.requirements) := rfl
  rw [hpieces]
  exact ⟨.plain (by decide) (.name _ (hopensJoins.append hopensWhere) hrest),
    opens_code rfl _⟩

theorem owns_countPieces (s : Source) : Owns d (s.countPieces d) (s.slots d) :=
  .plain (by decide) (.name _ s.owns_pieces.2 s.owns_pieces.1)

end Source

namespace Select

theorem selectSuffix_cases (d : SqlDialect) (column : Column) :
    d.selectSuffix column = "" ∨ d = .postgres ∧ d.selectSuffix column = "::text" := by
  cases d with
  | postgres =>
    cases hnative : column.extra.nativeType with
    | none => exact .inl (by simp only [SqlDialect.selectSuffix, hnative])
    | some native =>
        simp only [SqlDialect.selectSuffix, hnative]
        split
        · exact .inl rfl
        · exact .inr ⟨trivial, rfl⟩
  | mysql | mssql | oracle | sqlite => exact .inl rfl

theorem owns_selected (s : Selected) : Owns d (s.pieces d) [] := by
  have hsuffix : starts (d.selectSuffix s.column ++ " AS ") = true ∧
      Silent d (d.selectSuffix s.column ++ " AS ").toList := by
    rcases selectSuffix_cases d s.column with hsuffix | ⟨rfl, hsuffix⟩
    · rw [hsuffix]
      exact ⟨by decide, silent_of_isPlain (by decide)⟩
    · rw [hsuffix]
      exact ⟨by decide, fun _ => rfl⟩
  exact .qualified _ _ (opens_code hsuffix.1 _) (.code hsuffix.2 (.name _ opens_nil .nil))

theorem owns_orderPieces (order : List OrderTerm) :
    Owns d (orderPieces order) [] ∧ Opens d (orderPieces order) := by
  cases order with
  | nil => exact ⟨.nil, opens_nil⟩
  | cons first rest =>
      have hterm : ∀ t : OrderTerm, Owns d t.pieces [] := by
        intro t
        have hdirection : starts (" " ++ t.direction.name) = true ∧
            (" " ++ t.direction.name).toList.all isPlain = true := by
          cases t.direction <;> exact ⟨by decide, by decide⟩
        exact .qualified _ _ (opens_code hdirection.1 _) (.plain hdirection.2 .nil)
      have hall := Owns.separated_nil ", " rfl (by decide) (first :: rest) fun t _ => hterm t
      exact ⟨.plain (by decide) hall, opens_code rfl _⟩

theorem all_isPlain_decimal (n : Nat) : (decimal n).toList.all isPlain = true := by
  rw [decimal, String.toList_ofList, List.all_eq_true]
  exact fun c hc => isPlain_of_isDigit (Nat.isDigit_of_mem_toDigits (by decide) (by decide) hc)

theorem starts_append {text : String} (h : starts text = true) (more : String) :
    starts (text ++ more) = true := by
  rw [starts] at h ⊢
  rw [String.toList_append]
  cases htext : text.toList with
  | nil =>
      rw [htext] at h
      cases h
  | cons c rest =>
      rw [htext] at h
      exact h

/-- Code around two numbers. -/
theorem append_numbers {s : Statement} {slots : List Slot} (h : Owns d s slots)
    {before between after : String} (hstarts : starts before = true)
    (hbefore : before.toList.all isPlain = true) (hbetween : between.toList.all isPlain = true)
    (hafter : after.toList.all isPlain = true) (first second : Nat) :
    Owns d (s ++ [.code (before ++ decimal first ++ between ++ decimal second ++ after)]) slots := by
  refine h.append_code ?_ (silent_of_isPlain ?_)
  · simp only [String.append_assoc]
    exact starts_append hstarts _
  · simp only [String.toList_append, List.all_append, hbefore, hbetween, hafter,
      all_isPlain_decimal, Bool.and_self]

theorem owns_paged {body : Statement} {slots : List Slot} (hbody : Owns d body slots)
    (order : List OrderTerm) (limit offset : Nat) :
    Owns d (paged d body order limit offset) slots := by
  obtain ⟨horder, hopens⟩ := owns_orderPieces (d := d) order
  have hordered := hbody.append horder hopens
  rw [List.append_nil] at hordered
  rw [paged]
  cases hstyle : d.paginationStyle with
  | limitOffset =>
      have htext : s!" LIMIT {decimal limit} OFFSET {decimal offset}" =
          " LIMIT " ++ decimal limit ++ " OFFSET " ++ decimal offset ++ "" := by
        rw [String.append_empty]
        rfl
      dsimp only
      rw [htext]
      exact append_numbers hordered rfl (by decide) (by decide) (by decide) _ _
  | offsetFetch =>
      have htext : s!" OFFSET {decimal offset} ROWS FETCH NEXT {decimal limit} ROWS ONLY" =
          " OFFSET " ++ decimal offset ++ " ROWS FETCH NEXT " ++ decimal limit ++ " ROWS ONLY" := rfl
      dsimp only
      rw [htext]
      refine append_numbers ?_ rfl (by decide) (by decide) (by decide) _ _
      split
      · exact hbody.append_code rfl (silent_of_isPlain (by decide))
      · exact hordered
  | rowNumber =>
      have htext : ∀ last : String,
          s!") inner_ WHERE ROWNUM <= {last}) WHERE {rowNumberColumn} > {decimal offset}" =
            ") inner_ WHERE ROWNUM <= " ++ last ++ ") WHERE RNUM_ > " ++ decimal offset ++ "" := by
        intro last
        have hcolumn : ") WHERE RNUM_ > " = ") WHERE " ++ rowNumberColumn ++ " > " := by decide
        rw [hcolumn, String.append_empty]
        simp only [← String.append_assoc]
        rfl
      have hopening : ∀ text : String,
          text = s!"SELECT * FROM (SELECT inner_.*, ROWNUM AS {rowNumberColumn} FROM (" →
            Silent d text.toList := by
        rintro _ rfl
        cases d with
        | oracle => exact fun _ => rfl
        | mysql | postgres | mssql | sqlite => cases hstyle
      dsimp only
      rw [htext]
      refine append_numbers ?_ rfl (by decide) (by decide) (by decide) _ _
      exact .code (hopening _ rfl) hordered

theorem owns_pieces (s : Select) : Owns d (s.pieces d) (s.source.slots d) := by
  have hitems := Owns.separated_nil (d := d) ", " rfl (by decide) s.items
    fun item _ => owns_selected item
  obtain ⟨hsource, hopens⟩ := s.source.owns_pieces (d := d)
  have hselected : Owns d (.code "SELECT " :: separated ", " (s.items.map (Selected.pieces d))) [] :=
    .plain (by decide) hitems
  have hbody := hselected.append hsource hopens
  rw [List.nil_append] at hbody
  rw [pieces]
  cases s.page with
  | none =>
      obtain ⟨horder, hopensOrder⟩ := owns_orderPieces (d := d) s.order
      have hordered := hbody.append horder hopensOrder
      rwa [List.append_nil] at hordered
  | some page => exact owns_paged hbody s.order page.1 page.2

end Select

end DataAccess
