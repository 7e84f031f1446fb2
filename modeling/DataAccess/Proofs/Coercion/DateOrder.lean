import DataAccess.Proofs.Coercion.Idempotence
import DataAccess.Proofs.Time.Spelling

/-!
# Dates as texts

A store that compares dates as texts compares them in time. Texts that spell instants of plain years
are bound in the order of their whole seconds and given back in the order of their whole milliseconds,
so two spellings of an instant become one text. Outside the years `0 .. 9999` a sign comes first, and
the order of texts is another.
-/

namespace DataAccess

namespace Coercion

open Timestamp (Spells)

variable {column : Column} {text : String} {t : Timestamp} {a : Instant}

theorem outbound_date (hdate : column.type = .date) (caps : Capabilities) (text : String) :
    outbound column caps (.string text) =
      (orInvalid column "DATE" (.string text) (Timestamp.read? text)).map
        fun t => .string t.outbound := by
  have hnull : (Json.string text).isNull = false := rfl
  rw [outbound, hnull, hdate]
  rfl

theorem outbound_of_read? (hdate : column.type = .date) (caps : Capabilities)
    (h : Timestamp.read? text = some t) :
    outbound column caps (.string text) = .ok (.string t.outbound) := by
  rw [outbound_date hdate, h]
  rfl

/-- What a text becomes in a date column, for every store and for callers. -/
structure Becomes (text stored shown : String) : Prop where
  bound : ∀ (column : Column) (caps : Capabilities), column.type = .date →
    outbound column caps (.string text) = .ok (.string stored)
  returned : inbound .date (.string text) = .string shown

theorem becomes_of_read? (h : Timestamp.read? text = some t) :
    Becomes text t.outbound t.inbound := by
  refine ⟨fun column caps hdate => outbound_of_read? hdate caps h, ?_⟩
  rw [inbound_date, timestamp?, h]
  rfl

theorem accepted_iff_spells (hdate : column.type = .date) (caps : Capabilities) :
    (∃ value, outbound column caps (.string text) = .ok value) ↔ ∃ a, Spells text a := by
  constructor
  · rintro ⟨value, h⟩
    rw [outbound_date hdate] at h
    obtain ⟨t, hread, -⟩ := exists_of_map_eq_ok h
    exact ⟨t.instant, Timestamp.spells_iff.mpr ⟨t, eq_some_of_orInvalid hread, rfl⟩⟩
  · rintro ⟨a, hspells⟩
    obtain ⟨t, hread, -⟩ := Timestamp.spells_iff.mp hspells
    exact ⟨_, outbound_of_read? hdate caps hread⟩

/-- What stands behind a spelled instant of a plain year. -/
theorem exists_of_spells (h : Spells text a) (hyear : a.HasPlainYear) :
    ∃ t : Timestamp, Timestamp.read? text = some t ∧ t.Valid ∧ t.HasPlainYear ∧ t.instant = a := by
  obtain ⟨t, hread, rfl⟩ := Timestamp.spells_iff.mp h
  have hvalid := Timestamp.valid_read? hread
  exact ⟨t, hread, hvalid, (Timestamp.hasPlainYear_instant hvalid).mp hyear, rfl⟩

/-- **Dates keep their order.** A text is bound to a date column exactly if it spells an instant, which
is then the only one that it spells. For a plain year its whole second is what the bound text spells,
and its whole millisecond what the returned text spells; and these texts are in the order of these
instants. -/
theorem dates_keep_order :
    (∀ (column : Column) (caps : Capabilities) (text : String), column.type = .date →
      ((∃ value, outbound column caps (.string text) = .ok value) ↔ ∃ a, Spells text a)) ∧
    (∀ (text : String) (a b : Instant), Spells text a → Spells text b → a = b) ∧
    ∀ (text text' : String) (a b : Instant), Spells text a → Spells text' b →
      a.HasPlainYear → b.HasPlainYear →
      ∃ stored stored' shown shown' : String,
        Becomes text stored shown ∧ Becomes text' stored' shown' ∧
        Spells stored a.wholeSecond ∧ Spells shown a.wholeMilli ∧
        (stored < stored' ↔ a.wholeSecond < b.wholeSecond) ∧
        (stored = stored' ↔ a.wholeSecond = b.wholeSecond) ∧
        (shown < shown' ↔ a.wholeMilli < b.wholeMilli) ∧
        (shown = shown' ↔ a.wholeMilli = b.wholeMilli) := by
  refine ⟨fun column caps text hdate => accepted_iff_spells hdate caps,
    fun text a b => Timestamp.Spells.unique, ?_⟩
  intro text text' a b ha hb hayear hbyear
  obtain ⟨t, hread, ht, htyear, rfl⟩ := exists_of_spells ha hayear
  obtain ⟨u, hread', hu, huyear, rfl⟩ := exists_of_spells hb hbyear
  refine ⟨t.outbound, u.outbound, t.inbound, u.inbound, becomes_of_read? hread,
    becomes_of_read? hread', ?_, ?_, ?_, ?_, ?_, ?_⟩
  · exact Timestamp.spells_iff.mpr ⟨_, Timestamp.read?_outbound ht, rfl⟩
  · exact Timestamp.spells_iff.mpr ⟨_, Timestamp.read?_inbound ht htyear, rfl⟩
  · exact Timestamp.outbound_lt_iff ht hu htyear huyear
  · exact Timestamp.outbound_eq_iff ht hu htyear huyear
  · exact Timestamp.inbound_lt_iff ht hu htyear huyear
  · exact Timestamp.inbound_eq_iff ht hu htyear huyear

/-- A leap second whose offset leads over the end of a year, and the minute behind it. -/
theorem dates_keep_order_leapSecond :
    let leap : Instant := ⟨Timestamp.daysOf 2017 1 1 * 1440 + 29, 60, 250000000⟩
    let next : Instant := ⟨Timestamp.daysOf 2017 1 1 * 1440 + 30, 0, 0⟩
    Spells "2016-12-31T22:59:60.25-01:30" leap ∧ Spells "2017-1-1 0:30" next ∧
      leap.HasPlainYear ∧ next.HasPlainYear ∧
      ∃ stored stored' : String,
        outbound (.ofType "at" .date) ⟨false, false⟩ (.string "2016-12-31T22:59:60.25-01:30") =
          .ok (.string stored) ∧
        outbound (.ofType "at" .date) ⟨false, false⟩ (.string "2017-1-1 0:30") =
          .ok (.string stored') ∧ stored < stored' := by
  intro leap next
  have hleap : Spells "2016-12-31T22:59:60.25-01:30" leap :=
    Timestamp.spells_iff.mpr ⟨⟨2017, 1, 1, 0, 29, 60, 250000000⟩, by decide +kernel, by decide⟩
  have hnext : Spells "2017-1-1 0:30" next :=
    Timestamp.spells_iff.mpr ⟨⟨2017, 1, 1, 0, 30, 0, 0⟩, by decide +kernel, by decide⟩
  have hyears : leap.HasPlainYear ∧ next.HasPlainYear := by
    unfold Instant.HasPlainYear
    decide
  obtain ⟨-, -, horder⟩ := dates_keep_order
  obtain ⟨stored, stored', shown, shown', htext, htext', -, -, hless, -⟩ :=
    horder _ _ leap next hleap hnext hyears.1 hyears.2
  have hstored := htext.bound (.ofType "at" .date) ⟨false, false⟩ rfl
  have hstored' := htext'.bound (.ofType "at" .date) ⟨false, false⟩ rfl
  refine ⟨hleap, hnext, hyears.1, hyears.2, stored, stored', hstored, hstored', hless.mpr ?_⟩
  rw [Instant.lt_iff]
  decide

end Coercion

end DataAccess
