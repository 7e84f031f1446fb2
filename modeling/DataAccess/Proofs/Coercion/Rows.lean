import DataAccess.Proofs.Coercion.Idempotence
import DataAccess.Proofs.Json.Record

/-!
# Rows as callers see them

Shaping a row for the caller shapes each value under its name. No name and no null comes or goes.
-/

namespace DataAccess

namespace Coercion

theorem isNull_inbound (type : ColumnType) (value : Json) :
    (inbound type value).isNull = value.isNull := by
  cases type with
  | boolean =>
      rw [inbound_boolean]
      cases hread : boolean? value with
      | none => rfl
      | some b => cases value <;> first | rfl | cases hread
  | date =>
      rw [inbound_date]
      cases hread : timestamp? value with
      | none => rfl
      | some t => cases value <;> first | rfl | cases hread
  | number =>
      cases value with
      | string s =>
          rw [inbound]
          cases number? s <;> rfl
      | number n => cases n <;> rfl
      | null | bool | array | object => rfl
  | json =>
      cases value with
      | string s =>
          rw [inbound]
          split <;> rfl
      | null | bool | number | array | object => rfl
  | string | unknown | enum => cases value <;> rfl

theorem isNull_inboundAs (column : Option Column) (value : Json) :
    (inboundAs column value).isNull = value.isNull := by
  cases column with
  | none => rfl
  | some c => exact isNull_inbound c.type value

theorem get?_rowInbound (o : FindOptions) (row : Record) (name : String) :
    (rowInbound o row).get? name = (row.get? name).map (inboundAs (o.column? name)) :=
  Record.get?_map (fun name => inboundAs (o.column? name)) row name

theorem get?_schemaRowInbound (s : Schema) (row : Record) (name : String) :
    (schemaRowInbound s row).get? name = (row.get? name).map (inboundAs (s.column? name)) :=
  Record.get?_map (fun name => inboundAs (s.column? name)) row name

theorem sorted_rowInbound {row : Record} (h : row.Sorted) (o : FindOptions) :
    (rowInbound o row).Sorted := by
  rw [Record.Sorted, rowInbound, Record.keys_map fun name => inboundAs (o.column? name)]
  exact h

theorem keys_schemaRowInbound (s : Schema) (row : Record) : (schemaRowInbound s row).keys = row.keys :=
  Record.keys_map (fun name => inboundAs (s.column? name)) row

theorem sorted_schemaRowInbound {row : Record} (h : row.Sorted) (s : Schema) :
    (schemaRowInbound s row).Sorted := by
  rw [Record.Sorted, schemaRowInbound, Record.keys_map fun name => inboundAs (s.column? name)]
  exact h

end Coercion

end DataAccess
