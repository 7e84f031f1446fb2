import DataAccess.Json.Shown
import DataAccess.Text.Blank
import DataAccess.Text.Split

/-!
Tables for people: columns as wide as their widest cell, two blanks between them, and no blanks at
the end of a line.
-/

namespace DataAccess

namespace Grid

/-- The most characters that a cell shows. -/
def greatestWidth : Nat := 40

/-- A text, cut to the greatest width with three dots at its end. -/
def shorten (s : List Char) : List Char :=
  if greatestWidth < s.length then s.take (greatestWidth - 3) ++ ['.', '.', '.'] else s

def cell : Json → String
  | .null => "NULL"
  | value => String.ofList (shorten value.shown.toList)

/-- A text with blanks behind it, up to a width. -/
def pad (width : Nat) (s : String) : String :=
  s ++ String.ofList (List.replicate (width - s.length) ' ')

def widest (cells : List String) : Nat := cells.foldl (fun width cell => max width cell.length) 0

def trimEnd (s : String) : String := String.ofList (Text.trimRight s.toList)

def row (widths : List Nat) (cells : List String) : String :=
  trimEnd (Text.join "  " (List.zipWith pad widths cells))

/-- The width of each column. -/
def widths : List String → List (List String) → List Nat
  | [], _ => []
  | header :: headers, rows =>
    widest (header :: rows.filterMap List.head?) :: widths headers (rows.map List.tail)

def rule (widths : List Nat) : String :=
  Text.join "  " (widths.map fun width => String.ofList (List.replicate width '-'))

def lines (headers : List String) (rows : List (List String)) : List String :=
  let w := widths headers rows
  row w headers :: rule w :: rows.map (row w)

/-- The names of all fields, in the order in which rows bring them up. -/
def fieldNames (records : List Record) : List String :=
  records.foldl (fun names record =>
    record.keys.foldl (fun names key => if names.contains key then names else names ++ [key]) names)
    []

def ofRecords (records : List Record) : List String :=
  let names := fieldNames records
  lines names (records.map fun record => names.map fun name => ((record.get? name).map cell).getD "")

/-- A record with one line for each field. -/
def recordLines (record : Record) : List String :=
  let width := widest record.keys
  record.map fun (name, value) => "  " ++ pad width name ++ "  " ++ cell value

end Grid

end DataAccess
