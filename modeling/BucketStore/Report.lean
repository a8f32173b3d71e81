import BucketStore.Calendar.Stamp
import BucketStore.Console.Table
import BucketStore.Store.Store

namespace BucketStore.Report

open Console

/-- A whole number, thousands grouped. -/
def countText : Value → Except Problem String
  | .int i => .ok (groupedIntText i)
  | .bool b => .ok (groupedIntText (Value.ofBool b))
  | .float f => .ok (groupedFloatText f)
  | .text _ => .error .groupingOfText
  | v => .error (.noFormat v.kind)

def measureText (layout : Float → String) : Value → Except Problem String
  | .float f => .ok (layout f)
  | .int i => (Value.intToFloat i).map layout
  | .bool b => (Value.intToFloat (Value.ofBool b)).map layout
  | .text s => .error (.formatCode "f" (Value.text s).kind)
  | v => .error (.noFormat v.kind)

def pointCells (timestamp value : Value) : Except Problem (List String) := do
  let stamp ← Stamp.ofValue timestamp
  let average ← measureText (groupedPlacesText 4) value
  return [stamp, timestamp.plain, average]

def pointsTable (g : Granularity) (points : List (Value × Value)) : Except Problem Table := do
  let rows ← points.mapM fun (timestamp, value) => pointCells timestamp value
  let columns : List Column :=
    [{ header := "Timestamp (UTC)", wraps := false }, { header := "ts (ms)", alignment := .right },
      { header := "Average", alignment := .right }]
  return ⟨"Reporting averages (" ++ g.title ++ ")", columns, rows, "Newest first"⟩

/-- The report of points, which come newest first, for a screen of `width` cells. -/
def printPoints (width : Nat) (g : Granularity) (points : List (Value × Value)) :
    Except Problem String :=
  if points.isEmpty then printText width "[yellow]No reporting points to display.[/yellow]"
  else do
    let table ← pointsTable g points
    table.print width

/-- How a batch went, in marked-up text. -/
def statusText (result : List (String × Value)) : String :=
  let skipped := (Value.lookup result "skipped").any Value.truth
  let error := (Value.lookup result "error").getD .null
  if skipped then "[yellow]skipped (storage disabled or nothing to do)[/yellow]"
  else if error.truth then "[red]failed: " ++ error.plain ++ "[/red]"
  else "[green]ok[/green]"

def removedCells (result : List (String × Value)) : Except Problem (List (List String)) :=
  let removed := (Value.lookup result "removed").getD .null
  if !removed.truth then .ok []
  else match removed with
    | .object counts => counts.mapM fun (name, count) => do
      let text ← countText count
      return ["Removed from " ++ name, text]
    | v => .error (.noMember v.kind "items")

def resultTable (result : List (String × Value)) : Except Problem Table := do
  let title := ((Value.lookup result "operation").getD (.text "operation")).plain
  let rows ← countText ((Value.lookup result "rows").getD (.int 0))
  let duration ←
    measureText (placesText 3) ((Value.lookup result "duration_seconds").getD (.float 0.0))
  let removed ← removedCells result
  let columns : List Column :=
    [{ header := "Field", wraps := false }, { header := "Value", alignment := .right }]
  return {
    title, columns,
    rows := [["Status", statusText result], ["Rows", rows], ["Duration (s)", duration]] ++ removed }

def printResult (width : Nat) (result : List (String × Value)) : Except Problem String := do
  let table ← resultTable result
  table.print width

def fieldsOf (r : BatchResult) : List (String × Value) :=
  [("operation", .text r.operation), ("rows", .int r.rows), ("duration_seconds", .float r.seconds),
    ("skipped", .bool r.skipped), ("error", (r.error.map Value.text).getD .null)]
    ++ (r.removed.map fun removed => ("removed", Store.removedValue removed)).toList

end BucketStore.Report
