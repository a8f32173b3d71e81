import BucketStore.Console.Markup
import BucketStore.Console.Widths
import BucketStore.Console.Wrap

namespace BucketStore.Console

structure Column where
  header : String
  alignment : Alignment := .left
  wraps : Bool := true

structure Table where
  title : String
  columns : List Column
  /-- Each row has as many cells as there are columns. -/
  rows : List (List String) := []
  caption : String := ""

namespace Table

def frameWidth (t : Table) : Nat :=
  t.columns.length + 1

def texts (t : Table) : Except Problem (List (Column × List Marked)) :=
  t.columns.zipIdx.mapM fun (column, i) => do
    let cells ← (column.header :: t.rows.map fun row => (row[i]?).getD "").mapM shownText
    return (column, cells)

/-- The cells that a column wants: its widest text and a blank on both sides. -/
def wantedWidth (cells : List Marked) : Nat :=
  (cells.map fun t => widest t.chars).foldl max 0 + 2

def padLine (size : Nat) (line : List (List Char)) : List (List Char) :=
  fitLine size ([' '] :: fitLine (size - 2) line ++ [[' ']])

/-- The lines of a cell, with their blanks. -/
def cellLines (column : Column) (size : Nat) (t : Marked) :
    Except Problem (List (List (List Char))) :=
  if size ≤ 2 then .ok []
  else do
    let layout : Layout := ⟨column.alignment, .ellipsis, column.wraps⟩
    let lines ← layout.lines (size - 2) t
    return lines.map fun line => fitLine size (padLine size line)

/-- Give a cell a number of lines; a header stands at the bottom. -/
def setHeight (isHeader : Bool) (size height : Nat) (lines : List (List (List Char))) :
    List (List (List Char)) :=
  let blank := List.replicate (height - lines.length) [spaces size]
  if isHeader then blank ++ lines else lines ++ blank

def rowLines (isHeader : Bool) (cells : List (Nat × List (List (List Char)))) :
    List (List (List Char)) :=
  let height := (cells.map (·.2.length)).foldl max 1
  let shaped := cells.map fun (size, lines) => setHeight isHeader size height lines
  (List.range height).map fun i =>
    [['│']] ++ [['│']].intercalate (shaped.map fun lines => (lines[i]?).getD []) ++ [['│']]

def frameLine (first cross last : Char) (widths : List Nat) : List (List Char) :=
  [[first] ++ [cross].intercalate (widths.map (List.replicate · '─')) ++ [last]]

/-- A title or caption in the middle of `total` cells; there is none if it is empty. -/
def annotation (total : Nat) (s : String) : Except Problem (List (List (List Char))) :=
  if s.isEmpty then .ok []
  else do
    let text ← shownText s
    let layout : Layout := { alignment := .centre }
    layout.lines total text

def textRow (isHeader : Bool) (widths : List Nat) (columns : List (Column × List Marked))
    (i : Nat) : Except Problem (List (List (List Char))) := do
  let cells ← (widths.zip columns).mapM fun (size, column, cells) => do
    let lines ← cellLines column size ((cells[i]?).getD ⟨[], []⟩)
    return (size, lines)
  return rowLines isHeader cells

def bodyLines (widths : List Nat) (columns : List (Column × List Marked)) (rowCount : Nat) :
    Except Problem (List (List (List Char))) := do
  let header ← textRow true widths columns 0
  let rows ← (List.range rowCount).mapM fun i => textRow false widths columns (i + 1)
  return frameLine '╭' '┬' '╮' widths :: header
    ++ frameLine '├' '┼' '┤' widths :: rows.flatten ++ [frameLine '╰' '┴' '╯' widths]

/-- The lines of a table on a screen of `total` cells. Texts are not read if there is no room for
any. -/
def lines (t : Table) (total : Nat) : Except Problem (List (List (List Char))) := do
  if total = 0 then return []
  else
    let room := total - t.frameWidth
    let columns ←
      if room < 3 then pure (t.columns.map fun column => (column, [])) else t.texts
    let wanted := columns.map fun (column, cells) =>
      (column.wraps, if room < 3 then room else wantedWidth cells)
    let widths := columnWidths room wanted
    let size := totalWidth widths + t.frameWidth
    let title ← annotation size t.title
    let body ← bodyLines widths columns t.rows.length
    let caption ← annotation size t.caption
    return (title ++ body ++ caption).map (limitLine total)

end Table

def ofLines (lines : List (List (List Char))) : String :=
  String.ofList (lines.flatMap fun line => line.flatten ++ ['\n'])

def Table.print (t : Table) (total : Nat) : Except Problem String :=
  (t.lines total).map ofLines

def printText (total : Nat) (s : String) : Except Problem String := do
  let text ← shownText s
  if total = 0 then return ""
  else
    let layout : Layout := {}
    let lines ← layout.lines total text
    return ofLines (lines.map (limitLine total))

end BucketStore.Console
