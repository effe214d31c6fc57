import Preflight.Console.Print

/-!
# Tables

A table with a heavy head. A column is as wide as its widest cell; the first column gives way if
the table would be wider than the console.
-/

set_option autoImplicit false

namespace Preflight.Console

/-- The side on which a cell is filled up. -/
inductive Align
  | left
  | right
  deriving Repr, DecidableEq

/-- A column: its head and the side to which its cells are aligned. -/
structure Column where
  head : String
  align : Align

/-- A character that ends a line when the width of a cell is taken. -/
def endsLine (c : Char) : Bool :=
  c == '\n' || ('\x1c' ≤ c && c ≤ '\x1e') || c == '\x85' || c == '\u2028' || c == '\u2029'

/-- The width of a line of a cell, in which tabs count for nothing. -/
def lineWidth (line : List Char) : Nat := (line.filter (· != '\t')).length

/-- The width of the widest line of a cell. -/
def cellWidth (cell : List Char) : Nat :=
  (((cell.filter (!isControl ·)).splitOnP endsLine).map lineWidth).foldl max 0

/-- A line of a cell, cut to the width. -/
def cutLine (width : Nat) (line : List Char) : List Char :=
  if line.length ≤ width then line else line.take (width - 1) ++ ['…']

/-- A line of a cell, filled up to the width. -/
def padLine (align : Align) (width : Nat) (line : List Char) : List Char :=
  match align with
  | .left => line ++ List.replicate (width - line.length) ' '
  | .right => List.replicate (width - line.length) ' ' ++ line

/-- The lines of a cell in a column of a width. -/
def layCell (align : Align) (width : Nat) (cell : List Char) : List (List Char) :=
  (wrap width true (cell.filter (!isControl ·))).map fun line =>
    padLine align width (cutLine width line)

/-- The lines of a row between bars, each cell with a blank on both sides. -/
def layRow (bar : Char) (columns : List (Align × Nat)) (cells : List (List Char)) :
    List (List Char) :=
  let laid := (columns.zip cells).map fun ((align, width), cell) =>
    (width, layCell align width cell)
  let height := (laid.map fun (_, lines) => lines.length).foldl max 0
  (List.range height).map fun n =>
    bar :: laid.flatMap fun (width, lines) =>
      ' ' :: (lines[n]?.getD (List.replicate width ' ')) ++ [' ', bar]

/-- A line across the table. -/
def layEdge (start line cross stop : Char) (columns : List (Align × Nat)) : List Char :=
  start :: [cross].intercalate (columns.map fun (_, width) => List.replicate (width + 2) line) ++
    [stop]

/-- The widths of the columns; the first gives way. -/
def columnWidths (columns : List Column) (rows : List (List (List Char))) : List Nat :=
  let widths := columns.zipIdx.map fun (column, n) =>
    ((column.head.toList :: rows.map fun row => row[n]?.getD []).map cellWidth).foldl max 0
  match widths with
  | [] => []
  | first :: rest =>
    let others := rest.foldr (fun cell sum => cell + 3 + sum) 4
    min first (width - others) :: rest

/-- A table with rows of plain text. -/
def table (columns : List Column) (rows : List (List (List Char))) : String :=
  let columnsLaid := (columns.map Column.align).zip (columnWidths columns rows)
  let lines :=
    layEdge '┏' '━' '┳' '┓' columnsLaid ::
      layRow '┃' columnsLaid (columns.map (·.head.toList)) ++
      [layEdge '┡' '━' '╇' '┩' columnsLaid] ++
      rows.flatMap (layRow '│' columnsLaid) ++
      [layEdge '└' '─' '┴' '┘' columnsLaid]
  String.ofList (lines.flatMap (· ++ ['\n']))

end Preflight.Console
