import Blueprint.Text.Columns
import Blueprint.Text.Pieces

/-!
# Grids

A grid is a table drawn with characters. A cell may have several lines; a column is as wide as its
widest line, with a blank on both sides.
-/
namespace Blueprint.Report

structure Grid where
  header : List String
  rows : List (List String)

/-- The lines of a cell. -/
def cellLines (cell : String) : List String := (Text.pieces '\n' cell.toList).map String.ofList

def repeated (n : Nat) (c : Char) : String := String.ofList (List.replicate n c)

/-- A line of a cell with blanks up to the width of its column. -/
def padded (width : Nat) (line : String) : String :=
  line ++ repeated (width - Text.columns line) ' '

def cellWidth (cell : String) : Nat := ((cellLines cell).map Text.columns).foldl max 0

/-- A line across columns of the given widths. -/
def rule (widths : List Nat) (corner joint fill : Char) : String :=
  repeated 1 corner ++
    (repeated 1 joint).intercalate (widths.map fun width => repeated (width + 2) fill) ++
    repeated 1 corner

/-- The lines of a row: as many as its tallest cell has. -/
def rowLines (widths : List Nat) (row : List String) : List String :=
  let cells := row.map cellLines
  let height := (cells.map List.length).foldl max 0
  (List.range height).map fun i =>
    "| " ++
      " | ".intercalate ((widths.zip cells).map fun (width, lines) =>
        padded width (lines[i]?.getD "")) ++
      " |"

/-- The rows with a rule between any two. -/
def bodyLines (widths : List Nat) : List (List String) → List String
  | [] => []
  | [row] => rowLines widths row
  | row :: rows => rowLines widths row ++ rule widths '|' '+' '-' :: bodyLines widths rows

namespace Grid

/-- The widths of the columns, as many as the header has. -/
def widths (g : Grid) : List Nat :=
  g.header.zipIdx.map fun (title, i) =>
    (g.rows.map fun row => cellWidth (row[i]?.getD "")).foldl max (cellWidth title)

def lines (g : Grid) : List String :=
  let widths := g.widths
  let edge := rule widths '+' '+' '-'
  edge :: rowLines widths g.header ++ rule widths '+' '=' '=' :: bodyLines widths g.rows ++ [edge]

def text (g : Grid) : String := "\n".intercalate g.lines

end Grid

end Blueprint.Report
