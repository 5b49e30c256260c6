/-
Tables of text, drawn with box characters.

A column is as wide as its widest line, with one blank on either side. A line
break in a cell makes several lines, and the other cells of the row are filled
up with blank ones. A double rule parts the header from the rows, a dashed one
parts the rows.
-/
import Screencast.Text.Width

namespace Screencast

/-- A table: the header and the rows, all of as many cells. -/
structure Table where
  header : List String
  rows : List (List String)
  deriving DecidableEq, Repr

namespace Table

/-- The table with one more row at its end. -/
def addRow (table : Table) (row : List String) : Table := { table with rows := table.rows ++ [row] }

/-- The lines of a cell. -/
def lines (cell : String) : List String := (cell.toList.splitOn '\n').map String.ofList

/-- The width of a cell: that of its widest line. -/
def cellWidth (cell : String) : Nat := ((lines cell).map Width.ofLine).foldl max 0

/-- The widths of the columns. -/
def columnWidths (table : Table) : List Nat :=
  table.rows.foldl (fun widths row => List.zipWith max widths (row.map cellWidth))
    (table.header.map cellWidth)

/-- A character written again and again. -/
def repeated (n : Nat) (c : Char) : String := String.ofList (List.replicate n c)

/-- How a horizontal rule is drawn: its ends, its stroke and its crossings. -/
structure Rule where
  left : String
  stroke : Char
  crossing : String
  right : String

def topRule : Rule := ⟨"┌", '─', "┬", "┐"⟩
def headerRule : Rule := ⟨"╞", '═', "╪", "╡"⟩
def rowRule : Rule := ⟨"├", '╌', "┼", "┤"⟩
def bottomRule : Rule := ⟨"└", '─', "┴", "┘"⟩

/-- A rule across columns of the given widths. -/
def Rule.draw (rule : Rule) (widths : List Nat) : String :=
  rule.left ++ rule.crossing.intercalate (widths.map fun w => repeated (w + 2) rule.stroke) ++
    rule.right

/-- A line filled up with blanks to a width. -/
def fill (width : Nat) (line : String) : String :=
  line ++ repeated (width - Width.ofLine line) ' '

/-- One printed line of a row. -/
def drawLine (widths : List Nat) (line : List String) : String :=
  "│ " ++ " ┆ ".intercalate (List.zipWith fill widths line) ++ " │"

/-- The printed lines of a row. -/
def drawRow (widths : List Nat) (row : List String) : List String :=
  let cells := row.map lines
  let height := (cells.map List.length).foldl max 0
  (List.range height).map fun i => drawLine widths (cells.map fun cell => cell[i]?.getD "")

/-- A table as it is printed, line by line. -/
def draw (table : Table) : List String :=
  let widths := table.columnWidths
  let rows := table.rows.map (drawRow widths)
  [topRule.draw widths] ++ drawRow widths table.header ++ [headerRule.draw widths] ++
    [rowRule.draw widths].intercalate rows ++ [bottomRule.draw widths]

end Table

end Screencast
