import Roster.Text.Lines
import Roster.Unicode.Width

/-! # Tables

A table has a header and rows between lines that are drawn with box characters.
A cell with line feeds takes several lines. Columns are as wide as their widest
line, and every line is filled up with spaces.
-/
namespace Roster.CommandLine

/-- A table; each row has as many cells as the header. -/
structure Table where
  header : List String
  rows : List (List String)

namespace Table

def cellLines (s : String) : List String :=
  (Text.splitOn '\n' s.toList).map String.ofList

def cellWidth (s : String) : Nat :=
  ((cellLines s).map Unicode.Width.ofString).foldl max 0

/-- The wider of two rows, cell by cell. -/
def widen (widths : List Nat) (row : List String) : List Nat :=
  widths.zipWith max (row.map cellWidth)

def widths (t : Table) : List Nat :=
  t.rows.foldl widen (t.header.map cellWidth)

def fill (width : Nat) (s : String) : String :=
  s.pushn ' ' (width - Unicode.Width.ofString s)

def rowLines (widths : List Nat) (row : List String) : List String :=
  let cells := row.map cellLines
  let height := (cells.map List.length).foldl max 0
  (List.range height).map fun i =>
    "│ " ++ Text.joinWith " ┆ "
      ((widths.zip cells).map fun (w, lines) => fill w (lines[i]?.getD "")) ++ " │"

/-- The characters of a line between rows: its ends, what it is drawn with, and where it crosses
the lines between columns. -/
structure Rule where
  left : String
  dash : Char
  cross : String
  right : String

def top : Rule := ⟨"┌", '─', "┬", "┐"⟩
def belowHeader : Rule := ⟨"╞", '═', "╪", "╡"⟩
def betweenRows : Rule := ⟨"├", '╌', "┼", "┤"⟩
def bottom : Rule := ⟨"└", '─', "┴", "┘"⟩

def Rule.line (r : Rule) (widths : List Nat) : String :=
  r.left ++ Text.joinWith r.cross (widths.map fun w => "".pushn r.dash (w + 2)) ++ r.right

/-- The lines of rows, with a line between neighbours. -/
def body (widths : List Nat) : List (List String) → List String
  | [] => []
  | [row] => rowLines widths row
  | row :: next :: rest =>
    rowLines widths row ++ betweenRows.line widths :: body widths (next :: rest)

def lines (t : Table) : List String :=
  let ws := t.widths
  top.line ws :: (rowLines ws t.header ++ belowHeader.line ws :: (body ws t.rows ++
    [bottom.line ws]))

/-- The text of a table, without a line feed at its end. -/
def text (t : Table) : String :=
  Text.joinWith "\n" t.lines

end Table

end Roster.CommandLine
