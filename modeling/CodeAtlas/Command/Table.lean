import CodeAtlas.Text.Width

/-!
# Tables

Results as plain text: a header, a rule, and one row per result. Columns are as wide as their widest
line, with a blank on either side.
-/

namespace CodeAtlas

/-- A table of texts. -/
structure Table where
  header : List String
  rows : List (List String)
  deriving DecidableEq, Repr, Inhabited

namespace Table

/-- The lines of a cell. -/
def cellLines (cell : String) : List Text :=
  Text.splitBy (· = '\n') cell.toList

/-- The width of a cell. -/
def cellWidth (cell : String) : Nat :=
  ((cellLines cell).map Text.width).foldl max 0

/-- The larger one of two numbers at each place. -/
def widen : List Nat → List Nat → List Nat
  | [], widths => widths
  | widths, [] => widths
  | a :: left, b :: right => max a b :: widen left right

/-- The widths of the columns. -/
def widths (table : Table) : List Nat :=
  (table.header :: table.rows).foldl (fun widths row => widen widths (row.map cellWidth)) []

/-- A line of a cell, filled up to the width of its column. -/
def padded (width : Nat) (line : Text) : Text :=
  ' ' :: line ++ List.replicate (width - Text.width line) ' ' ++ [' ']

/-- The lines of a row. -/
def rowLines (widths : List Nat) (row : List String) : List Text :=
  let cells := row.map cellLines
  let height := (cells.map List.length).foldl max 1
  (List.range height).map fun index =>
    Text.join ['|'] ((widths.zip cells).map fun (width, lines) =>
      padded width (lines[index]?.getD []))

/-- The rule below the header. -/
def rule (widths : List Nat) : Text :=
  Text.join ['+'] (widths.map fun width => List.replicate (width + 2) '-')

/-- The table as text, without a line break at its end. -/
def render (table : Table) : String :=
  let widths := table.widths
  String.ofList (Text.join ['\n']
    (rowLines widths table.header ++ rule widths :: table.rows.flatMap (rowLines widths)))

end Table

end CodeAtlas
