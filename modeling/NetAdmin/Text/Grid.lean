import NetAdmin.Text.Columns
/-!
Texts in a grid of ruled cells. Every row has the same number of cells; a cell
may have several lines, and a row is as high as its highest cell. Cells start
at the left and at the top, with one space on either side.
-/

namespace NetAdmin
namespace Text

abbrev GridRow := List (List Text)

namespace GridRow

def ofCells (cells : List Text) : GridRow :=
  cells.map (pieces '\n')

def height (row : GridRow) : Nat :=
  (row.map List.length).foldl max 0

def widths (row : GridRow) : List Nat :=
  row.map fun lines => (lines.map columns).foldl max 0

end GridRow

def padded (width : Nat) (line : Text) : Text :=
  line ++ List.replicate (width - columns line) ' '

def gridRule (widths : List Nat) : Text :=
  '+' :: widths.flatMap fun width => List.replicate (width + 2) '-' ++ ['+']

/-- One line of a row. A cell with fewer lines is empty there. -/
def gridLine (widths : List Nat) (row : GridRow) (line : Nat) : Text :=
  '|' :: (widths.zip row).flatMap fun cell =>
    ' ' :: padded cell.1 ((cell.2[line]?).getD []) ++ [' ', '|']

def gridRowLines (widths : List Nat) (row : GridRow) : List Text :=
  (List.range row.height).map (gridLine widths row)

def grid (heading : List Text) (rows : List (List Text)) : Text :=
  let rows := (heading :: rows).map GridRow.ofCells
  let widths := (rows.map GridRow.widths).foldl (List.zipWith max) (heading.map fun _ => 0)
  glue '\n' (gridRule widths ::
    rows.flatMap fun row => gridRowLines widths row ++ [gridRule widths])

example : grid ["N".toList, "NAME".toList] [["1".toList, "é".toList]] =
    ("+---+------+\n" ++ "| N | NAME |\n" ++ "+---+------+\n" ++ "| 1 | é    |\n" ++
      "+---+------+").toList := by
  decide +kernel

end Text
end NetAdmin
