import PullReview.Path
import PullReview.Text.Width

/-!
# Grids of text

A grid has a title, a row of headers and rows of cells in a drawn frame. Each column is as wide as
its widest line, and a cell of several lines makes its row higher.
-/

namespace PullReview.Text

structure Column where
  header : String
  toRight : Bool := false

structure Grid where
  title : String
  columns : List Column
  rows : List (List String)

namespace Grid

private def spaces (n : Nat) : String := String.ofList (List.replicate n ' ')

/-- Characters that move the cursor are not printed. -/
private def movesCursor (c : Char) : Bool := [7, 8, 11, 12, 13].contains c.toNat

/-- The lines of a cell. -/
def cellLines (cell : String) : List String :=
  (Path.splitAt '\n' (cell.toList.filter fun c => !movesCursor c)).map String.ofList

private def pad (toRight : Bool) (size : Nat) (line : String) : String :=
  let fill := spaces (size - width line)
  if toRight then fill ++ line else line ++ fill

/-- The text in the middle of a line; an odd space is on its right. -/
private def centred (size : Nat) (line : String) : String :=
  let excess := size - width line
  spaces (excess / 2) ++ line ++ spaces (excess - excess / 2)

/-- The widths of the columns. -/
def widths (g : Grid) : List Nat :=
  g.columns.zipIdx.map fun (c, i) =>
    let cells := c.header :: g.rows.map fun r => (r[i]?).getD ""
    ((cells.flatMap cellLines).map width).foldl max 0

/-- A line of the frame. -/
private def rule (left line joint right : String) (sizes : List Nat) : String :=
  let bars := sizes.map fun n => String.join (List.replicate (n + 2) line)
  left ++ joint.intercalate bars ++ right ++ "\n"

/-- The lines of one row. -/
private def rowLines (bar : String) (columns : List (Column × Nat)) (cells : List String) :
    String :=
  let parts := cells.map cellLines
  let height := (parts.map List.length).foldl max 1
  String.join <| (List.range height).map fun i =>
    let fields := (columns.zip parts).map fun ((c, size), ls) =>
      " " ++ pad c.toRight size ((ls[i]?).getD "") ++ " "
    bar ++ bar.intercalate fields ++ bar ++ "\n"

def render (g : Grid) : String :=
  let sizes := g.widths
  let columns := g.columns.zip sizes
  let total := sizes.foldl (fun n size => n + size + 3) 1
  centred total g.title ++ "\n" ++ rule "┏" "━" "┳" "┓" sizes ++
    rowLines "┃" columns (g.columns.map (·.header)) ++ rule "┡" "━" "╇" "┩" sizes ++
    String.join (g.rows.map (rowLines "│" columns)) ++ rule "└" "─" "┴" "┘" sizes

end Grid

end PullReview.Text
