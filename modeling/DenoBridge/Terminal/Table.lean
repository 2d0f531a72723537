import DenoBridge.Terminal.Grid
import DenoBridge.Terminal.Rule

/-! # Tables

    A table takes all columns of the terminal.  Cells are separated by spaces
    only, and a rule stands below the headings.  A table is never narrower
    than the spaces between its cells.
-/

namespace DenoBridge.Terminal

/-- A column of a table. -/
structure Column where
  heading : String
  /-- The style of its cells. -/
  style : Style
  overflow : Overflow

/-- A table: its title, its columns and its rows of cells. -/
structure Table where
  title : String
  columns : List Column
  rows : List (List StyledText)

namespace Table

/-- How a column is set out: with a space on either side of its cells. -/
def track (column : Column) : Grid.Track :=
  ⟨column.overflow, 1, 1, false⟩

/-- The text of a heading. -/
def heading (column : Column) : StyledText :=
  .ofText column.heading.toList .plain

/-- The texts of a column, its heading first. -/
def texts (t : Table) (place : Nat) (column : Column) : List StyledText :=
  heading column :: t.rows.map fun row => (row[place]?).getD []

/-- The widths of the columns in a room. -/
def widths (t : Table) (room : Nat) : List Nat :=
  Grid.widths room (t.columns.mapIdx fun place column => (track column, t.texts place column))

/-- A cell of a column. -/
def cell (cells : Nat) (column : Column) (style : Style) (text : StyledText) : Grid.Cell :=
  ⟨cells, style, (track column).rows cells style text⟩

/-- The spaces between and around the columns. -/
def gaps (columns : List Column) : Nat :=
  columns.length + 1

/-- Is there room for any text?  A cell that has none is not looked at. -/
def hasRoom (table : List Column) (columns : Nat) : Bool :=
  table.any fun column => (track column).padding < columns - gaps table

/-- A line of a table: the rows of its cells between spaces. -/
def joinCells (cells : List StyledText) : StyledText :=
  (cells.flatMap fun cell => ⟨[' '], .plain⟩ :: cell) ++ [⟨[' '], .plain⟩]

/-- The lines with the headings, which stand on the rule. -/
def headingLines (t : Table) (widths : List Nat) : List StyledText :=
  let cells :=
    t.columns.zipWith (fun column cells => cell cells column .bold (heading column)) widths
  (Grid.rowsOf true cells).map joinCells

/-- The lines of a row. -/
def rowLines (t : Table) (widths : List Nat) (row : List StyledText) : List StyledText :=
  let cells := (t.columns.zip widths).zipWith
    (fun (column, cells) text => cell cells column column.style text) row
  (Grid.rowsOf false cells).map joinCells

/-- The lines of a table in so many columns of a terminal. -/
def lines (t : Table) (columns : Nat) : List StyledText :=
  let widths := t.widths (columns - gaps t.columns)
  let cells := Grid.total widths + gaps t.columns
  let rule : StyledText := .ofText (' ' :: ruleLine (cells - 2) ++ [' ']) .plain
  [.ofText t.title.toList .italic, Grid.blank cells .plain] ++ t.headingLines widths ++ [rule] ++
    t.rows.flatMap (t.rowLines widths) ++ [Grid.blank cells .plain]

end Table

end DenoBridge.Terminal
