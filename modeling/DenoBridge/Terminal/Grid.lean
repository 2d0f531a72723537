import DenoBridge.Number.Rounding
import DenoBridge.Terminal.StyledText
import DenoBridge.Text.Lines

/-! # Grids

    A grid sets cells of text out in columns.  Every column gets the room that
    its widest cell would like to have; room that is left over goes to the
    columns in proportion, or all of it to a flexible column, and where room
    is missing the widest columns give way.  A cell then fills as many rows as
    it needs.  Main statement: a grid has as many widths as it has columns
    (`length_widths`).
-/

namespace DenoBridge.Terminal.Grid

/-! ## Section 1: Columns -/

/-- How a column shows its cells. -/
structure Track where
  overflow : Overflow
  /-- The spaces before each row of a cell. -/
  before : Nat
  /-- The spaces after each row of a cell. -/
  after : Nat
  /-- Does the column take the room that the others leave? -/
  flexible : Bool
  deriving Repr, DecidableEq

/-- The spaces around each row of a cell. -/
def Track.padding (track : Track) : Nat :=
  track.before + track.after

/-- The cells that a text takes when nothing is wrapped. -/
def naturalWidth (text : StyledText) : Nat :=
  ((Text.lines text.plain).map width).foldl max 0

/-- The width that a text would like its column to have in a given room. -/
def Track.wish (track : Track) (room : Nat) (text : StyledText) : Nat :=
  if room ≤ track.padding then room else min (min (naturalWidth text) room + track.padding) room

/-- The width that a column with these texts would like to have in a given
    room. -/
def Track.measure (track : Track) (room : Nat) (texts : List StyledText) : Nat :=
  (texts.map (track.wish room)).foldl max 0

/-! ## Section 2: Shares -/

/-- The cells of columns of the given widths together. -/
def total (widths : List Nat) : Nat :=
  widths.foldl (· + ·) 0

/-- The widths after cells were taken from the columns as wide as `widest`, of
    which there are `count`: from each one its share of them, but no more than
    `limit`. -/
def takeShares (widest limit : Nat) (count cells : Nat) : List Nat → List Nat
  | [] => []
  | first :: rest =>
    if first = widest then
      let share := min limit (roundQuotient cells count)
      (first - share) :: takeShares widest limit (count - 1) (cells - share) rest
    else first :: takeShares widest limit count cells rest

/-- The widths after the widest columns gave up to `cells` cells, but not more
    than makes them as wide as the next ones. -/
def narrow (cells : Nat) (widths : List Nat) : List Nat :=
  let widest := widths.foldl max 0
  let next := (widths.filter (· ≠ widest)).foldl max 0
  takeShares widest (min cells (widest - next)) (widths.count widest) cells widths

/-- The widths narrowed until they take no more than the room.  Every step
    takes at least one cell away. -/
def narrowTo (room : Nat) : Nat → List Nat → List Nat
  | 0, widths => widths
  | fuel + 1, widths =>
    if total widths ≤ room then widths
    else narrowTo room fuel (narrow (total widths - room) widths)

/-- The widths after cells were given to the columns, to each one its share of
    what is left rounded up. -/
def distribute (cells : Nat) : List Nat → List Nat
  | [] => []
  | first :: rest =>
    let all := first + total rest
    let share := (first * cells + all - 1) / all
    (first + share) :: distribute (cells - share) rest

/-! ## Section 3: Widths -/

/-- A column with its texts. -/
abbrev Filled := Track × List StyledText

/-- The widths that columns would like to have; a flexible one takes what the
    others leave of the room. -/
def wishes (room : Nat) (columns : List Filled) : List Nat :=
  let measures := columns.map fun (track, texts) => track.measure room texts
  let taken := total <|
    columns.zipWith (fun column cells => if column.1.flexible then 0 else cells) measures
  columns.zipWith (fun column cells =>
    if column.1.flexible then max (1 + column.1.padding) (room - taken) else max 1 cells) measures

/-- The widths of columns in a room. -/
def widths (room : Nat) (columns : List Filled) : List Nat :=
  let wished := wishes room columns
  if room < total wished then
    let widths := narrowTo room (total wished - room) wished
    columns.zipWith (fun column cells => column.1.measure cells column.2) widths
  else distribute (room - total wished) wished

theorem length_takeShares (widest limit count cells : Nat) (widths : List Nat) :
    (takeShares widest limit count cells widths).length = widths.length := by
  induction widths generalizing count cells with
  | nil => rfl
  | cons first rest ih => unfold takeShares; split <;> simp [ih]

theorem length_narrowTo (room fuel : Nat) (widths : List Nat) :
    (narrowTo room fuel widths).length = widths.length := by
  induction fuel generalizing widths with
  | zero => rfl
  | succ fuel ih => unfold narrowTo; split <;> simp [ih, narrow, length_takeShares]

theorem length_distribute (cells : Nat) (widths : List Nat) :
    (distribute cells widths).length = widths.length := by
  induction widths generalizing cells with
  | nil => rfl
  | cons first rest ih => simp [distribute, ih]

theorem length_widths (room : Nat) (columns : List Filled) :
    (widths room columns).length = columns.length := by
  unfold widths
  dsimp only
  split <;> simp [length_narrowTo, length_distribute, wishes]

/-! ## Section 4: Rows -/

/-- The rows that a text fills in a column of a width.  There are none when
    the spaces around them leave no room. -/
def Track.rows (track : Track) (cells : Nat) (style : Style) (text : StyledText) :
    List StyledText :=
  if cells ≤ track.padding then []
  else
    (text.rows track.overflow (cells - track.padding)).map fun row =>
      StyledText.above (⟨List.replicate track.before ' ', .plain⟩ :: row ++
        [⟨List.replicate track.after ' ', .plain⟩]) style

/-- A cell of a width, with the style of its blank rows. -/
structure Cell where
  cells : Nat
  style : Style
  rows : List StyledText

/-- A row without text. -/
def blank (cells : Nat) (style : Style) : StyledText :=
  .ofText (List.replicate cells ' ') style

/-- The rows of a cell brought to a height by blank ones, which stand above or
    below the others.  Without any rows there is one in no style. -/
def Cell.raise (height : Nat) (bottom : Bool) (cell : Cell) : List StyledText :=
  let more := List.replicate (height - cell.rows.length) (blank cell.cells cell.style)
  if height = 0 then [blank cell.cells .plain]
  else if bottom then more ++ cell.rows
  else cell.rows ++ more

/-- The rows of cells side by side. -/
def rowsOf (bottom : Bool) (line : List Cell) : List (List StyledText) :=
  let height := (line.map (·.rows.length)).foldl max 0
  let raised := line.map (Cell.raise height bottom)
  (List.range (max 1 height)).map fun i => raised.map fun rows => (rows[i]?).getD []

end DenoBridge.Terminal.Grid
