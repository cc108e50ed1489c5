import ExtensionProbe.Text.Styled

/-!
# Tables on a console

A table has a title in its middle, a heavy frame around its header and a light one around its rows. A
column is as wide as its widest cell, with a blank on both sides. Where the columns do not fit on the
console, those that may break their lines give way, the widest ones first.

* `length_reduce`: giving way keeps the columns.
-/

namespace ExtensionProbe

/-- A column: its header, and whether its cells are kept on one line. -/
structure Table.Column where
  header : String
  oneLine : Bool := false

/-- A table: a title, the columns, and the rows with a cell for each column. -/
structure Table (α : Type) where
  title : α
  columns : List Table.Column
  rows : List (List α)

namespace Table

/-! ## Widths -/

/-- The cells of a column. -/
def cellsAt {α : Type} (t : Table α) (index : Nat) : List α :=
  t.rows.filterMap fun row => row[index]?

/-- The header of a column as a cell. -/
def Column.cell (c : Column) : Styled := { text := Text.ofString c.header }

/-- The columns of the console that cells with blanks beside them ask for, of those that there are. -/
def asked (room : Nat) (cells : List Styled) : Nat :=
  (cells.map fun s => min (Text.measure s.text + 2) room).foldl max 0

/-- The widths that the columns ask for. -/
def natural (room : Nat) (t : Table Styled) : List Nat :=
  t.columns.mapIdx fun i c => asked room (c.cell :: t.cellsAt i)

/-- A quotient rounded to the nearest whole number, from the middle to the even one. -/
def nearest (n d : Nat) : Nat :=
  let q := n / d
  let r := n % d
  if 2 * r < d then q else if d < 2 * r then q + 1 else q + q % 2

/-- Takes an excess from the widths that give way, in equal parts of at most `most`. -/
def reduce (most excess : Nat) : List (Nat × Bool) → List Nat
  | [] => []
  | (width, false) :: rest => width :: reduce most excess rest
  | (width, true) :: rest =>
    let share := min most (nearest excess ((rest.filter (·.2)).length + 1))
    (width - share) :: reduce most (excess - share) rest

/-- The greatest of numbers. -/
def greatest (ns : List Nat) : Nat := ns.foldl max 0

/-- The sum of numbers. -/
def total (ns : List Nat) : Nat := ns.foldr (· + ·) 0

/-- Widths with those that may give way reduced until all fit. The widest ones give way first, down to the
next widest; `steps` is at least the number of columns. -/
def fitted (room : Nat) (mayGive : List Bool) : Nat → List Nat → List Nat
  | 0, widths => widths
  | steps + 1, widths =>
    let excess := total widths - room
    let giving := ((widths.zip mayGive).filter (·.2)).map (·.1)
    let first := greatest giving
    let second := greatest (giving.filter (· != first))
    if excess = 0 || first = second then widths
    else
      let marked := (widths.zip mayGive).map fun (width, may) => (width, may && width == first)
      fitted room mayGive steps (reduce (min excess (first - second)) excess marked)

/-- The columns of a console beside the frame of a table. -/
def room {α : Type} (console : Nat) (t : Table α) : Nat := console - (t.columns.length + 1)

/-- The widths of the columns with the blanks beside their cells. -/
def widths (console : Nat) (t : Table Styled) : List Nat :=
  fitted (t.room console) (t.columns.map (!·.oneLine)) (t.columns.length + 1)
    (t.natural (t.room console))

/-! ## Lines -/

/-- A cell as lines of a width without the blanks beside them; none if there is no room. -/
def cellLines (width : Nat) (oneLine : Bool) (s : Styled) : List Styled :=
  let inner := width - 2
  if inner = 0 then []
  else (s.wrap inner .ellipsis (!oneLine)).map (·.fill inner .ellipsis)

/-- A table in lines: the widths of its columns, the lines of its title, and those of each cell. -/
structure Layout where
  widths : List Nat
  title : List Styled
  header : List (List Styled)
  rows : List (List (List Styled))

/-- The lines of the cells of a row. -/
def rowCells {α : Type} (t : Table α) (widths : List Nat) (cells : List Styled) :
    List (List Styled) :=
  (widths.zip (t.columns.zip cells)).map fun c => cellLines c.1 c.2.1.oneLine c.2.2

/-- A table in lines on a console. -/
def layout (console : Nat) (t : Table Styled) : Layout :=
  let widths := t.widths console
  let all := total widths + t.columns.length + 1
  { widths
    title := (t.title.wrap all .fold true).map (·.center all .fold)
    header := t.rowCells widths (t.columns.map (·.cell))
    rows := t.rows.map (t.rowCells widths) }

namespace Layout

/-- The names of the styles in a table, in the order in which it is shown. -/
def styles (l : Layout) : List Text :=
  Styled.styles l.title ++ l.rows.flatMap fun row => row.flatMap Styled.styles

/-- A line between rows: how it starts, what it is filled with, what stands between columns, and how it
ends. -/
def rule (l : Layout) (start fill between stop : Char) : Text :=
  let parts := l.widths.map fun w => List.replicate w (Code.char fill)
  Code.char start :: Text.join [.char between] parts ++ [Code.char stop]

/-- The lines of cells that stand beside each other; a cell with fewer lines than another is filled up
with blank ones. -/
def rowLines (bar : Char) (cells : List (Nat × List Styled)) : List Text :=
  let height := (cells.map fun c => c.2.length).foldl max 1
  (List.range height).map fun i =>
    Code.char bar :: cells.flatMap fun c =>
      let line :=
        match c.2[i]? with
        | some s => " " ++ s.shape (c.1 - 2) ++ " "
        | none => Text.blanks c.1
      line ++ [Code.char bar]

/-- The lines of a table. -/
def lines (l : Layout) : List Text :=
  l.title.map (·.text)
    ++ [l.rule '┏' '━' '┳' '┓']
    ++ rowLines '┃' (l.widths.zip l.header)
    ++ [l.rule '┡' '━' '╇' '┩']
    ++ (l.rows.flatMap fun row => rowLines '│' (l.widths.zip row))
    ++ [l.rule '└' '─' '┴' '┘']

end Layout

theorem length_reduce (most excess : Nat) (marked : List (Nat × Bool)) :
    (reduce most excess marked).length = marked.length := by
  induction marked generalizing excess with
  | nil => rfl
  | cons c rest ih =>
    rcases c with ⟨width, may⟩
    cases may <;> simp [reduce, ih]

end Table

end ExtensionProbe
