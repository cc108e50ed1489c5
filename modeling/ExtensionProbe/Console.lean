import ExtensionProbe.Markup
import ExtensionProbe.Table

/-!
# The console

Text, markup and tables as a console without colours shows them. A console writes in an encoding that has
every character. Of the halves of surrogate pairs it writes those that its encoding lets pass, most often
none: then a text with a half cannot be written, though it can be shown.

* `markup_of_no_bracket`: markup without brackets is shown like any text.
-/

namespace ExtensionProbe

/-- A console: its columns, the halves that its encoding lets pass, and the names of characters that
literals in markup may use. -/
structure Console where
  width : Nat
  halves : Fin 2048 → Bool
  knows : List Char → Bool

namespace Console

variable (console : Console)

/-- The first half in a text that the console cannot write. -/
def unwritable? (s : Text) : Option (Fin 2048) :=
  (s.filterMap Code.half?).find? fun place => !console.halves place

/-- A text as lines of at most the width of the console. -/
def layout (s : Styled) : List Styled :=
  (s.wrap console.width .fold true).map (·.cut console.width .fold)

/-- Lines as one text. -/
def ofLines (lines : List Text) : Text := lines.flatMap (· ++ "\n")

/-- A text on the console, with symbols for their names. -/
def text (s : Text) : Text := ofLines ((console.layout (Markup.plain s)).map (·.text))

/-- Markup on the console, unless it is at fault. -/
def markup (s : Text) : Except Markup.Fault Text := do
  let lines := console.layout (← Markup.read console.knows s)
  Markup.checkStyles (Styled.styles lines)
  pure (ofLines (lines.map (·.text)))

/-- The first fault in the cells of a table, column by column. -/
def checkCells (t : Table Text) : Except Markup.Fault Unit :=
  (List.range t.columns.length).forM fun i => (t.cellsAt i).forM fun s => do
    let _ ← Markup.read console.knows s
    pure ()

/-- A table on the console, whose title and cells are markup. Headers are shown as they are. -/
def table (t : Table Text) : Except Markup.Fault Text := do
  console.checkCells t
  let title ← Markup.read console.knows t.title
  let rows ← t.rows.mapM fun row => row.mapM (Markup.read console.knows)
  let shown := Table.layout console.width { title, columns := t.columns, rows }
  Markup.checkStyles shown.styles
  pure (ofLines shown.lines)

variable {console}

theorem forall_styles_layout {s : Styled} {P : Text → Prop} (h : s.StyledBy P) :
    ∀ name ∈ Styled.styles (console.layout s), P name := by
  apply Styled.forall_styles
  intro l hl
  obtain ⟨line, hline, rfl⟩ := List.mem_map.1 hl
  exact (h.wrap console.width .fold true line hline).cut console.width .fold

theorem markup_of_no_bracket {s : Text} (h : ('[' : Code) ∉ s) :
    console.markup s = .ok (console.text s) := by
  have none : (Markup.plain s).StyledBy fun _ => False := .of_bare rfl
  have bare : Styled.styles (console.layout (Markup.plain s)) = [] :=
    List.eq_nil_iff_forall_not_mem.2 fun name hname => forall_styles_layout none name hname
  simp only [markup, Markup.read_of_no_bracket console.knows h, bind, Except.bind, bare,
    Markup.checkStyles]
  rfl

end Console

end ExtensionProbe
