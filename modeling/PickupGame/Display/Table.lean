import PickupGame.Text.Lines

/-!
# Tables

Rows of cells in a frame of box-drawing characters. A cell may have several lines; a column is as
wide as the widest line in it, a row as high as its highest cell. All cells are left-aligned, with
a blank on either side. A terminal lays tables out within its own width and in colours.
-/

namespace PickupGame.Display

inductive Color
  | red
  | green
  | yellow
  | cyan
  | darkGrey
  deriving DecidableEq, Repr

structure Cell where
  text : String
  isBold : Bool
  color : Option Color
  deriving DecidableEq, Repr

/-- A header and rows, each with one cell per column. -/
structure Table where
  header : List Cell
  rows : List (List Cell)
  deriving DecidableEq, Repr

/-- How a terminal shows tables. However it breaks and colours the lines of the cells, the last line
of a table is the lower border. -/
structure Terminal where
  layout : Table → String
  layout_last : ∀ t, ∃ line, (Text.lines (layout t).toList).getLast? = some line ∧
    line.head? = some '└'

/-- Where output is shown: the columns that a line takes up there, the terminal if it is one, and
whether cells are coloured. -/
class Screen where
  width : List Char → Nat
  width_nil : width [] = 0
  terminal? : Option Terminal
  useColors : Bool

/-- A header and rows of texts. -/
structure Grid where
  header : List String
  rows : List (List String)
  deriving DecidableEq, Repr

namespace Grid

/-- The lines of a cell. -/
abbrev Block := List (List Char)

def block (s : String) : Block :=
  Text.lines s.toList

/-- The wider of two rows, column by column. -/
def widen : List Nat → List Nat → List Nat
  | [], ws => ws
  | vs, [] => vs
  | v :: vs, w :: ws => max v w :: widen vs ws

/-- Parts side by side, with a character before, between and behind them. -/
def framed (left between right : Char) : List (List Char) → List Char
  | [] => [left, right]
  | p :: ps => left :: p ++ ps.flatMap (between :: ·) ++ [right]

def rule (left dash between right : Char) (widths : List Nat) : List Char :=
  framed left between right (widths.map fun w => List.replicate (w + 2) dash)

def height (row : List Block) : Nat :=
  (row.map List.length).foldl max 0

section

variable [Screen]

def blockWidth (b : Block) : Nat :=
  (b.map Screen.width).foldl max 0

def widths (rows : List (List Block)) : List Nat :=
  (rows.map (·.map blockWidth)).foldl widen []

/-- A line of a cell filled up to the width of its column, with a blank on either side. -/
def field (width : Nat) (line : List Char) : List Char :=
  ' ' :: line ++ List.replicate (width - Screen.width line) ' ' ++ [' ']

def rowLine (widths : List Nat) (row : List Block) (i : Nat) : List Char :=
  framed '│' '┆' '│' ((widths.zip row).map fun p => field p.1 (p.2.getD i []))

def rowLines (widths : List Nat) (row : List Block) : List (List Char) :=
  (List.range (height row)).map (rowLine widths row)

/-- The lines of rows with a dashed rule between them. -/
def bodyLines (widths : List Nat) : List (List Block) → List (List Char)
  | [] => []
  | [row] => rowLines widths row
  | row :: rows => rowLines widths row ++ rule '├' '╌' '┼' '┤' widths :: bodyLines widths rows

def lines (g : Grid) : List (List Char) :=
  let header := g.header.map block
  let rows := g.rows.map (·.map block)
  let ws := widths (header :: rows)
  rule '┌' '─' '┬' '┐' ws :: rowLines ws header
    ++ rule '╞' '═' '╪' '╡' ws :: bodyLines ws rows
    ++ [rule '└' '─' '┴' '┘' ws]

def render (g : Grid) : String :=
  String.ofList (Text.unlines g.lines)

end

end Grid

namespace Table

/-- A table without its colours. -/
def grid (t : Table) : Grid where
  header := t.header.map (·.text)
  rows := t.rows.map (·.map (·.text))

/-- A table on a terminal, or as it is printed anywhere else. -/
def render [Screen] (t : Table) : String :=
  match Screen.terminal? with
  | some terminal => terminal.layout t
  | none => t.grid.render

end Table

end PickupGame.Display
