/-
Tables drawn with lines.

* `Grid`: headings and rows of cells;
* `Align`: the side on which a cell is filled up;
* `Grid.condensed`: columns as wide as their longest cells, no lines between the rows;
* `Grid.spread`: columns spread over a total width, a line between any two rows.

A cell may have several lines.  Escape sequences take no room in it.
-/
import Census.Display.Escape
import Census.Display.Width

namespace Census.Display

/-- Headings and rows of cells, as many in a row as there are headings. -/
structure Grid where
  headings : List String
  rows : List (List String)
  deriving DecidableEq, Repr

/-- Where a cell stands in its column. -/
inductive Align
  | left
  | center
  | right
  deriving DecidableEq, Repr

/-- A number of copies of a character. -/
def copies (n : Nat) (c : Char) : String :=
  String.ofList (List.replicate n c)

/-- The columns that a line takes on a terminal. -/
def shownWidth (line : String) : Nat :=
  width (visible line)

/-- A line of a cell filled up to a width.  Of an odd number of blanks around a line in the centre,
the greater part is in front. -/
def Align.fill (a : Align) (room : Nat) (line : String) : String :=
  let blanks := room - shownWidth line
  match a with
  | left => line ++ copies blanks ' '
  | center => copies ((blanks + 1) / 2) ' ' ++ line ++ copies (blanks / 2) ' '
  | right => copies blanks ' ' ++ line

/-- A column: its width without the blank at either side, and where its cells stand. -/
structure ColumnLayout where
  room : Nat
  align : Align
  deriving DecidableEq, Repr

/-! ### Lines -/

/-- The lines of a cell, each in the style that the lines above leave on. -/
def cellLines (cell : String) : List String :=
  restyle [] (cell.splitOn "\n")

/-- The columns that the longest line of a cell takes. -/
def cellWidth (cell : String) : Nat :=
  ((cellLines cell).map shownWidth).max?.getD 0

/-- A horizontal line of a grid. -/
def border (layout : List ColumnLayout) (left stroke crossing right : Char) : String :=
  let strokes := layout.map fun c => copies (c.room + 2) stroke
  copies 1 left ++ (copies 1 crossing).intercalate strokes ++ copies 1 right

/-- One line of text of a row, `inner` between its columns. -/
def textLine (layout : List ColumnLayout) (inner : Char) (lines : List String) : String :=
  let cells := (layout.zip lines).map fun (c, line) => " " ++ c.align.fill c.room line ++ " "
  "│" ++ (copies 1 inner).intercalate cells ++ "│"

/-- The lines of a row, as many as its longest cell has. -/
def rowLines (layout : List ColumnLayout) (inner : Char) (cells : List String) : List String :=
  let cells := cells.map cellLines
  let height := (cells.map List.length).max?.getD 0
  (List.range height).map fun i => textLine layout inner (cells.map fun lines => lines[i]?.getD "")

/-! ### Grids -/

namespace Grid

/-- The columns that the longest cell of each column takes. -/
def contentWidths (g : Grid) : List Nat :=
  g.rows.foldl (fun widths row => List.zipWith max widths (row.map cellWidth))
    (g.headings.map cellWidth)

/-- The lines of a grid, where `between` stands between any two rows. -/
def draw (g : Grid) (layout : List ColumnLayout) (inner : Char) (between : List String) : String :=
  let rows := g.rows.map (rowLines layout inner)
  let lines := border layout '╭' '─' '┬' '╮' :: rowLines layout inner g.headings ++
    border layout '╞' '═' '╪' '╡' :: between.intercalate rows ++ [border layout '╰' '─' '┴' '╯']
  String.join (lines.map (· ++ "\n"))

/-- The grid with columns as wide as their longest cells, which stand at the left. -/
def condensed (g : Grid) : String :=
  g.draw (g.contentWidths.map fun w => ⟨w, .left⟩) '┆' []

/-- Widths with what is left of a total shared out evenly.  The first columns get one more each
where it does not come out even. -/
def shareOut (total : Nat) (widths : List Nat) : List Nat :=
  let count := widths.length
  let spare := total - (count + 1) - 2 * count - widths.foldr (· + ·) 0
  widths.zipIdx.map fun (w, i) => w + spare / count + (if i < spare % count then 1 else 0)

/-- The grid spread over a total width.  Each column has a least width and a side for its cells. -/
def spread (g : Grid) (total : Nat) (columns : List (Nat × Align)) : String :=
  let widths := List.zipWith (fun w c => max w c.1) g.contentWidths columns
  let layout := List.zipWith (fun w c => ⟨w, c.2⟩) (shareOut total widths) columns
  g.draw layout '│' [border layout '├' '─' '┼' '┤']

end Grid

end Census.Display
