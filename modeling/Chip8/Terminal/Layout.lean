import Chip8.Terminal.Command
import Chip8.Terminal.Scale
import Chip8.Terminal.Window

/-!
# The picture in a terminal

Every pixel is one cell of the terminal, a block that is bright white or
black.  Around the pixels runs a frame with the title in its upper edge, so
the picture takes two columns and two rows more than it has pixels.

Where the window has another size than that, the pixels are spread over the
cells within the frame (`Scale`).  A cell that shows several of them is bright
white if one of them is lit, and one that shows none is left empty.  So is the
whole inside if the picture has a single column or row.
-/

namespace Chip8.Terminal

/-- What one place of the terminal shows. -/
structure Cell where
  /-- The character. -/
  symbol : Char := ' '
  /-- Its colour. -/
  foreground : Color := .default
  /-- The colour behind it. -/
  background : Color := .default
  deriving DecidableEq, Repr

/-- The title of the frame. -/
def title : List Char :=
  "CHIP-8".toList

/-- The character of the frame in a column of its upper edge. -/
def upperEdge (w : Window) (column : Nat) : Char :=
  if column = 0 then '┌'
  else if column + 1 = w.columns then '┐'
  else title.getD (column - 1) '─'

/-- The character of the frame in a column of its lower edge. -/
def lowerEdge (w : Window) (column : Nat) : Char :=
  if column = 0 then '└'
  else if column + 1 = w.columns then '┘'
  else '─'

/-- A cell of the frame, or one that nothing is painted on. -/
def plain (symbol : Char) : Cell where
  symbol := symbol
  background := .black

/-- The cell of a pixel. -/
def pixel (lit : Bool) : Cell where
  symbol := '▄'
  foreground := if lit then .brightWhite else .black

/-- The cell at a column and a row within the frame. -/
def innerCell (f : Framebuffer) (w : Window) (column row : Nat) : Cell :=
  let xs := (Scale.mk f.resolution.width w.innerColumns).shownBy column
  let ys := (Scale.mk f.resolution.height w.innerRows).shownBy row
  if xs.isEmpty ∨ ys.isEmpty then plain ' '
  else pixel (ys.any fun y => xs.any fun x => f.isLit x y)

/-- The cell at a column and a row of a window, both counted from zero. -/
def cellAt (f : Framebuffer) (w : Window) (column row : Nat) : Cell :=
  if row = 0 then plain (upperEdge w column)
  else if row + 1 = w.rows then plain (lowerEdge w column)
  else if column = 0 ∨ column + 1 = w.columns then plain '│'
  else innerCell f w (column - 1) (row - 1)

/-- The cells of a terminal window, row by row. -/
abbrev Cells := List (List Cell)

/-- The cells of a window in which nothing has been written yet. -/
def blankCells (w : Window) : Cells :=
  List.replicate w.rows (List.replicate w.columns {})

/-- The cells of a window that shows a picture. -/
def cellsOf (f : Framebuffer) (w : Window) : Cells :=
  (List.range w.rows).map fun row =>
    (List.range w.columns).map fun column => cellAt f w column row

/-- The cells that show a picture, in the window for it. -/
def cells (f : Framebuffer) : Cells :=
  cellsOf f (.ofResolution f.resolution)

end Chip8.Terminal
