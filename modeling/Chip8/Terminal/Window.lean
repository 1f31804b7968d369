import Chip8.Framebuffer

/-!
# Windows

A picture is shown in a window, with a column and a row to spare on every side
for a frame.  Columns and rows are counted in 16 bits, and so are the cells of
a window: a larger one is shrunk, in about its own shape, to one that has no
more cells than that.
-/

namespace Chip8.Terminal

/-- The size of a window. -/
structure Window where
  /-- Cells in a row. -/
  columns : Nat
  /-- Rows. -/
  rows : Nat
  deriving DecidableEq, Repr

namespace Window

/-- How many cells a window has at most. -/
def maxCells : Nat :=
  65535

/-- A window that is shrunk if it has too many cells.  The shrunk size is
computed in floating point, the height first. -/
def fit (columns rows : Nat) : Window :=
  if columns * rows ≤ maxCells then { columns, rows }
  else
    let ratio := columns.toFloat / rows.toFloat
    let height := (maxCells.toFloat / ratio).sqrt
    { columns := (height * ratio).toUInt16.toNat
      rows := height.toUInt16.toNat }

/-- The window for a picture and its frame. -/
def ofResolution (r : Resolution) : Window :=
  fit ((r.width + 2) % UInt16.size) ((r.height + 2) % UInt16.size)

/-- The columns within the frame. -/
def innerColumns (w : Window) : Nat :=
  w.columns - 2

/-- The rows within the frame. -/
def innerRows (w : Window) : Nat :=
  w.rows - 2

/-- A window that is not too large has its size. -/
theorem ofResolution_of_le {r : Resolution}
    (h : (r.width + 2) * (r.height + 2) ≤ maxCells) :
    ofResolution r = ⟨r.width + 2, r.height + 2⟩ := by
  have hw : r.width + 2 ≤ (r.width + 2) * (r.height + 2) :=
    Nat.le_mul_of_pos_right _ (by omega)
  have hh : r.height + 2 ≤ (r.width + 2) * (r.height + 2) :=
    Nat.le_mul_of_pos_left _ (by omega)
  have size_eq : UInt16.size = maxCells + 1 := rfl
  rw [ofResolution, Nat.mod_eq_of_lt (by omega), Nat.mod_eq_of_lt (by omega),
    fit, if_pos h]

end Window

end Chip8.Terminal
