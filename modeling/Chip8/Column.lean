/-!
# Columns of text

Listings and traces are laid out in columns: a cell shorter than its column is
filled up with spaces, and a longer one is left as it is.
-/

namespace Chip8.Column

/-- A cell at the left edge of its column. -/
def left (width : Nat) (cell : List Char) : List Char :=
  cell ++ List.replicate (width - cell.length) ' '

/-- A cell at the right edge of its column. -/
def right (width : Nat) (cell : List Char) : List Char :=
  List.replicate (width - cell.length) ' ' ++ cell

end Chip8.Column
