import Chip8.Terminal.Layout

/-!
# Bringing a window up to date

Only cells that have changed are printed.  The cursor is moved only where it
is not on the next changed cell already, and a colour is chosen only where it
differs from the one in use.
-/

namespace Chip8.Terminal

/-- A cell that is to be printed, and its place. -/
structure Change where
  row : Nat
  column : Nat
  /-- What the place is to show. -/
  cell : Cell
  deriving DecidableEq, Repr

/-- The changes in one row, from a column on. -/
def rowChanges (row column : Nat) : List Cell → List Cell → List Change
  | old :: olds, new :: news =>
    let rest := rowChanges row (column + 1) olds news
    if old = new then rest else ⟨row, column, new⟩ :: rest
  | _, _ => []

/-- The changes of a window, from a row on, row by row. -/
def changesFrom (row : Nat) : Cells → Cells → List Change
  | old :: olds, new :: news =>
    rowChanges row 0 old new ++ changesFrom (row + 1) olds news
  | _, _ => []

/-- The changes of a window. -/
def changes (old new : Cells) : List Change :=
  changesFrom 0 old new

/-- What is known of the terminal while changes are printed. -/
structure Pen where
  /-- The place behind the last cell that was printed. -/
  position : Option (Nat × Nat) := none
  /-- The colour in use. -/
  foreground : Color := .default
  /-- The colour in use behind characters. -/
  background : Color := .default
  deriving DecidableEq, Repr

/-- The commands that print one change. -/
def Pen.commands (p : Pen) (c : Change) : List Command :=
  (if p.position = some (c.row, c.column) then [] else [.moveTo c.row c.column]) ++
  (if p.foreground = c.cell.foreground then []
    else [.foreground c.cell.foreground]) ++
  (if p.background = c.cell.background then []
    else [.background c.cell.background]) ++
  [.print c.cell.symbol]

/-- The pen after a change was printed. -/
def Pen.after (c : Change) : Pen where
  position := some (c.row, c.column + 1)
  foreground := c.cell.foreground
  background := c.cell.background

/-- The commands that print changes one after the other. -/
def printAll (p : Pen) : List Change → List Command
  | [] => []
  | c :: rest => p.commands c ++ printAll (.after c) rest

/-- What follows every update: all colours are given up, and the cursor stays
hidden. -/
def closing : List Command :=
  [.foreground .default, .background .default, .reset, .hideCursor]

/-- The commands that bring a window from one state to another. -/
def update (old new : Cells) : List Command :=
  printAll {} (changes old new) ++ closing

end Chip8.Terminal
