/-!
# Commands to a terminal

A terminal is told what to do by escape sequences among the text.  Here they
are kept as values; `Command.text` writes one out.

A sequence with parameters reaches the terminal piece by piece
(`Command.pieces`): what introduces it, every number and mark, and what closes it.
A sequence that is broken off in the middle leaves its first pieces behind.
-/

namespace Chip8.Terminal

/-- The colours in use. -/
inductive Color where
  /-- Whatever the terminal is set to. -/
  | default
  | black
  | brightWhite
  deriving DecidableEq, Repr

/-- One thing that a terminal can be told. -/
inductive Command where
  /-- Change to the alternate screen. -/
  | enterAlternate
  /-- Change back. -/
  | leaveAlternate
  | hideCursor
  | showCursor
  /-- Blank the screen. -/
  | erase
  /-- Put the cursor on a cell; rows and columns are counted from zero. -/
  | moveTo (row column : Nat)
  /-- Choose the colour of what is printed from now on. -/
  | foreground (color : Color)
  /-- Choose the colour behind what is printed from now on. -/
  | background (color : Color)
  /-- Give up all choices. -/
  | reset
  /-- Print a character and move on to the next column. -/
  | print (symbol : Char)
  deriving DecidableEq, Repr

/-- What introduces an escape sequence. -/
def introducer : String :=
  "\x1b["

/-- The pieces that a command is written in. -/
def Command.pieces : Command → List String
  | enterAlternate => [introducer ++ "?1049h"]
  | leaveAlternate => [introducer ++ "?1049l"]
  | hideCursor => [introducer ++ "?25l"]
  | showCursor => [introducer ++ "?25h"]
  | erase => [introducer ++ "2J"]
  | moveTo row column =>
    [introducer, toString (row + 1), ";", toString (column + 1), "H"]
  | foreground .default => [introducer, "39", "m"]
  | foreground .black => [introducer, "38;", "5;0", "m"]
  | foreground .brightWhite => [introducer, "38;", "5;15", "m"]
  | background .default => [introducer, "49", "m"]
  | background .black => [introducer, "48;", "5;0", "m"]
  | background .brightWhite => [introducer, "48;", "5;15", "m"]
  | reset => [introducer, "0", "m"]
  | print symbol => [symbol.toString]

/-- The sequence of a command. -/
def Command.text (c : Command) : String :=
  String.join c.pieces

end Chip8.Terminal
