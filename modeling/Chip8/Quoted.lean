import Chip8.Hex
import Chip8.Quoted.Unmarked

/-!
# Characters in quotes

A character is shown between single quotes.  Quotes, backslashes and the
common control characters are written with a backslash.  Any other character
stands for itself if it leaves a mark of its own, and is written by its number
if it does not.
-/

namespace Chip8.Quoted

/-- The single quote. -/
def quote : Char := '\x27'

/-- A character written by its number. -/
def number (c : Char) : List Char :=
  ['\\', 'u', '\x7b'] ++ Hex.digits 1 c.toNat ++ ['\x7d']

/-- A character as it stands between the quotes. -/
def escape (c : Char) : List Char :=
  if c = '\x00' then ['\\', '0']
  else if c = '\t' then ['\\', 't']
  else if c = '\r' then ['\\', 'r']
  else if c = '\n' then ['\\', 'n']
  else if c = quote then ['\\', quote]
  else if c = '\\' then ['\\', '\\']
  else if isMarked c then [c]
  else number c

/-- A character in quotes. -/
def char (c : Char) : String :=
  String.ofList (quote :: escape c ++ [quote])

end Chip8.Quoted
