import Chip8.Quoted

/-!
# The text of a log

A log is read in terminals, and its messages come from devices that may put
anything into them.  Characters that make a terminal do something other than
show text are therefore written by their numbers (`Log.harmless`), so that no
message can act on the terminal it is read in.

A message may still hold line feeds.  It then takes several rows
(`Log.rows`).
-/

namespace Chip8.Log

/-- The controls of seven bits that a terminal acts on: bell, backspace, form
feed, escape and delete. -/
def acting : List Char :=
  ['\x07', '\x08', '\x0c', '\x1b', '\x7f']

/-- A character as it stands in a log.  The controls of eight bits each stand
for an escape and a letter in one, so all of them are written by their
numbers; of the others only those that a terminal acts on are. -/
def harmless (c : Char) : List Char :=
  if c ∈ acting then ['\\', 'x'] ++ Hex.digits 2 c.toNat
  else if 0x80 ≤ c.toNat ∧ c.toNat ≤ 0x9F then Quoted.number c
  else [c]

/-- A message as it stands in a log. -/
def harmlessText (message : String) : String :=
  String.ofList (message.toList.flatMap harmless)

/-- The rows of a text.  A row ends at a line feed, and there is one more row
than there are line feeds. -/
def split : List Char → List (List Char)
  | [] => [[]]
  | '\n' :: rest => [] :: split rest
  | c :: rest =>
    match split rest with
    | [] => [[c]]
    | row :: more => (c :: row) :: more

/-- A row without the carriage return at its end. -/
def dropReturn (row : List Char) : List Char :=
  if row.getLast? = some '\r' then row.dropLast else row

/-- The rows that a text takes.  A carriage return in front of a line feed, or
at the end, belongs to the end of the row. -/
def rows (text : String) : List String :=
  (split text.toList).map fun row => String.ofList (dropReturn row)

end Chip8.Log
