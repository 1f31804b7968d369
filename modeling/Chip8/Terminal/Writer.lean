import Chip8.IoError
import Chip8.Terminal.Command

/-!
# Writing to a terminal

A `Writer` keeps what has been written.  It can be told to refuse every single
write that holds a certain text; of such a write nothing is kept.  Every piece
of a command is a write of its own, so a text that runs over several pieces is
never refused, and of a command that fails the pieces before are kept.
-/

namespace Chip8.Terminal

/-- Whether a text holds another one. -/
def holds (part text : List Char) : Bool :=
  match text with
  | [] => part.isEmpty
  | c :: rest => part.isPrefixOf (c :: rest) || holds part rest

/-- A writer that may refuse. -/
structure Writer where
  /-- What has been written. -/
  written : String := ""
  /-- What may not be written. -/
  refusal : Option String := none
  deriving DecidableEq, Repr

namespace Writer

/-- How a refused write fails. -/
def refused : IoError :=
  ⟨.other, "refused"⟩

/-- Whether a text is refused. -/
def refuses (w : Writer) (text : String) : Bool :=
  match w.refusal with
  | some part => holds part.toList text.toList
  | none => false

/-- One write. -/
def write (w : Writer) (text : String) : Except IoError Unit × Writer :=
  if w.refuses text then (.error refused, w)
  else (.ok (), { w with written := w.written ++ text })

/-- Writes pieces one after the other, up to the first that is refused. -/
def writeAll (w : Writer) : List String → Except IoError Unit × Writer
  | [] => (.ok (), w)
  | piece :: rest =>
    match w.write piece with
    | (.ok (), w) => w.writeAll rest
    | (.error e, w) => (.error e, w)

/-- Sends a command. -/
def send (w : Writer) (c : Command) : Except IoError Unit × Writer :=
  w.writeAll c.pieces

/-- Sends commands one after the other, up to the first that fails. -/
def sendAll (w : Writer) : List Command → Except IoError Unit × Writer
  | [] => (.ok (), w)
  | c :: rest =>
    match w.send c with
    | (.ok (), w) => w.sendAll rest
    | (.error e, w) => (.error e, w)

end Writer

end Chip8.Terminal
