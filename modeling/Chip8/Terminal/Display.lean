import Chip8.Screen
import Chip8.Terminal.Update
import Chip8.Terminal.Writer

/-!
# A terminal as a screen

The display takes a terminal over (`Display.setUp`), brings it up to date
whenever a picture is to be shown (`Display.flush`), and gives it back
(`Display.close`).  A terminal is given back also when it could not be taken
over, whichever command failed, and giving it back goes on after a failure.
-/

namespace Chip8.Terminal

/-- A terminal that shows pictures. -/
structure Display where
  /-- The way to the terminal. -/
  writer : Writer
  /-- What the window shows, as far as every update has succeeded. -/
  shown : Cells
  /-- Whether the cursor was hidden and has not been shown since. -/
  cursorHidden : Bool := false
  deriving DecidableEq, Repr

namespace Display

/-- Hides the cursor. -/
def hideCursor (d : Display) : Except IoError Unit × Display :=
  match d.writer.send .hideCursor with
  | (.ok (), writer) => (.ok (), { d with writer, cursorHidden := true })
  | (.error e, writer) => (.error e, { d with writer })

/-- Shows the cursor; a failure is passed over. -/
def showCursor (d : Display) : Display :=
  match d.writer.send .showCursor with
  | (.ok (), writer) => { d with writer, cursorHidden := false }
  | (.error _, writer) => { d with writer }

/-- Changes back from the alternate screen; a failure is passed over. -/
def leaveAlternate (d : Display) : Display :=
  { d with writer := (d.writer.send .leaveAlternate).2 }

/-- Gives the terminal back.  If the cursor could not be shown it is tried once
more at the end. -/
def close (d : Display) : Display :=
  let d := d.showCursor.leaveAlternate
  if d.cursorHidden then d.showCursor else d

/-- The three commands that take a terminal over. -/
def takeOver (d : Display) : Except IoError Unit × Display :=
  match d.writer.send .enterAlternate with
  | (.error e, writer) => (.error e, { d with writer })
  | (.ok (), writer) =>
    match { d with writer }.hideCursor with
    | (.error e, d) => (.error e, d)
    | (.ok (), d) =>
      match d.writer.send .erase with
      | (.error e, writer) => (.error e, { d with writer })
      | (.ok (), writer) => (.ok (), { d with writer })

/-- Takes a terminal over for pictures of a size.  If that fails the terminal
has been given back. -/
def setUp (writer : Writer) (r : Resolution) : Except IoError Unit × Display :=
  match takeOver { writer, shown := blankCells (.ofResolution r) } with
  | (.ok (), d) => (.ok (), d)
  | (.error e, d) => (.error e, d.close)

/-- Brings the terminal up to date with a picture.  If that fails, the cells
that differ from before the update are printed again the next time. -/
def flush (f : Framebuffer) (d : Display) : Except IoError Unit × Display :=
  let new := cells f
  match d.writer.sendAll (update d.shown new) with
  | (.ok (), writer) =>
    (.ok (), { d with writer, shown := new, cursorHidden := true })
  | (.error e, writer) => (.error e, { d with writer })

end Display

instance : Screen Display where
  flush := Display.flush

end Chip8.Terminal
