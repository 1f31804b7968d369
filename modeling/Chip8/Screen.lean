import Chip8.Framebuffer
import Chip8.IoError

/-!
# Screens

A screen shows the picture.  The program never reads it, so showing is all
that a screen does; it may fail.
-/

namespace Chip8

/-- What can show a picture. -/
class Screen (σ : Type) where
  /-- Shows a picture, or fails. -/
  flush : Framebuffer → σ → Except IoError Unit × σ

/-- A screen that nobody sees.  It counts how often a picture was shown, and
can be told to refuse. -/
structure Headless where
  /-- How many pictures were shown. -/
  flushes : Nat := 0
  /-- How showing fails, if it is to fail. -/
  refusal : Option IoError := none
  deriving DecidableEq, Repr

/-- Showing a picture to nobody. -/
def Headless.flush (_ : Framebuffer) (h : Headless) :
    Except IoError Unit × Headless :=
  match h.refusal with
  | some e => (.error e, h)
  | none => (.ok (), { h with flushes := h.flushes + 1 })

instance : Screen Headless where
  flush := Headless.flush

end Chip8
