/-!
# Settings of a run
-/

namespace Chip8

/-- What can be chosen for a run besides the program. -/
structure Settings where
  /-- Instructions per second. -/
  clockRate : Nat := 540
  /-- Frames per second: display refreshes, and steps of timers and keys. -/
  frameRate : Nat := 60
  /-- The seed of the random numbers; without one the host picks it. -/
  seed : Option UInt64 := none
  deriving DecidableEq, Repr

end Chip8
