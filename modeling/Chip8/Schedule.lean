import Chip8.Clock
import Chip8.Console
import Chip8.Settings

/-!
# The schedule

Instructions and frames each have a clock.  Whichever tick comes first is
served first, and a frame comes before an instruction of the same instant.
The exit key is looked at after every instruction.
-/

namespace Chip8

/-- What happened when the schedule was looked at. -/
inductive Tick where
  /-- An instruction ran. -/
  | instruction
  /-- A frame was gone through. -/
  | frame
  /-- An instruction ran, and the user wants to stop. -/
  | exit
  /-- Nothing is to be done before an instant. -/
  | idle (until_ : Nat)
  deriving DecidableEq, Repr

/-- When what is due, and what has been done. -/
structure Schedule where
  /-- The clock of the instructions. -/
  instructions : Clock
  /-- The clock of the frames. -/
  frames : Clock
  /-- How many instructions ran. -/
  instructionCount : Nat := 0
  /-- How many frames were gone through. -/
  frameCount : Nat := 0
  deriving DecidableEq, Repr

namespace Schedule

variable {σ : Type}

/-- A schedule that starts at an instant. -/
def start (settings : Settings) (now : Nat) : Schedule where
  instructions := .ofRate settings.clockRate now
  frames := .ofRate settings.frameRate now

/-- When there is something to do next. -/
def nextDeadline (s : Schedule) : Nat :=
  min s.frames.deadline s.instructions.deadline

/-- Serves the earlier of the two clocks, if it is due.  A tick that fails is
not counted and stays due. -/
def tick [Screen σ] (s : Schedule) (c : Console σ) (now : Nat) :
    Except Fault Tick × Schedule × Console σ :=
  if s.frames.deadline ≤ s.instructions.deadline then
    if s.frames.isDue now then
      match c.frame with
      | (.error f, c) => (.error f, s, c)
      | (.ok (), c) =>
        (.ok .frame,
          { s with
            frames := s.frames.advance now
            frameCount := s.frameCount + 1 },
          c)
    else (.ok (.idle s.nextDeadline), s, c)
  else if s.instructions.isDue now then
    match c.step with
    | .error f => (.error f, s, c)
    | .ok c =>
      (.ok (if c.exitRequested then .exit else .instruction),
        { s with
          instructions := s.instructions.advance now
          instructionCount := s.instructionCount + 1 },
        c)
  else (.ok (.idle s.nextDeadline), s, c)

end Schedule

end Chip8
