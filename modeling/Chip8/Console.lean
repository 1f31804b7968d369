import Chip8.Machine.Step
import Chip8.Screen

/-!
# The console

A machine with its keypad and a screen.  Instructions and frames take turns
on it: `Console.step` runs one instruction, and `Console.frame` does what is
due sixty times a second, which is to count the timers down, to age key
presses, and to show the picture.
-/

namespace Chip8

/-- A machine, its keypad and its screen. -/
structure Console (σ : Type) where
  /-- The machine. -/
  machine : Machine
  /-- The keypad. -/
  keypad : Keypad := {}
  /-- The screen. -/
  screen : σ

namespace Console

variable {σ : Type}

/-- Runs one instruction. -/
def step (c : Console σ) : Except Fault (Console σ) :=
  match c.machine.step c.keypad with
  | .ok (machine, keypad) => .ok { c with machine, keypad }
  | .error f => .error f

/-- Goes through one frame.  Timers count also if the keyboard turns out to be
dead, and presses age also if the picture cannot be shown. -/
def frame [Screen σ] (c : Console σ) : Except Fault Unit × Console σ :=
  let counted := { c with machine := c.machine.countDown }
  match c.keypad.check with
  | .error e => (.error (.keyboard e), counted)
  | .ok () =>
    let aged := { counted with keypad := c.keypad.tick }
    match Screen.flush c.machine.framebuffer c.screen with
    | (.error e, screen) => (.error (.display e), { aged with screen })
    | (.ok (), screen) => (.ok (), { aged with screen })

/-- A key goes down. -/
def press (c : Console σ) (key : Key) : Console σ :=
  { c with keypad := c.keypad.press key }

/-- Whether the user wants to stop. -/
def exitRequested (c : Console σ) : Bool :=
  c.keypad.isHeld .exit

end Console

end Chip8
