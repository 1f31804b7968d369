import Chip8.Proofs.Console

/-!
# A program that runs in circles

The shortest program that never ends is a jump to itself.  A step of it changes
nothing at all, so it shows what the clocks and the keypad do by themselves.
-/

namespace Chip8

/-- A machine that jumps to where it is. -/
def Machine.circling : Machine :=
  .start (.loaded [0x12, 0x00] (by decide)) .standard 0

/-- Each step of it ends where it began. -/
theorem Machine.step_circling (k : Keypad) :
    circling.step k = .ok (circling, k) := by
  have hword : circling.memory.word circling.pc = .ok 0x1200 :=
    Memory.word_loaded (j := 0) (by decide) (by decide) rfl
  have hdecode : Instruction.decode 0x1200 = some (.jump 0x200) := by decide
  rw [step_of_decode k hword hdecode]
  rfl

/-- Such a machine with a keypad, and a screen that nobody sees. -/
def Console.circling (k : Keypad) (flushes : Nat) : Console Headless where
  machine := .circling
  keypad := k
  screen := { flushes }

/-- A step of it changes nothing. -/
theorem Console.step_circling (k : Keypad) (flushes : Nat) :
    (circling k flushes).step = .ok (circling k flushes) :=
  step_eq_ok (Machine.step_circling k)

/-- A frame of it forgets presses and shows the picture. -/
theorem Console.frame_circling {k : Keypad} (flushes : Nat)
    (h : k.check = .ok ()) :
    (circling k flushes).frame = (.ok (), circling k.tick (flushes + 1)) := by
  have hcheck : (circling k flushes).keypad.check = .ok () := h
  simp only [frame, hcheck]
  rfl

end Chip8
