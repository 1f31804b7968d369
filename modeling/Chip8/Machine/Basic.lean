import Chip8.Framebuffer
import Chip8.Instruction.Basic
import Chip8.Keypad.Basic
import Chip8.Machine.CallStack
import Chip8.Memory.Basic
import Chip8.Random.Source

/-!
# The machine

All that a program can see or change, but for the keypad, which others share:
memory, the picture, sixteen registers of eight bits, the index register, the
program counter, the call stack, two timers that count frames down, and the
random numbers.
-/

namespace Chip8

/-- The state of the machine. -/
structure Machine where
  /-- Its memory. -/
  memory : Memory
  /-- The picture, as it has been drawn so far. -/
  framebuffer : Framebuffer
  /-- Where the next instruction lies. -/
  pc : UInt16 := Memory.programStart
  /-- The general registers. -/
  v : Vector UInt8 16 := Vector.replicate 16 0
  /-- The index register. -/
  i : UInt16 := 0
  /-- The open calls. -/
  stack : CallStack := .empty
  /-- The delay timer. -/
  delay : UInt8 := 0
  /-- The sound timer. -/
  sound : UInt8 := 0
  /-- Where random bytes come from. -/
  random : RandomSource
  /-- The ticket of an instruction that waits for a key. -/
  ticket : Option Ticket := none

namespace Machine

/-- A machine that is about to start the program in memory. -/
def start (memory : Memory) (resolution : Resolution) (seed : UInt64) :
    Machine where
  memory := memory
  framebuffer := .blank resolution
  random := { seed }

/-- The value of a register. -/
def register (m : Machine) (x : Register) : UInt8 :=
  m.v[x]

/-- Sets a register. -/
def setRegister (m : Machine) (x : Register) (value : UInt8) : Machine :=
  { m with v := m.v.set x.val value }

/-- Sets the first registers, from `V0` on. -/
def setRegisters (m : Machine) (values : List UInt8) : Machine :=
  { m with v := Memory.store m.v 0 values }

/-- A frame has passed: both timers come one nearer to zero. -/
def countDown (m : Machine) : Machine :=
  { m with
    delay := UInt8.ofNat (m.delay.toNat - 1)
    sound := UInt8.ofNat (m.sound.toNat - 1) }

end Machine

end Chip8
