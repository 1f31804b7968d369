import Chip8.Machine.Step

/-!
# The instruction table

What each instruction does to each part of the machine, in numbers.  There is
one function per part: it names the instructions that touch the part, and
every other instruction leaves the part as it was.  Operands are the values
from before the instruction, so a register that is both operand and result
needs no special rule; where two results fall on one register, the flag comes
first.

Waiting for a key is not in this table: it depends on what the keypad has put
aside, and it changes the keypad.

## Main definitions

* `Table.trap?` — what keeps an instruction from being carried out.
* `Table.After` — the machine after it, part by part.
-/

namespace Chip8

/-! ## Register arithmetic in numbers -/

namespace Alu

/-- The result of an operation on the numbers in `Vx` and `Vy`. -/
def number : Alu → Nat → Nat → Nat
  | copy, _, b => b
  | or, a, b => a ||| b
  | and, a, b => a &&& b
  | xor, a, b => a ^^^ b
  | add, a, b => (a + b) % 256
  | sub, a, b => (((a : Int) - b) % 256).toNat
  | shiftRight, a, _ => a / 2
  | subFrom, a, b => (((b : Int) - a) % 256).toNat
  | shiftLeft, a, _ => 2 * a % 256

/-- The flag that an operation leaves, if it leaves one. -/
def flagNumber? : Alu → Nat → Nat → Option Nat
  | add, a, b => some (if 255 < a + b then 1 else 0)
  | sub, a, b => some (if b < a then 1 else 0)
  | shiftRight, a, _ => some (a % 2)
  | subFrom, a, b => some (if a < b then 1 else 0)
  | shiftLeft, a, _ => some (a / 128)
  | _, _, _ => none

end Alu

/-! ## The machine in numbers -/

namespace Machine

/-- The number in a register. -/
def value (m : Machine) (x : Register) : Nat :=
  (m.register x).toNat

/-- The number at an address, which is nothing beyond memory. -/
def cell (m : Machine) (a : Nat) : Nat :=
  (m.memory.bytes[a]?.getD 0).toNat

/-- The bytes from an address on. -/
def slice (m : Machine) (a length : Nat) : List UInt8 :=
  (m.memory.bytes.toList.drop a).take length

end Machine

namespace Table

/-! ## What keeps an instruction from being carried out -/

/-- The trap of an access at the index register that goes beyond memory. -/
def outside? (m : Machine) (length : Nat) : Option Trap :=
  if m.i.toNat + length ≤ Memory.size then none
  else some (.memory ⟨m.i, length⟩)

/-- The trap that an instruction runs into, if it cannot be carried out: there
is no call to return from or no room for one, or its bytes lie beyond memory. -/
def trap? (m : Machine) : Instruction → Option Trap
  | .ret => if 0 < m.stack.depth then none else some .stackUnderflow
  | .call _ => if m.stack.depth < maxDepth then none else some .stackOverflow
  | .draw _ _ n => outside? m n.val
  | .storeDecimal _ => outside? m 3
  | .storeRegisters x => outside? m (x.val + 1)
  | .loadRegisters x => outside? m (x.val + 1)
  | _ => none

/-! ## The parts of the machine after an instruction -/

/-- The picture, and whether drawing on it met a lit pixel. -/
def drawn (m : Machine) (x y : Register) (n : Nibble) : Bool × Framebuffer :=
  m.framebuffer.draw (m.value x) (m.value y) (m.slice m.i.toNat n.val)

/-- A register. -/
def register (m : Machine) : Instruction → Register → Nat
  | .setByte x nn, r => if r = x then nn.toNat else m.value r
  | .addByte x nn, r =>
    if r = x then (m.value x + nn.toNat) % 256 else m.value r
  | .alu op x y, r =>
    match op.flagNumber? (m.value x) (m.value y) with
    | some flag =>
      if r = flagRegister then flag
      else if r = x then op.number (m.value x) (m.value y)
      else m.value r
    | none => if r = x then op.number (m.value x) (m.value y) else m.value r
  | .random x nn, r =>
    if r = x then
      (Random.byteAt m.random.seed m.random.drawn).toNat &&& nn.toNat
    else m.value r
  | .draw x y n, r =>
    if r = flagRegister then (if (drawn m x y n).1 then 1 else 0)
    else m.value r
  | .getDelay x, r => if r = x then m.delay.toNat else m.value r
  | .loadRegisters x, r =>
    if r ≤ x then m.cell (m.i.toNat + r.val) else m.value r
  | _, r => m.value r

/-- The index register. -/
def index (m : Machine) : Instruction → Nat
  | .setIndex target => target.val
  | .addIndex x => (m.i.toNat + m.value x) % 65536
  | .glyph x => 5 * m.value x
  | _ => m.i.toNat

/-- The byte at an address. -/
def cell (m : Machine) : Instruction → Nat → Nat
  | .storeDecimal x, a =>
    if a = m.i.toNat then m.value x / 100
    else if a = m.i.toNat + 1 then m.value x / 10 % 10
    else if a = m.i.toNat + 2 then m.value x % 10
    else m.cell a
  | .storeRegisters x, a =>
    if m.i.toNat ≤ a ∧ a ≤ m.i.toNat + x.val then
      m.value (Fin.ofNat 16 (a - m.i.toNat))
    else m.cell a
  | _, a => m.cell a

/-- The addresses of the open calls, the newest first. -/
def callers (m : Machine) : Instruction → List UInt16
  | .ret => m.stack.callers.tail
  | .call _ => m.pc :: m.stack.callers
  | _ => m.stack.callers

/-- The delay timer. -/
def delay (m : Machine) : Instruction → Nat
  | .setDelay x => m.value x
  | _ => m.delay.toNat

/-- The sound timer. -/
def sound (m : Machine) : Instruction → Nat
  | .setSound x => m.value x
  | _ => m.sound.toNat

/-- The picture. -/
def picture (m : Machine) : Instruction → Framebuffer
  | .clear => .blank m.framebuffer.resolution
  | .draw x y n => (drawn m x y n).2
  | _ => m.framebuffer

/-- How many random bytes have been drawn. -/
def randomPosition (m : Machine) : Instruction → Nat
  | .random _ _ => m.random.drawn + 1
  | _ => m.random.drawn

/-! ## The program counter after an instruction -/

/-- Whether the key that a register names is down.  There are sixteen. -/
def keyDown (m : Machine) (k : Keypad) (x : Register) : Bool :=
  decide (m.value x < 16) && k.isHeld (.hex (m.register x))

/-- Whether the next instruction is left out. -/
def skips (m : Machine) (k : Keypad) : Instruction → Bool
  | .skipIfByte x nn => m.value x = nn.toNat
  | .skipUnlessByte x nn => m.value x ≠ nn.toNat
  | .skipIfSame x y => m.value x = m.value y
  | .skipUnlessSame x y => m.value x ≠ m.value y
  | .skipIfHeld x => keyDown m k x
  | .skipUnlessHeld x => !keyDown m k x
  | _ => false

/-- The program counter. -/
def pc (m : Machine) (k : Keypad) : Instruction → Nat
  | .ret => ((m.stack.callers.headD 0).toNat + 2) % 65536
  | .jump target => target.val
  | .call target => target.val
  | .jumpBy base => base.val + m.value 0
  | i => (m.pc.toNat + if skips m k i then 4 else 2) % 65536

/-! ## The machine after an instruction -/

/-- The machine after an instruction, part by part, but for the program
counter.  A part that needs no argument is one that the instruction leaves
alone. -/
structure Carried (m : Machine) (i : Instruction) (after : Machine) : Prop where
  register : ∀ r, after.value r = Table.register m i r := by intro r; rfl
  index : after.i.toNat = Table.index m i := by rfl
  cell : ∀ a, after.cell a = Table.cell m i a := by intro a; rfl
  programLength :
    after.memory.programLength = m.memory.programLength := by rfl
  callers : after.stack.callers = Table.callers m i := by rfl
  delay : after.delay.toNat = Table.delay m i := by rfl
  sound : after.sound.toNat = Table.sound m i := by rfl
  picture : after.framebuffer = Table.picture m i := by rfl
  randomPosition : after.random.drawn = Table.randomPosition m i := by rfl
  seed : after.random.seed = m.random.seed := by rfl
  ticket : after.ticket = m.ticket := by rfl

/-- The machine after an instruction, with the program counter moved on. -/
structure After (m : Machine) (k : Keypad) (i : Instruction)
    (after : Machine) : Prop extends Carried m i after where
  pc : after.pc.toNat = Table.pc m k i

end Table

end Chip8
