import Chip8.Machine.AwaitKey
import Chip8.Machine.Basic
import Chip8.Machine.Fault

/-!
# Carrying out instructions

`Machine.step` fetches the word at the program counter, decodes it, carries it
out and moves the program counter on.  A step that fails answers the fault
alone, so it cannot have changed anything.
-/

namespace Chip8

/-- Where the program goes after an instruction. -/
inductive Flow where
  /-- To the instruction behind it. -/
  | next
  /-- To the one behind that. -/
  | skip
  /-- To another place. -/
  | jump (target : UInt16)
  /-- Nowhere: the instruction runs again. -/
  | stall
  deriving DecidableEq, Repr

namespace Flow

/-- Skips an instruction on a condition. -/
def skipIf (condition : Bool) : Flow :=
  if condition then skip else next

/-- The program counter after an instruction at `address`. -/
def target (address : UInt16) : Flow → UInt16
  | next => address + 2
  | skip => address + 4
  | jump target => target
  | stall => address

end Flow

/-- The three decimal digits of a byte, the most significant first. -/
def decimalDigits (value : UInt8) : List UInt8 :=
  [value / 100, value / 10 % 10, value % 10]

namespace Machine

/-- Whether the key that a register names is held.  Only values below sixteen
name keys. -/
def keyHeld (m : Machine) (k : Keypad) (x : Register) : Bool :=
  match Key.ofValue? (m.register x) with
  | some key => k.isHeld key
  | none => false

/-- Combines two registers.  The flag is written after the result, so it wins
where the result is to go to the flag register. -/
def combine (m : Machine) (op : Alu) (x y : Register) : Machine :=
  let (result, flag?) := op.apply (m.register x) (m.register y)
  let m := m.setRegister x result
  match flag? with
  | some flag => m.setRegister flagRegister flag
  | none => m

/-- Carries out an instruction that lies at the program counter.  Answers where
to go on, the machine before the program counter has moved, and the keypad. -/
def execute (m : Machine) (k : Keypad) (instruction : Instruction) :
    Except Trap (Flow × Machine × Keypad) :=
  match instruction with
  | .clear => .ok (.next, { m with framebuffer := m.framebuffer.clear }, k)
  | .ret =>
    match m.stack.pop? with
    | some (caller, stack) => .ok (.jump (caller + 2), { m with stack }, k)
    | none => .error .stackUnderflow
  | .jump target => .ok (.jump (UInt16.ofNat target.val), m, k)
  | .call target =>
    match m.stack.push? m.pc with
    | some stack => .ok (.jump (UInt16.ofNat target.val), { m with stack }, k)
    | none => .error .stackOverflow
  | .skipIfByte x nn => .ok (.skipIf (m.register x = nn), m, k)
  | .skipUnlessByte x nn => .ok (.skipIf (m.register x ≠ nn), m, k)
  | .skipIfSame x y => .ok (.skipIf (m.register x = m.register y), m, k)
  | .skipUnlessSame x y => .ok (.skipIf (m.register x ≠ m.register y), m, k)
  | .setByte x nn => .ok (.next, m.setRegister x nn, k)
  | .addByte x nn => .ok (.next, m.setRegister x (m.register x + nn), k)
  | .alu op x y => .ok (.next, m.combine op x y, k)
  | .setIndex target => .ok (.next, { m with i := UInt16.ofNat target.val }, k)
  | .jumpBy base =>
    .ok (.jump (UInt16.ofNat base.val + (m.register 0).toUInt16), m, k)
  | .random x nn =>
    let (byte, random) := m.random.next
    .ok (.next, { m with random }.setRegister x (byte &&& nn), k)
  | .draw x y n =>
    match m.memory.read m.i n.val with
    | .ok sprite =>
      let (hit, framebuffer) :=
        m.framebuffer.draw (m.register x).toNat (m.register y).toNat sprite
      .ok (.next,
        { m with framebuffer }.setRegister flagRegister (Alu.flag hit), k)
    | .error e => .error (.memory e)
  | .skipIfHeld x => .ok (.skipIf (m.keyHeld k x), m, k)
  | .skipUnlessHeld x => .ok (.skipIf !m.keyHeld k x, m, k)
  | .getDelay x => .ok (.next, m.setRegister x m.delay, k)
  | .awaitKey x =>
    match AwaitKey.attempt m.ticket k with
    | (some value, ticket, k) =>
      .ok (.next, { m with ticket }.setRegister x value, k)
    | (none, ticket, k) => .ok (.stall, { m with ticket }, k)
  | .setDelay x => .ok (.next, { m with delay := m.register x }, k)
  | .setSound x => .ok (.next, { m with sound := m.register x }, k)
  | .addIndex x =>
    .ok (.next, { m with i := m.i + (m.register x).toUInt16 }, k)
  | .glyph x => .ok (.next, { m with i := Font.address (m.register x) }, k)
  | .storeDecimal x =>
    match m.memory.write m.i (decimalDigits (m.register x)) with
    | .ok memory => .ok (.next, { m with memory }, k)
    | .error e => .error (.memory e)
  | .storeRegisters x =>
    match m.memory.write m.i (m.v.toList.take (x.val + 1)) with
    | .ok memory => .ok (.next, { m with memory }, k)
    | .error e => .error (.memory e)
  | .loadRegisters x =>
    match m.memory.read m.i (x.val + 1) with
    | .ok values => .ok (.next, m.setRegisters values, k)
    | .error e => .error (.memory e)

/-- Runs the instruction at the program counter. -/
def step (m : Machine) (k : Keypad) : Except Fault (Machine × Keypad) :=
  match m.memory.word m.pc with
  | .error e => .error (.fetch m.pc e)
  | .ok opcode =>
    match Instruction.decode opcode with
    | none => .error (.unknownInstruction m.pc opcode)
    | some instruction =>
      match m.execute k instruction with
      | .error cause => .error (.trap m.pc opcode cause)
      | .ok (flow, after, k) => .ok ({ after with pc := flow.target m.pc }, k)

end Machine

end Chip8
