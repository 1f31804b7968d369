import Chip8.Hex
import Chip8.Memory.Font
import Chip8.Word

/-!
# Memory

The machine has 4096 bytes.  The font lies at the bottom and the program from
`0x200` on; what lies between is free.

Addresses are sixteen bits wide and lengths are not bounded, so an access may
reach beyond the end.  It is then refused as a whole, with the address and the
length that were asked for, and memory stays as it was.
-/

namespace Chip8

/-- An access that does not lie within memory. -/
structure OutOfRange where
  /-- The first address of the access. -/
  address : UInt16
  /-- How many bytes were asked for. -/
  length : Nat
  deriving DecidableEq, Repr

namespace Memory

/-- How many bytes there are. -/
def size : Nat := 4096

/-- Where programs are loaded. -/
def programStart : UInt16 := 0x200

/-- How long a program may be. -/
def programRoom : Nat := 3584

/-- Programs have all the room above their start. -/
theorem programStart_add_programRoom :
    programStart.toNat + programRoom = size := rfl

end Memory

/-- What to tell the user. -/
def OutOfRange.message (e : OutOfRange) : String :=
  toString e.length ++ " byte(s) at " ++ Hex.address e.address ++
    " fall outside the " ++ toString Memory.size ++ " byte address space"

/-- The bytes of the machine, and how many of them, from `0x200` on, are the
program that was loaded last. -/
structure Memory where
  /-- The contents. -/
  bytes : Vector UInt8 Memory.size
  /-- The length of the program. -/
  programLength : Nat
  /-- The program lies within memory. -/
  programLength_le : programLength ≤ Memory.programRoom

namespace Memory

/-- Puts bytes one behind the other, from `start` on.  Those that would lie
beyond the end are dropped. -/
def store {n : Nat} (cells : Vector UInt8 n) (start : Nat) :
    List UInt8 → Vector UInt8 n
  | [] => cells
  | b :: rest => store (cells.setIfInBounds start b) (start + 1) rest

/-- Memory before any program is loaded: the font, and zeros. -/
def fresh : Memory where
  bytes := store (Vector.replicate size 0) Font.start.toNat Font.glyphs
  programLength := 0
  programLength_le := Nat.zero_le _

/-- Reads `length` bytes from `address` on. -/
def read (m : Memory) (address : UInt16) (length : Nat) :
    Except OutOfRange (List UInt8) :=
  if h : address.toNat + length ≤ size then
    .ok (List.ofFn fun i : Fin length =>
      m.bytes[address.toNat + i.val])
  else .error ⟨address, length⟩

/-- Reads one byte. -/
def byte (m : Memory) (address : UInt16) : Except OutOfRange UInt8 :=
  if h : address.toNat + 1 ≤ size then .ok m.bytes[address.toNat]
  else .error ⟨address, 1⟩

/-- Reads one word, as instructions are fetched. -/
def word (m : Memory) (address : UInt16) : Except OutOfRange UInt16 :=
  if h : address.toNat + 2 ≤ size then
    .ok (Word.ofBytes m.bytes[address.toNat] m.bytes[address.toNat + 1])
  else .error ⟨address, 2⟩

/-- Writes bytes from `address` on. -/
def write (m : Memory) (address : UInt16) (data : List UInt8) :
    Except OutOfRange Memory :=
  if address.toNat + data.length ≤ size then
    .ok { m with bytes := store m.bytes address.toNat data }
  else .error ⟨address, data.length⟩

/-- Sets `length` bytes from `address` on to one value. -/
def fill (m : Memory) (address : UInt16) (length : Nat) (value : UInt8) :
    Except OutOfRange Memory :=
  if address.toNat + length ≤ size then
    .ok { m with
      bytes := store m.bytes address.toNat (List.replicate length value) }
  else .error ⟨address, length⟩

/-- The program that was loaded last, as its bytes are now. -/
def program (m : Memory) : List UInt8 :=
  List.ofFn fun i : Fin m.programLength =>
    have := m.programLength_le
    have := programStart_add_programRoom
    m.bytes[programStart.toNat + i.val]

end Memory

end Chip8
