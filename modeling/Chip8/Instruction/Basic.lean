import Chip8.Word

/-!
# Instructions

An instruction is one big-endian word.  Its high nibble selects the family
and the other nibbles are operands:

* `x` and `y`, the second and third nibble, name registers;
* `n` is the lowest nibble, `nn` the low byte, and `nnn` the low twelve bits.

`Instruction.decode` reads a word and refuses one that is in no row of the
table; `Instruction.word` writes an instruction back.  Operand types are
exactly as wide as the fields they come from, so an instruction stands for
one word and for no other.
-/

namespace Chip8

/-- One of the sixteen general registers `V0` to `VF`. -/
abbrev Register := Fin 16

/-- A four-bit operand. -/
abbrev Nibble := Fin 16

/-- A twelve-bit operand: a place in the 4096 bytes of memory. -/
abbrev Place := Fin 4096

/-- There are numerals for places, with the zero of the core library. -/
instance neZeroPlaces : @NeZero Nat Zero.ofOfNat0 4096 :=
  ⟨Nat.succ_ne_zero 4095⟩

/-- The register that flagged arithmetic and drawing leave their flag in. -/
def flagRegister : Register := 15

/-! ## The fields of a word -/

/-- The operand fields of a word.  They overlap: `nn` is `y` and `n` read
together, and `nnn` is `x` and `nn`. -/
structure Fields where
  /-- The family, bits 12 to 15. -/
  op : Nibble
  /-- Bits 8 to 11. -/
  x : Nibble
  /-- Bits 4 to 7. -/
  y : Nibble
  /-- Bits 0 to 3. -/
  n : Nibble
  /-- Bits 0 to 7. -/
  nn : UInt8
  /-- Bits 0 to 11. -/
  nnn : Place
  deriving DecidableEq, Repr

/-- Splits a word into its fields. -/
def Fields.ofWord (w : UInt16) : Fields where
  op := Fin.ofNat 16 (w.toNat / 4096)
  x := Fin.ofNat 16 (w.toNat / 256)
  y := Fin.ofNat 16 (w.toNat / 16)
  n := Fin.ofNat 16 w.toNat
  nn := UInt8.ofNat w.toNat
  nnn := Fin.ofNat 4096 w.toNat

/-! ## Register arithmetic -/

/-- The operations of the `8xyn` family, which combine two registers. -/
inductive Alu where
  /-- `8xy0`: copy. -/
  | copy
  /-- `8xy1`: bitwise or. -/
  | or
  /-- `8xy2`: bitwise and. -/
  | and
  /-- `8xy3`: bitwise exclusive or. -/
  | xor
  /-- `8xy4`: sum, with carry. -/
  | add
  /-- `8xy5`: first less second. -/
  | sub
  /-- `8xy6`: first halved. -/
  | shiftRight
  /-- `8xy7`: second less first. -/
  | subFrom
  /-- `8xyE`: first doubled. -/
  | shiftLeft
  deriving DecidableEq, Repr

namespace Alu

/-- The lowest nibble that selects an operation. -/
def code : Alu → Nibble
  | copy => 0x0
  | or => 0x1
  | and => 0x2
  | xor => 0x3
  | add => 0x4
  | sub => 0x5
  | shiftRight => 0x6
  | subFrom => 0x7
  | shiftLeft => 0xE

/-- The operation that a lowest nibble selects; seven nibbles select none. -/
def ofCode? (n : Nibble) : Option Alu :=
  match n.val with
  | 0x0 => some copy
  | 0x1 => some or
  | 0x2 => some and
  | 0x3 => some xor
  | 0x4 => some add
  | 0x5 => some sub
  | 0x6 => some shiftRight
  | 0x7 => some subFrom
  | 0xE => some shiftLeft
  | _ => none

/-- The code of an operation selects it. -/
theorem ofCode?_code (op : Alu) : ofCode? op.code = some op := by
  cases op <;> rfl

/-- One bit as a register value. -/
def flag (set : Bool) : UInt8 :=
  if set then 1 else 0

/-- The result of an operation on the values of `Vx` and `Vy`, and the flag it
leaves, if it leaves one.  Results are taken modulo 256.  The flag of `add`
is the carry, that of a difference says that the minuend is the greater, and
that of a shift is the bit shifted out. -/
def apply : Alu → UInt8 → UInt8 → UInt8 × Option UInt8
  | copy, _, b => (b, none)
  | or, a, b => (a ||| b, none)
  | and, a, b => (a &&& b, none)
  | xor, a, b => (a ^^^ b, none)
  | add, a, b => (a + b, some (flag (255 < a.toNat + b.toNat)))
  | sub, a, b => (a - b, some (flag (b < a)))
  | shiftRight, a, _ => (a >>> 1, some (a &&& 1))
  | subFrom, a, b => (b - a, some (flag (a < b)))
  | shiftLeft, a, _ => (a <<< 1, some (a >>> 7))

end Alu

/-! ## The instruction table -/

/-- The instructions of the machine, one constructor per row of the table. -/
inductive Instruction where
  /-- `00E0`: turn every pixel off. -/
  | clear
  /-- `00EE`: go back behind the last open call. -/
  | ret
  /-- `1nnn`: go to `nnn`. -/
  | jump (target : Place)
  /-- `2nnn`: call the routine at `nnn`. -/
  | call (target : Place)
  /-- `3xnn`: skip the next instruction if `Vx` is `nn`. -/
  | skipIfByte (x : Register) (nn : UInt8)
  /-- `4xnn`: skip the next instruction unless `Vx` is `nn`. -/
  | skipUnlessByte (x : Register) (nn : UInt8)
  /-- `5xy0`: skip the next instruction if `Vx` is `Vy`. -/
  | skipIfSame (x y : Register)
  /-- `6xnn`: set `Vx` to `nn`. -/
  | setByte (x : Register) (nn : UInt8)
  /-- `7xnn`: add `nn` to `Vx`, without a flag. -/
  | addByte (x : Register) (nn : UInt8)
  /-- `8xyn`: combine `Vx` and `Vy` into `Vx`. -/
  | alu (op : Alu) (x y : Register)
  /-- `9xy0`: skip the next instruction unless `Vx` is `Vy`. -/
  | skipUnlessSame (x y : Register)
  /-- `Annn`: point the index register at `nnn`. -/
  | setIndex (target : Place)
  /-- `Bnnn`: go to `nnn` plus `V0`. -/
  | jumpBy (base : Place)
  /-- `Cxnn`: set `Vx` to a random byte, of which `nn` selects the bits. -/
  | random (x : Register) (nn : UInt8)
  /-- `Dxyn`: draw the `n` bytes at the index register at (`Vx`, `Vy`). -/
  | draw (x y : Register) (n : Nibble)
  /-- `Ex9E`: skip the next instruction if the key `Vx` is held. -/
  | skipIfHeld (x : Register)
  /-- `ExA1`: skip the next instruction unless the key `Vx` is held. -/
  | skipUnlessHeld (x : Register)
  /-- `Fx07`: read the delay timer into `Vx`. -/
  | getDelay (x : Register)
  /-- `Fx0A`: wait for a key and put it into `Vx`. -/
  | awaitKey (x : Register)
  /-- `Fx15`: set the delay timer to `Vx`. -/
  | setDelay (x : Register)
  /-- `Fx18`: set the sound timer to `Vx`. -/
  | setSound (x : Register)
  /-- `Fx1E`: add `Vx` to the index register. -/
  | addIndex (x : Register)
  /-- `Fx29`: point the index register at the glyph of the digit `Vx`. -/
  | glyph (x : Register)
  /-- `Fx33`: store the three decimal digits of `Vx`. -/
  | storeDecimal (x : Register)
  /-- `Fx55`: store `V0` to `Vx`. -/
  | storeRegisters (x : Register)
  /-- `Fx65`: load `V0` to `Vx`. -/
  | loadRegisters (x : Register)
  deriving DecidableEq, Repr

namespace Instruction

/-- The instruction that a word stands for, or `none` if it is in no row of the
table. -/
def decode (w : UInt16) : Option Instruction :=
  let f := Fields.ofWord w
  match f.op.val with
  | 0x0 =>
    match f.nnn.val with
    | 0x0E0 => some clear
    | 0x0EE => some ret
    | _ => none
  | 0x1 => some (jump f.nnn)
  | 0x2 => some (call f.nnn)
  | 0x3 => some (skipIfByte f.x f.nn)
  | 0x4 => some (skipUnlessByte f.x f.nn)
  | 0x5 => if f.n = 0 then some (skipIfSame f.x f.y) else none
  | 0x6 => some (setByte f.x f.nn)
  | 0x7 => some (addByte f.x f.nn)
  | 0x8 => (Alu.ofCode? f.n).map (alu · f.x f.y)
  | 0x9 => if f.n = 0 then some (skipUnlessSame f.x f.y) else none
  | 0xA => some (setIndex f.nnn)
  | 0xB => some (jumpBy f.nnn)
  | 0xC => some (random f.x f.nn)
  | 0xD => some (draw f.x f.y f.n)
  | 0xE =>
    match f.nn.toNat with
    | 0x9E => some (skipIfHeld f.x)
    | 0xA1 => some (skipUnlessHeld f.x)
    | _ => none
  | 0xF =>
    match f.nn.toNat with
    | 0x07 => some (getDelay f.x)
    | 0x0A => some (awaitKey f.x)
    | 0x15 => some (setDelay f.x)
    | 0x18 => some (setSound f.x)
    | 0x1E => some (addIndex f.x)
    | 0x29 => some (glyph f.x)
    | 0x33 => some (storeDecimal f.x)
    | 0x55 => some (storeRegisters f.x)
    | 0x65 => some (loadRegisters f.x)
    | _ => none
  | _ => none

/-- A word from its family and its low twelve bits. -/
def wordOfPlace (op : Nibble) (nnn : Place) : UInt16 :=
  UInt16.ofNat (4096 * op.val + nnn.val)

/-- A word from its family, its `x` field and its low byte. -/
def wordOfByte (op : Nibble) (x : Register) (nn : UInt8) : UInt16 :=
  UInt16.ofNat (4096 * op.val + 256 * x.val + nn.toNat)

/-- A word from its four nibbles. -/
def wordOfNibbles (op : Nibble) (x y : Register) (n : Nibble) : UInt16 :=
  UInt16.ofNat (4096 * op.val + 256 * x.val + 16 * y.val + n.val)

/-- The word that an instruction is written as. -/
def word : Instruction → UInt16
  | clear => 0x00E0
  | ret => 0x00EE
  | jump target => wordOfPlace 0x1 target
  | call target => wordOfPlace 0x2 target
  | skipIfByte x nn => wordOfByte 0x3 x nn
  | skipUnlessByte x nn => wordOfByte 0x4 x nn
  | skipIfSame x y => wordOfNibbles 0x5 x y 0
  | setByte x nn => wordOfByte 0x6 x nn
  | addByte x nn => wordOfByte 0x7 x nn
  | alu op x y => wordOfNibbles 0x8 x y op.code
  | skipUnlessSame x y => wordOfNibbles 0x9 x y 0
  | setIndex target => wordOfPlace 0xA target
  | jumpBy base => wordOfPlace 0xB base
  | random x nn => wordOfByte 0xC x nn
  | draw x y n => wordOfNibbles 0xD x y n
  | skipIfHeld x => wordOfByte 0xE x 0x9E
  | skipUnlessHeld x => wordOfByte 0xE x 0xA1
  | getDelay x => wordOfByte 0xF x 0x07
  | awaitKey x => wordOfByte 0xF x 0x0A
  | setDelay x => wordOfByte 0xF x 0x15
  | setSound x => wordOfByte 0xF x 0x18
  | addIndex x => wordOfByte 0xF x 0x1E
  | glyph x => wordOfByte 0xF x 0x29
  | storeDecimal x => wordOfByte 0xF x 0x33
  | storeRegisters x => wordOfByte 0xF x 0x55
  | loadRegisters x => wordOfByte 0xF x 0x65

end Instruction

end Chip8
