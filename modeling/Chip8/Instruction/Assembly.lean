import Chip8.Column
import Chip8.Hex
import Chip8.Instruction.Basic

/-!
# Assembly text

An instruction is shown as a mnemonic in a column of ten, then its operands
behind a space, with a comma between two of them.  The mnemonic and the
operands are kept as values, so that text is made in one place and which
instruction is shown how can be read off a table.
-/

namespace Chip8

/-! ## Words of the assembly language -/

/-- The mnemonics.  Several instructions share one and differ in operands. -/
inductive Mnemonic where
  | cls | ret | jp | call | se | sne | ld | add | or | and | xor | sub | shr
  | subn | shl | rnd | drw | skp | sknp | sys
  deriving DecidableEq, Repr

/-- A mnemonic as it is written. -/
def Mnemonic.letters : Mnemonic → List Char
  | cls => "CLS".toList
  | ret => "RET".toList
  | jp => "JP".toList
  | call => "CALL".toList
  | se => "SE".toList
  | sne => "SNE".toList
  | ld => "LD".toList
  | add => "ADD".toList
  | or => "OR".toList
  | and => "AND".toList
  | xor => "XOR".toList
  | sub => "SUB".toList
  | shr => "SHR".toList
  | subn => "SUBN".toList
  | shl => "SHL".toList
  | rnd => "RND".toList
  | drw => "DRW".toList
  | skp => "SKP".toList
  | sknp => "SKNP".toList
  | sys => "SYS".toList

/-- What an instruction can work on. -/
inductive Operand where
  /-- A general register. -/
  | register (x : Register)
  /-- A constant byte. -/
  | byte (nn : UInt8)
  /-- A constant nibble. -/
  | nibble (n : Nibble)
  /-- A place in memory. -/
  | place (nnn : Place)
  /-- The index register. -/
  | index
  /-- The memory at the index register. -/
  | atIndex
  /-- The delay timer. -/
  | delay
  /-- The sound timer. -/
  | sound
  /-- The next key. -/
  | key
  /-- The glyph of a digit. -/
  | glyph
  /-- Decimal digits. -/
  | decimal
  deriving DecidableEq, Repr

/-- An operand as it is written: constants in hexadecimal, as wide as their
field. -/
def Operand.letters : Operand → List Char
  | register x => 'V' :: Hex.digits 1 x.val
  | byte nn => Hex.digits 2 nn.toNat
  | nibble n => Hex.digits 1 n.val
  | place nnn => Hex.digits 3 nnn.val
  | index => "I".toList
  | atIndex => "[I]".toList
  | delay => "DT".toList
  | sound => "ST".toList
  | key => "K".toList
  | glyph => "F".toList
  | decimal => "B".toList

/-- A mnemonic with its operands. -/
structure Statement where
  /-- What is done. -/
  mnemonic : Mnemonic
  /-- What it is done to, the destination first. -/
  operands : List Operand
  deriving DecidableEq, Repr

/-- The text of a statement.  One without operands still fills the mnemonic's
column. -/
def Statement.letters (s : Statement) : List Char :=
  let column := Column.left 10 s.mnemonic.letters
  if s.operands.isEmpty then column
  else column ++ ' ' :: ", ".toList.intercalate (s.operands.map Operand.letters)

/-! ## Instructions as statements -/

/-- The mnemonic of a register operation. -/
def Alu.mnemonic : Alu → Mnemonic
  | copy => .ld
  | or => .or
  | and => .and
  | xor => .xor
  | add => .add
  | sub => .sub
  | shiftRight => .shr
  | subFrom => .subn
  | shiftLeft => .shl

namespace Instruction

/-- How an instruction is stated. -/
def statement : Instruction → Statement
  | clear => ⟨.cls, []⟩
  | ret => ⟨.ret, []⟩
  | jump target => ⟨.jp, [.place target]⟩
  | call target => ⟨.call, [.place target]⟩
  | skipIfByte x nn => ⟨.se, [.register x, .byte nn]⟩
  | skipUnlessByte x nn => ⟨.sne, [.register x, .byte nn]⟩
  | skipIfSame x y => ⟨.se, [.register x, .register y]⟩
  | setByte x nn => ⟨.ld, [.register x, .byte nn]⟩
  | addByte x nn => ⟨.add, [.register x, .byte nn]⟩
  | alu op x y => ⟨op.mnemonic, [.register x, .register y]⟩
  | skipUnlessSame x y => ⟨.sne, [.register x, .register y]⟩
  | setIndex target => ⟨.ld, [.index, .place target]⟩
  | jumpBy base => ⟨.jp, [.register 0, .place base]⟩
  | random x nn => ⟨.rnd, [.register x, .byte nn]⟩
  | draw x y n => ⟨.drw, [.register x, .register y, .nibble n]⟩
  | skipIfHeld x => ⟨.skp, [.register x]⟩
  | skipUnlessHeld x => ⟨.sknp, [.register x]⟩
  | getDelay x => ⟨.ld, [.register x, .delay]⟩
  | awaitKey x => ⟨.ld, [.register x, .key]⟩
  | setDelay x => ⟨.ld, [.delay, .register x]⟩
  | setSound x => ⟨.ld, [.sound, .register x]⟩
  | addIndex x => ⟨.add, [.index, .register x]⟩
  | glyph x => ⟨.ld, [.glyph, .register x]⟩
  | storeDecimal x => ⟨.ld, [.decimal, .register x]⟩
  | storeRegisters x => ⟨.ld, [.atIndex, .register x]⟩
  | loadRegisters x => ⟨.ld, [.register x, .atIndex]⟩

/-- The text of an instruction. -/
def letters (i : Instruction) : List Char :=
  i.statement.letters

/-- The text of an instruction, as a string. -/
def assembly (i : Instruction) : String :=
  String.ofList i.letters

end Instruction

end Chip8
