import Chip8.Instruction.Assembly
import Chip8.Memory.Basic

/-!
# Listings

A listing shows a program as it lies in memory from `0x200` on, one word per
line: the address, the two bytes, and what the word means.  Data is read as
words too.  A word that is no instruction is `UNKNOWN`, but for those of the
family `0nnn`, which once called machine code and are listed as `SYS`.
-/

namespace Chip8.Listing

/-- One line of a listing: two bytes and where they lie. -/
structure Line where
  /-- The address of the first byte.  It is not bounded by the memory, since a
  program of any length can be listed. -/
  address : Nat
  /-- The byte at `address`. -/
  high : UInt8
  /-- The byte behind it. -/
  low : UInt8
  deriving DecidableEq, Repr

namespace Line

/-- The word that a line shows. -/
def word (l : Line) : UInt16 :=
  Word.ofBytes l.high l.low

/-- What a line tells about its word. -/
def meaning (l : Line) : List Char :=
  match Instruction.decode l.word with
  | some i => i.letters
  | none =>
    let f := Fields.ofWord l.word
    if f.op = 0 then (Statement.mk .sys [.place f.nnn]).letters
    else "UNKNOWN".toList

/-- A line as it is written, without its end. -/
def letters (l : Line) : List Char :=
  Hex.digits 4 l.address ++ ' ' :: Hex.digits 2 l.high.toNat ++
    ' ' :: Hex.digits 2 l.low.toNat ++ ' ' :: l.meaning

end Line

/-- The lines of a program that lies at `address`.  An odd last byte is read
with a zero behind it. -/
def linesFrom (address : Nat) : List UInt8 → List Line
  | [] => []
  | [high] => [⟨address, high, 0⟩]
  | high :: low :: rest => ⟨address, high, low⟩ :: linesFrom (address + 2) rest

/-- The lines of a program. -/
def lines (program : List UInt8) : List Line :=
  linesFrom Memory.programStart.toNat program

/-- A line as it stands in the listing, with its end. -/
def Line.written (l : Line) : List Char :=
  l.letters ++ ['\n']

/-- The whole listing of a program. -/
def letters (program : List UInt8) : List Char :=
  (lines program).flatMap Line.written

/-- The whole listing, as a string. -/
def text (program : List UInt8) : String :=
  String.ofList (letters program)

end Chip8.Listing
