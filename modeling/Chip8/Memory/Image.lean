import Chip8.IoError
import Chip8.Memory.Basic

/-!
# Program images

An image is read piece by piece until a piece is empty or none is left.  It is
read as a whole before memory is touched: a reader that fails, or an image
that is too long, leaves memory and the program in it as they were.
-/

namespace Chip8

/-- One answer of a reader. -/
inductive Chunk where
  /-- Some bytes; none mean the end. -/
  | data (bytes : List UInt8)
  /-- The read failed. -/
  | failure (e : IoError)
  deriving DecidableEq, Repr

/-- Everything a reader delivers.  An interrupted read is tried again, any
other failure is final. -/
def Chunk.readAll : List Chunk → Except IoError (List UInt8)
  | [] => .ok []
  | .data [] :: _ => .ok []
  | .data (b :: bs) :: rest =>
    match readAll rest with
    | .ok tail => .ok (b :: bs ++ tail)
    | .error e => .error e
  | .failure e :: rest => if e.isInterrupted then readAll rest else .error e

/-- Why a program was not loaded. -/
inductive LoadError where
  /-- The image could not be read. -/
  | io (e : IoError)
  /-- The image is longer than the room for programs. -/
  | tooLarge (size : Nat)
  deriving DecidableEq, Repr

/-- What to tell the user. -/
def LoadError.message : LoadError → String
  | io e => "unable to read program image: " ++ e.message
  | tooLarge size =>
    "program is " ++ toString size ++ " bytes but only " ++
      toString Memory.programRoom ++ " fit above 0x200"

/-- Puts a program into memory.  Bytes behind its end keep what they held. -/
def Memory.loadBytes (m : Memory) (program : List UInt8) :
    Except LoadError Memory :=
  if h : program.length ≤ Memory.programRoom then
    .ok { bytes := Memory.store m.bytes Memory.programStart.toNat program
          programLength := program.length
          programLength_le := h }
  else .error (.tooLarge program.length)

/-- Reads a program image and puts it into memory. -/
def Memory.load (m : Memory) (image : List Chunk) : Except LoadError Memory :=
  match Chunk.readAll image with
  | .ok program => m.loadBytes program
  | .error e => .error (.io e)

end Chip8
