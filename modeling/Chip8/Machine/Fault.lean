import Chip8.IoError
import Chip8.Memory.Basic

/-!
# Faults

A fault ends the run.  One that an instruction causes tells the instruction's
address and, once it is known, its word.
-/

namespace Chip8

/-- What goes wrong while an instruction is carried out. -/
inductive Trap where
  /-- A call on a full stack. -/
  | stackOverflow
  /-- A return on an empty stack. -/
  | stackUnderflow
  /-- An access beyond memory. -/
  | memory (source : OutOfRange)
  deriving DecidableEq, Repr

/-- Why a run ends. -/
inductive Fault where
  /-- The program counter points beyond memory. -/
  | fetch (address : UInt16) (source : OutOfRange)
  /-- The word is in no row of the instruction table. -/
  | unknownInstruction (address opcode : UInt16)
  /-- The instruction could not be carried out. -/
  | trap (address opcode : UInt16) (cause : Trap)
  /-- The picture could not be shown. -/
  | display (e : IoError)
  /-- The keyboard died. -/
  | keyboard (e : IoError)
  deriving DecidableEq, Repr

namespace Fault

/-- An instruction and its place, as messages show them. -/
def whereabouts (address opcode : UInt16) : String :=
  Hex.text 4 opcode.toNat ++ " at " ++ Hex.address address

/-- What to tell the user. -/
def message : Fault → String
  | fetch _ source => "unable to fetch instruction: " ++ source.message
  | unknownInstruction address opcode =>
    "unknown instruction " ++ whereabouts address opcode
  | trap address opcode .stackOverflow =>
    "stack overflow: " ++ whereabouts address opcode ++
      " called with a full stack"
  | trap address opcode .stackUnderflow =>
    "stack underflow: " ++ whereabouts address opcode ++
      " returned with an empty stack"
  | trap address opcode (.memory source) =>
    "instruction " ++ whereabouts address opcode ++ ": " ++ source.message
  | display e => "display failed: " ++ e.message
  | keyboard e => "keyboard failed: " ++ e.message

/-- The fault and what caused it in turn, the outermost first. -/
def causes (f : Fault) : List String :=
  f.message ::
    match f with
    | fetch _ source => [source.message]
    | trap _ _ (.memory source) => [source.message]
    | display e => [e.message]
    | keyboard e => [e.message]
    | _ => []

end Fault

end Chip8
