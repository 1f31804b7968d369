import Chip8.Column
import Chip8.Duration
import Chip8.Instruction.Assembly
import Chip8.Keypad.Basic
import Chip8.Log.Text
import Chip8.Machine.Basic
import Chip8.Machine.Fault

/-!
# The log

What a run does can be told line by line.  Lines are computed from what
happened: a step, for one, from the machine before and after it.  The program
itself does not depend on whether anyone reads them.
-/

namespace Chip8.Log

/-- How much a line matters. -/
inductive Level where
  | trace
  | debug
  | info
  | error
  deriving DecidableEq, Repr

/-- A level as it is written. -/
def Level.name : Level → String
  | trace => "TRACE"
  | debug => "DEBUG"
  | info => "INFO"
  | error => "ERROR"

/-- Which part of the program a line comes from. -/
inductive Part where
  | memory
  | keypad
  | machine
  | schedule
  deriving DecidableEq, Repr

/-- A part as it is written. -/
def Part.name : Part → String
  | memory => "chip8::memory"
  | keypad => "chip8::input"
  | machine => "chip8::interpreter"
  | schedule => "chip8::scheduler"

/-- A line of the log. -/
structure Line where
  /-- How much it matters. -/
  level : Level
  /-- Where it comes from. -/
  part : Part
  /-- What it says. -/
  message : String
  /-- Values that go with it, by name. -/
  fields : List (String × String) := []
  deriving DecidableEq, Repr

namespace Line

/-- The level in its column. -/
def levelColumn (l : Line) : String :=
  String.ofList (Column.right 5 l.level.name.toList)

/-- The message, and behind it the values. -/
def body (l : Line) : String :=
  l.fields.foldl (fun text (name, value) => text ++ " " ++ name ++ "=" ++ value)
    (harmlessText l.message)

/-- The line without its part. -/
def text (l : Line) : String :=
  l.levelColumn ++ " " ++ l.body

/-- The line as it stands in a log file, but for the time. -/
def fileText (l : Line) : String :=
  l.levelColumn ++ " " ++ l.part.name ++ ": " ++ l.body

/-- The rows that the line takes without its part. -/
def rows (l : Line) : List String :=
  Log.rows l.text

/-- The rows that the line takes in a log file. -/
def fileRows (l : Line) : List String :=
  Log.rows l.fileText

end Line

/-! ## What is told -/

/-- A program was loaded. -/
def loaded (bytes : Nat) : Line where
  level := .debug
  part := .memory
  message := "loaded program at " ++ Hex.address Memory.programStart
  fields := [("bytes", toString bytes)]

/-- A key as it is written. -/
def keyName : Key → String
  | .hex value => "Hex(" ++ toString value.toNat ++ ")"
  | .exit => "Exit"

/-- A key went down. -/
def pressed (key : Key) : Line where
  level := .debug
  part := .keypad
  message := "key press"
  fields := [("key", keyName key)]

/-- A key of the keyboard stands for no key. -/
def ignored (remark : String) : Line where
  level := .debug
  part := .keypad
  message := remark

/-- The keyboard died. -/
def deviceFailed (e : IoError) : Line where
  level := .error
  part := .keypad
  message := (Fault.keyboard e).message

/-- The registers, between brackets. -/
def registers (v : Vector UInt8 16) : String :=
  "[" ++ ", ".intercalate (v.toList.map Hex.byte) ++ "]"

/-- An instruction has run: where it lies, what it is, and what the machine is
like behind it. -/
def executed (address opcode : UInt16) (instruction : Instruction)
    (after : Machine) : Line where
  level := .trace
  part := .machine
  message :=
    Hex.text 4 address.toNat ++ " " ++ Hex.text 4 opcode.toNat ++ " " ++
      String.ofList (Column.left 24 instruction.letters) ++
      " pc=" ++ Hex.text 3 after.pc.toNat ++
      " i=" ++ Hex.text 3 after.i.toNat ++
      " v=" ++ registers after.v

/-- A call was opened or closed. -/
def branched (message : String) (depth : Nat) : Line where
  level := .debug
  part := .machine
  message := message
  fields := [("depth", toString depth)]

/-- What an instruction that has run says of the call stack. -/
def calls (instruction : Instruction) (before after : Machine) : List Line :=
  match instruction with
  | .call target =>
    [branched ("call " ++ Hex.text 3 target.val) after.stack.depth]
  | .ret =>
    match before.stack.pop? with
    | some (caller, _) =>
      [branched ("return to " ++ Hex.text 3 caller.toNat) after.stack.depth]
    | none => []
  | _ => []

/-- A step from one machine to another, which is the only thing known of it:
which instruction it was is read from memory as it was before. -/
def stepped (before after : Machine) : List Line :=
  match before.memory.word before.pc with
  | .error _ => []
  | .ok opcode =>
    match Instruction.decode opcode with
    | none => []
    | some instruction =>
      calls instruction before after ++
        [executed before.pc opcode instruction after]

/-- A run starts, with these periods. -/
def started (instructionPeriod framePeriod : Nat) : Line where
  level := .info
  part := .schedule
  message := "starting run"
  fields :=
    [ ("instruction_period", Duration.text instructionPeriod),
      ("frame_period", Duration.text framePeriod) ]

/-- What a run has done. -/
def counts (instructions frames : Nat) : List (String × String) :=
  [("instructions", toString instructions), ("frames", toString frames)]

/-- A fault ended the run. -/
def halted (fault : Fault) (instructions frames : Nat) : Line where
  level := .error
  part := .schedule
  message := "halted: " ++ fault.message
  fields := counts instructions frames

/-- The user ended the run. -/
def stopped (instructions frames : Nat) : Line where
  level := .info
  part := .schedule
  message := "exit key pressed; stopping"
  fields := counts instructions frames

end Chip8.Log
