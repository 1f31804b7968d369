import Chip8.Settings

/-!
# Arguments

What the program is asked to do.  Arguments are read from left to right:

* a long option takes its value from behind an equals sign or from the next
  argument, as in `--rom=FILE` and `--rom FILE`;
* short options may stand together behind one dash, and one that takes a
  value takes the rest of the argument, with or without an equals sign, or
  else the next argument;
* a value in an argument of its own does not start with a dash, unless it is
  a dash;
* nothing is given twice, and nothing is given that is no option.

Help and version end the reading at once, so whatever stands behind them does
not matter, but all that stands before them has to be in order.
-/

namespace Chip8.CommandLine

/-- Options that take a value. -/
inductive Valued where
  | rom
  | logFile
  | clockRate
  | frameRate
  | seed
  deriving DecidableEq, Repr

/-- Options that take none. -/
inductive Flag where
  | disassemble
  | help
  | version
  deriving DecidableEq, Repr

/-- Any option. -/
inductive Switch where
  | valued (option : Valued)
  | flag (flag : Flag)
  deriving DecidableEq, Repr

/-- The option of a long name. -/
def Switch.ofLong? : String → Option Switch
  | "rom" => some (.valued .rom)
  | "log-file" => some (.valued .logFile)
  | "clock-rate" => some (.valued .clockRate)
  | "frame-rate" => some (.valued .frameRate)
  | "seed" => some (.valued .seed)
  | "disassemble" => some (.flag .disassemble)
  | "help" => some (.flag .help)
  | "version" => some (.flag .version)
  | _ => none

/-- The option of a letter. -/
def Switch.ofShort? : Char → Option Switch
  | 'r' => some (.valued .rom)
  | 'l' => some (.valued .logFile)
  | 'd' => some (.flag .disassemble)
  | 'h' => some (.flag .help)
  | 'V' => some (.flag .version)
  | _ => none

/-- The long name of an option that takes a value. -/
def Valued.name : Valued → String
  | rom => "--rom"
  | logFile => "--log-file"
  | clockRate => "--clock-rate"
  | frameRate => "--frame-rate"
  | seed => "--seed"

/-- What is wrong with the arguments. -/
inductive UsageError where
  /-- No such option. -/
  | unknown (argument : String)
  /-- An argument that belongs to no option. -/
  | unexpected (argument : String)
  /-- The value is missing. -/
  | missingValue (option : Valued)
  /-- The value cannot be used. -/
  | invalidValue (option : Valued) (value : String)
  /-- A value for an option that takes none. -/
  | unneededValue (argument : String)
  /-- An option was given before. -/
  | repeated (name : String)
  /-- No program image was named. -/
  | missingRom
  deriving DecidableEq, Repr

/-- What to tell the user. -/
def UsageError.message : UsageError → String
  | unknown argument => "unexpected argument '" ++ argument ++ "' found"
  | unexpected argument => "unexpected argument '" ++ argument ++ "' found"
  | missingValue option => "a value is required for '" ++ option.name ++ "'"
  | invalidValue option value =>
    "invalid value '" ++ value ++ "' for '" ++ option.name ++ "'"
  | unneededValue argument => "unexpected value in '" ++ argument ++ "'"
  | repeated name => "'" ++ name ++ "' cannot be used multiple times"
  | missingRom => "'--rom' was not provided"

/-! ## Numbers -/

/-- The number that some decimal digits make, behind a plus sign or not. -/
def number? (text : String) : Option Nat :=
  let digits :=
    match text.toList with
    | '+' :: rest => rest
    | all => all
  if digits.isEmpty ∨ !digits.all Char.isDigit then none
  else some (digits.foldl (fun n c => 10 * n + (c.toNat - '0'.toNat)) 0)

/-- A rate: a number of 32 bits that is not zero. -/
def rate? (text : String) : Option Nat :=
  (number? text).filter fun n => 1 ≤ n ∧ n < UInt32.size

/-- A seed: a number of 64 bits. -/
def seed? (text : String) : Option UInt64 :=
  ((number? text).filter fun n => n < UInt64.size).map UInt64.ofNat

/-! ## Reading -/

/-- What has been asked for so far. -/
structure Draft where
  rom : Option String := none
  disassemble : Bool := false
  logFile : Option String := none
  clockRate : Option Nat := none
  frameRate : Option Nat := none
  seed : Option UInt64 := none
  deriving DecidableEq, Repr

/-- Why the reading of arguments ends before they do. -/
inductive Stop where
  /-- Something is wrong with them. -/
  | usage (e : UsageError)
  /-- Help was asked for. -/
  | help
  /-- The version was asked for. -/
  | version
  deriving DecidableEq, Repr

namespace Draft

/-- Takes a value that was read, unless there is one already or it is none. -/
def accept {α : Type} (option : Valued) (text : String) (old : Option α)
    (value : Option α) : Except Stop α :=
  match old, value with
  | some _, _ => .error (.usage (.repeated option.name))
  | none, none => .error (.usage (.invalidValue option text))
  | none, some v => .ok v

/-- A path: any text but the empty one. -/
def path? (text : String) : Option String :=
  if text.isEmpty then none else some text

/-- Gives an option its value. -/
def set (d : Draft) (option : Valued) (text : String) : Except Stop Draft :=
  match option with
  | .rom => do
    let v ← accept option text d.rom (path? text)
    return { d with rom := some v }
  | .logFile => do
    let v ← accept option text d.logFile (path? text)
    return { d with logFile := some v }
  | .clockRate => do
    let v ← accept option text d.clockRate (rate? text)
    return { d with clockRate := some v }
  | .frameRate => do
    let v ← accept option text d.frameRate (rate? text)
    return { d with frameRate := some v }
  | .seed => do
    let v ← accept option text d.seed (seed? text)
    return { d with seed := some v }

/-- Raises a flag. -/
def raise (d : Draft) : Flag → Except Stop Draft
  | .disassemble =>
    if d.disassemble then .error (.usage (.repeated "--disassemble"))
    else .ok { d with disassemble := true }
  | .help => .error .help
  | .version => .error .version

/-- Reads short options that stand together.  Answers the last one too if its
value is still to come. -/
def readShort (d : Draft) : List Char → Except Stop (Draft × Option Valued)
  | [] => .ok (d, none)
  | c :: rest =>
    match Switch.ofShort? c with
    | none => .error (.usage (.unknown (String.ofList ['-', c])))
    | some (.flag f) =>
      match d.raise f with
      | .error stop => .error stop
      | .ok d => d.readShort rest
    | some (.valued option) =>
      match rest with
      | [] => .ok (d, some option)
      | '=' :: value => (d.set option (String.ofList value)).map (·, none)
      | value => (d.set option (String.ofList value)).map (·, none)

/-- Reads a long option, given without its dashes. -/
def readLong (d : Draft) (body : List Char) :
    Except Stop (Draft × Option Valued) :=
  let name := body.takeWhile (· ≠ '=')
  let value? :=
    match body.dropWhile (· ≠ '=') with
    | [] => none
    | _ :: value => some (String.ofList value)
  match Switch.ofLong? (String.ofList name), value? with
  | none, _ => .error (.usage (.unknown (String.ofList body)))
  | some (.flag _), some _ =>
    .error (.usage (.unneededValue (String.ofList body)))
  | some (.flag f), none => (d.raise f).map (·, none)
  | some (.valued option), some value => (d.set option value).map (·, none)
  | some (.valued option), none => .ok (d, some option)

/-- Refuses to go on while an option lacks its value. -/
def settled : Option Valued → Except Stop Unit
  | none => .ok ()
  | some option => .error (.usage (.missingValue option))

/-- Reads arguments.  `pending` is the option whose value is still to come. -/
def read (d : Draft) (pending : Option Valued) :
    List String → Except Stop Draft
  | [] => (settled pending).map fun _ => d
  | argument :: rest =>
    match argument.toList with
    | ['-', '-'] =>
      match settled pending, rest with
      | .error stop, _ => .error stop
      | .ok (), [] => .ok d
      | .ok (), extra :: _ => .error (.usage (.unexpected extra))
    | '-' :: '-' :: body =>
      match settled pending with
      | .error stop => .error stop
      | .ok () =>
        match d.readLong body with
        | .error stop => .error stop
        | .ok (d, pending) => d.read pending rest
    | '-' :: c :: letters =>
      match settled pending with
      | .error stop => .error stop
      | .ok () =>
        match d.readShort (c :: letters) with
        | .error stop => .error stop
        | .ok (d, pending) => d.read pending rest
    | _ =>
      match pending with
      | none => .error (.usage (.unexpected argument))
      | some option =>
        match d.set option argument with
        | .error stop => .error stop
        | .ok d => d.read none rest

end Draft

/-! ## What the program is to do -/

/-- A complete request. -/
structure Request where
  /-- The program image. -/
  rom : String
  /-- Whether to list the program instead of running it. -/
  disassemble : Bool
  /-- Where to write the log. -/
  logFile : Option String
  /-- How to run the program. -/
  settings : Settings
  deriving DecidableEq, Repr

/-- Makes a request of what was asked for.  What was not, is as usual. -/
def Draft.complete (d : Draft) : Except Stop Request :=
  match d.rom with
  | none => .error (.usage .missingRom)
  | some rom =>
    let usual : Settings := {}
    .ok {
      rom
      disassemble := d.disassemble
      logFile := d.logFile
      settings := {
        clockRate := d.clockRate.getD usual.clockRate
        frameRate := d.frameRate.getD usual.frameRate
        seed := d.seed } }

/-- Reads the arguments of the program. -/
def parse (arguments : List String) : Except Stop Request :=
  match Draft.read {} none arguments with
  | .error stop => .error stop
  | .ok d => d.complete

/-- The version of the program. -/
def versionText : String :=
  "chip8 0.2.0\n"

/-- The help of the program. -/
def helpText : String :=
  "CHIP-8 interpreter with a terminal display\n" ++
  "\n" ++
  "Usage: chip8 [OPTIONS] --rom <ROM>\n" ++
  "\n" ++
  "Options:\n" ++
  "  -r, --rom <ROM>                ROM image to load at 0x200\n" ++
  "  -d, --disassemble              Print the disassembly of the ROM and exit\n" ++
  "  -l, --log-file <LOG_FILE>      Write trace output to this file\n" ++
  "      --clock-rate <CLOCK_RATE>  Instructions per second [default: 540]\n" ++
  "      --frame-rate <FRAME_RATE>  Display refreshes per second [default: 60]\n" ++
  "      --seed <SEED>              Seed for the random number instruction\n" ++
  "  -h, --help                     Print help\n" ++
  "  -V, --version                  Print version\n"

end Chip8.CommandLine
