import Chip8.CommandLine.Arguments
import Chip8.Listing.Basic
import Chip8.Log
import Chip8.Memory.Image

/-!
# The program

What the program does with its arguments, in order: it creates the log file,
opens the program image, loads it, and lists or runs the program.  The first
thing that fails ends it.

Files, the terminal and the clock belong to a `Host`, so that the program is
the same on a real machine and in a simulated one.
-/

namespace Chip8.CommandLine

/-- Why the program fails. -/
inductive Failure where
  | createLog (path : String) (e : IoError)
  | openRom (path : String) (e : IoError)
  | loadRom (path : String) (e : LoadError)
  | listing (e : IoError)
  | keyboard (e : IoError)
  | display (e : IoError)
  | run (f : Fault)
  deriving DecidableEq, Repr

namespace Failure

/-- What was being done. -/
def context : Failure → String
  | createLog path _ => "unable to create log file " ++ path
  | openRom path _ => "unable to open ROM " ++ path
  | loadRom path _ => "unable to load ROM " ++ path
  | listing e => e.message
  | keyboard _ => "unable to initialise keyboard"
  | display _ => "unable to initialise display"
  | run _ => "program failed to run"

/-- What went wrong, and what caused that in turn. -/
def causes : Failure → List String
  | createLog _ e => [e.message]
  | openRom _ e => [e.message]
  | loadRom _ (.io e) => [(LoadError.io e).message, e.message]
  | loadRom _ e => [e.message]
  | listing _ => []
  | keyboard e => [e.message]
  | display e => [e.message]
  | run f => f.causes

/-- Causes that are numbered from `n` on. -/
def numbered (n : Nat) : List String → String
  | [] => ""
  | cause :: rest =>
    "    " ++ toString n ++ ": " ++ cause ++ "\n" ++ numbered (n + 1) rest

/-- The causes under their heading.  A single one is not numbered. -/
def causesText : List String → String
  | [] => ""
  | [cause] => "\nCaused by:\n    " ++ cause ++ "\n"
  | causes => "\nCaused by:\n" ++ numbered 0 causes

/-- What is shown to the user. -/
def report (f : Failure) : String :=
  "Error: " ++ f.context ++ "\n" ++ causesText f.causes

end Failure

/-- What the program needs from where it runs. -/
structure Host (m : Type → Type) where
  /-- Creates the log file, or empties it. -/
  createLog : String → m (Except IoError Unit)
  /-- Opens a program image.  Answers what reading it will give. -/
  openRom : String → m (Except IoError (List Chunk))
  /-- Prints on the standard output. -/
  print : String → m (Except IoError Unit)
  /-- Takes a line of the log. -/
  log : Log.Line → m Unit
  /-- Runs the program in memory. -/
  play : Settings → Memory → m (Except Failure Unit)

/-- How the program ends. -/
structure Exit where
  /-- The exit code. -/
  code : Nat
  /-- What is printed on the standard error output. -/
  errors : String := ""
  deriving DecidableEq, Repr

/-- Everything went well. -/
def Exit.success : Exit := { code := 0 }

/-- Something failed. -/
def Exit.ofFailure (f : Failure) : Exit := { code := 1, errors := f.report }

/-- The arguments were not understood. -/
def Exit.ofUsage (e : UsageError) : Exit :=
  { code := 2, errors := "error: " ++ e.message ++ "\n" }

section

variable {m : Type → Type} [Monad m]

/-- Creates the log file that was asked for, if any. -/
def openLog (host : Host m) : Option String → m (Except Failure Unit)
  | none => return .ok ()
  | some path => return (← host.createLog path).mapError (.createLog path)

/-- Opens the program image and loads it. -/
def loadRom (host : Host m) (path : String) : m (Except Failure Memory) := do
  match ← host.openRom path with
  | .error e => return .error (.openRom path e)
  | .ok image =>
    match Memory.fresh.load image with
    | .error e => return .error (.loadRom path e)
    | .ok memory =>
      host.log (Log.loaded memory.programLength)
      return .ok memory

/-- Lists or runs the program in memory. -/
def serve (host : Host m) (request : Request) (memory : Memory) :
    m (Except Failure Unit) := do
  if request.disassemble then
    return (← host.print (Listing.text memory.program)).mapError .listing
  else host.play request.settings memory

/-- Does what was asked for. -/
def fulfil (host : Host m) (request : Request) : m (Except Failure Unit) := do
  match ← openLog host request.logFile with
  | .error f => return .error f
  | .ok () =>
    match ← loadRom host request.rom with
    | .error f => return .error f
    | .ok memory => serve host request memory

/-- The whole program. -/
def runProgram (host : Host m) (arguments : List String) : m Exit := do
  match parse arguments with
  | .error (.usage e) => return .ofUsage e
  | .error .help =>
    let _ ← host.print helpText
    return .success
  | .error .version =>
    let _ ← host.print versionText
    return .success
  | .ok request =>
    match ← fulfil host request with
    | .error f => return .ofFailure f
    | .ok () => return .success

end

end Chip8.CommandLine
