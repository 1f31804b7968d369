import Chip8.CommandLine.Folder
import Chip8.CommandLine.Program
import Chip8.Run

/-!
# Simulated sessions

A session runs the program without a real machine: in a folder that is a
value, in ideal time, and with a user who either has no terminal or types the
same keys over and over.  It shows what the program prints and writes to its
log.
-/

namespace Chip8.CommandLine

/-- All that a program sees and leaves in a session. -/
structure Session where
  /-- The folder the program is started in. -/
  folder : Folder := {}
  /-- The characters that are typed over and over, if there is a terminal. -/
  typed : Option (List Char) := none
  /-- Where the log file lies, once it has been created. -/
  logPlace : Option Location := none
  /-- What was written to the log file. -/
  logLines : Array Log.Line := #[]
  /-- What was printed. -/
  printed : String := ""

namespace Session

/-- The failure of a keyboard without a terminal. -/
def noTerminal : IoError :=
  ⟨.other, "No such device or address (os error 6)"⟩

/-- Creates the log file in the folder. -/
def createLog (path : String) : StateM Session (Except IoError Unit) :=
  modifyGet fun s =>
    match s.folder.create path with
    | .error e => (.error e, s)
    | .ok (location, folder) =>
      (.ok (), { s with folder, logPlace := some location })

/-- Opens a program image in the folder. -/
def openRom (path : String) :
    StateM Session (Except IoError (List Chunk)) := do
  match (← get).folder.read path with
  | .error e => return .error e
  | .ok (.error e) => return .ok [.failure e]
  | .ok (.ok contents) => return .ok [.data contents]

/-- Keeps what is printed. -/
def print (text : String) : StateM Session (Except IoError Unit) := do
  modify fun s => { s with printed := s.printed ++ text }
  return .ok ()

/-- Keeps log lines, if there is a log file. -/
def log (lines : Array Log.Line) : StateM Session Unit :=
  modify fun s =>
    if s.logPlace.isSome then { s with logLines := s.logLines ++ lines } else s

/-- Runs a program for at most `rounds` rounds.  A run that has not ended by
then counts as ended by the user. -/
def play (rounds : Nat) (settings : Settings) (memory : Memory) :
    StateM Session (Except Failure Unit) := do
  match (← get).typed with
  | none => return .error (.keyboard noTerminal)
  | some characters =>
    let machine := Machine.start memory .standard (settings.seed.getD 0)
    let console : Console Headless := { machine, screen := {} }
    let run := Run.simulate settings console
      (characters.map Layout.ofTerminal) (← get).logPlace.isSome rounds
    log run.log
    match run.ending with
    | some (.fault f) => return .error (.run f)
    | _ => return .ok ()

/-- A session as a host. -/
def host (rounds : Nat) : Host (StateM Session) where
  createLog := createLog
  openRom := openRom
  print := print
  log := fun line => log #[line]
  play := play rounds

/-- Runs the program in a session, with these arguments. -/
def run (s : Session) (rounds : Nat) (arguments : List String) :
    Exit × Session :=
  (runProgram (host rounds) arguments).run s

/-- The lines of a file that are log lines. -/
def logOf (s : Session) (path : String) : Array Log.Line :=
  match s.logPlace, s.folder.follow path with
  | some log, .entry location false =>
    if location = log then s.logLines else #[]
  | _, _ => #[]

end Session

end Chip8.CommandLine
