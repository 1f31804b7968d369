import Chip8.CommandLine.Program
import Chip8.Run
import Chip8.Terminal.Display

/-!
# The executable

The host of a real machine: files, the terminal, and the clock of the system.
What is to be done with them is decided elsewhere.

The terminal is expected to hand over keys as they are typed; on a terminal
that waits for the end of a line they arrive line by line.
-/

namespace Chip8.Main

open CommandLine

/-! ## Failures of the system -/

/-- The words of the system for a failure. -/
def wording (code : UInt32) (words : String) : String :=
  words ++ " (os error " ++ toString code ++ ")"

/-- A failure of the system. -/
def ofSystem : IO.Error → IoError
  | .noFileOrDirectory _ code _ =>
    ⟨.notFound, wording code "No such file or directory"⟩
  | .noSuchThing _ code _ => ⟨.notFound, wording code "No such device or address"⟩
  | .permissionDenied _ code _ =>
    ⟨.permissionDenied, wording code "Permission denied"⟩
  | .inappropriateType _ code _ =>
    ⟨.other, wording code
      (if code = 20 then "Not a directory" else "Is a directory")⟩
  | .interrupted _ code _ =>
    ⟨.interrupted, wording code "Interrupted system call"⟩
  | .resourceVanished code _ => ⟨.brokenPipe, wording code "Broken pipe"⟩
  | .unexpectedEof => ⟨.unexpectedEof, "unexpected end of file"⟩
  | e => ⟨.other, toString e⟩

/-- Does something that may fail. -/
def attempt {α : Type} (action : IO α) : IO (Except IoError α) := do
  try
    return .ok (← action)
  catch e =>
    return .error (ofSystem e)

/-! ## The host -/

/-- What the host remembers. -/
structure Memo where
  /-- The log file. -/
  logFile : IO.Ref (Option IO.FS.Handle)
  /-- Keys that have been typed and not been heard yet. -/
  typed : IO.Ref (Array KeyEvent)
  /-- The failure of the keyboard. -/
  dead : IO.Ref (Option IoError)

/-- Writes a line to the log file.  Without one only errors are shown. -/
def log (memo : Memo) (line : Log.Line) : IO Unit := do
  match ← memo.logFile.get with
  | some file => file.putStrLn line.fileText
  | none =>
    if line.level = .error then (← IO.getStderr).putStrLn line.fileText

/-- Collects what is typed until the terminal is gone. -/
partial def listen (memo : Memo) (input : IO.FS.Stream) : IO Unit := do
  match ← attempt (input.read 1) with
  | .error e => memo.dead.set (some e)
  | .ok bytes =>
    if bytes.isEmpty then return
    for b in bytes do
      let event := Layout.ofTerminal (Char.ofNat b.toNat)
      memo.typed.modify (·.push event)
    listen memo input

/-- Sends what the display has written. -/
def drain (d : Terminal.Display) : IO (Except IoError Unit × Terminal.Display) := do
  let sent ← attempt do
    let output ← IO.getStdout
    output.putStr d.writer.written
    output.flush
  return (sent, { d with writer := { d.writer with written := "" } })

/-- A console whose display's output has been sent. -/
def drainConsole (c : Console Terminal.Display) :
    IO (Except IoError Unit × Console Terminal.Display) := do
  let (sent, screen) ← drain c.screen
  return (sent, { c with screen })

/-- Goes through rounds until the run ends. -/
partial def rounds (memo : Memo) (s : Schedule)
    (c : Console Terminal.Display) :
    IO (Except Fault Unit × Terminal.Display) := do
  let now ← IO.monoNanosNow
  let events ← memo.typed.modifyGet fun events => (events, #[])
  let c ← match ← memo.dead.get with
    | some e => do
      if c.keypad.failure.isNone then log memo (Log.deviceFailed e)
      pure { c with keypad := c.keypad.fail e }
    | none => pure c
  let round := Round.play s c events.toList now
  if (← memo.logFile.get).isSome ∨ round.ending?.isSome then
    round.lines.forM (log memo)
  let (sent, console) ← drainConsole round.console
  match round.ending?, sent with
  | some (.fault f), _ => return (.error f, console.screen)
  | some .exit, _ => return (.ok (), console.screen)
  | none, .error e => return (.error (.display e), console.screen)
  | none, .ok () =>
    match round.outcome with
    | .ok (.idle instant) =>
      let soon ← IO.monoNanosNow
      let pause := (instant - soon) / 1000000
      if 0 < pause then IO.sleep (UInt32.ofNat pause)
    | _ => pure ()
    rounds memo round.schedule console

/-- Runs a program in the terminal and gives the terminal back. -/
def play (memo : Memo) (settings : Settings) (memory : Memory) :
    IO (Except Failure Unit) := do
  let input ← IO.getStdin
  unless ← input.isTty do
    return .error (.keyboard ⟨.other, wording 6 "No such device or address"⟩)
  let _ ← IO.asTask (listen memo input) .dedicated
  let seed ← match settings.seed with
    | some seed => pure seed
    | none => do
      let bytes ← IO.getRandomBytes 8
      pure (bytes.toList.foldl (fun n b => 256 * n + b.toUInt64) 0)
  let (opened, display) := Terminal.Display.setUp {} .standard
  let (sent, display) ← drain display
  match opened, sent with
  | .error e, _ => return .error (.display e)
  | _, .error e => return .error (.display e)
  | .ok (), .ok () =>
    let schedule := Schedule.start settings (← IO.monoNanosNow)
    if (← memo.logFile.get).isSome then log memo (Run.firstLine schedule)
    let machine := Machine.start memory .standard seed
    let (ended, display) ← rounds memo schedule { machine, screen := display }
    let _ ← drain display.close
    return ended.mapError .run

/-- The real machine. -/
def host (memo : Memo) : Host IO where
  createLog := fun path => attempt do
    memo.logFile.set (some (← IO.FS.Handle.mk path .write))
  openRom := fun path => do
    match ← attempt (IO.FS.Handle.mk path .read) with
    | .error e => return .error e
    | .ok file =>
      match ← attempt file.readBinToEnd with
      | .error e => return .ok [.failure e]
      | .ok bytes => return .ok [.data bytes.toList]
  print := fun text => attempt do
    let output ← IO.getStdout
    output.putStr text
    output.flush
  log := fun line => do
    if (← memo.logFile.get).isSome then log memo line
  play := play memo

end Chip8.Main

/-- Runs the program on a real machine. -/
def main (arguments : List String) : IO UInt32 := do
  let memo : Chip8.Main.Memo :=
    { logFile := ← IO.mkRef none, typed := ← IO.mkRef #[], dead := ← IO.mkRef none }
  let exit ← Chip8.CommandLine.runProgram (Chip8.Main.host memo) arguments
  (← IO.getStderr).putStr exit.errors
  return UInt32.ofNat exit.code
