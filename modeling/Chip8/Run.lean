import Chip8.Keypad.Layout
import Chip8.Log
import Chip8.Schedule

/-!
# Runs

A run goes in rounds.  In a round the console first hears the keys that went
down meanwhile, and then the schedule is looked at once.  A run ends when the
user asks for it or a fault happens; nothing else ends it.

`Run.simulate` goes through a run without a real clock.  A round takes a
microsecond (`Run.roundTime`), and the next one starts as soon as there is
something to do.  The same keys are typed over and over, the first time at the
start and then at a fixed interval (`Run.typingInterval`).  As a frame makes
the keypad forget a press, a key is up from a frame on until it is typed again.
-/

namespace Chip8

/-- How a run ends. -/
inductive Ending where
  /-- The user asked for it. -/
  | exit
  /-- Something failed. -/
  | fault (f : Fault)
  deriving DecidableEq, Repr

/-- The console after a key of the keyboard went down. -/
def Console.hear {σ : Type} (c : Console σ) (event : KeyEvent) : Console σ :=
  match Layout.key? event with
  | some key => c.press key
  | none => c

/-- What the log says of a key of the keyboard. -/
def Log.heard (event : KeyEvent) : List Log.Line :=
  ((Layout.key? event).map Log.pressed).toList ++
    ((Layout.remark? event).map Log.ignored).toList

/-! ## Rounds -/

/-- One round of a run. -/
structure Round (σ : Type) where
  /-- The keys that were heard. -/
  events : List KeyEvent
  /-- The machine after that. -/
  before : Machine
  /-- What happened then. -/
  outcome : Except Fault Tick
  /-- The schedule after it. -/
  schedule : Schedule
  /-- The console after it. -/
  console : Console σ

namespace Round

variable {σ : Type}

/-- Goes through one round. -/
def play [Screen σ] (s : Schedule) (c : Console σ) (events : List KeyEvent)
    (now : Nat) : Round σ :=
  let c := events.foldl Console.hear c
  let (outcome, schedule, after) := s.tick c now
  { events, before := c.machine, outcome, schedule, console := after }

/-- How the run has ended, if it has. -/
def ending? (r : Round σ) : Option Ending :=
  match r.outcome with
  | .ok .exit => some .exit
  | .error f => some (.fault f)
  | _ => none

/-- What the log says of a round. -/
def lines (r : Round σ) : List Log.Line :=
  r.events.flatMap Log.heard ++
    match r.outcome with
    | .ok .instruction => Log.stepped r.before r.console.machine
    | .ok .exit =>
      Log.stepped r.before r.console.machine ++
        [Log.stopped r.schedule.instructionCount r.schedule.frameCount]
    | .error f =>
      [Log.halted f r.schedule.instructionCount r.schedule.frameCount]
    | _ => []

end Round

/-! ## Whole runs -/

/-- A run as far as it has got. -/
structure Run (σ : Type) where
  /-- What was due and done. -/
  schedule : Schedule
  /-- The console. -/
  console : Console σ
  /-- When the next round can start. -/
  now : Nat := 0
  /-- How many times the keys have been typed. -/
  typed : Nat := 0
  /-- How it ended, if it has. -/
  ending : Option Ending := none
  /-- The log, if it is kept. -/
  log : Array Log.Line := #[]

namespace Run

variable {σ : Type}

/-- The log line that every run starts with. -/
def firstLine (s : Schedule) : Log.Line :=
  Log.started s.instructions.period s.frames.period

/-- How long a round takes.  It is not nothing, so that time goes on even where
a clock is due all the time. -/
def roundTime : Nat := 1000

/-- How long it takes from one time that the keys are typed to the next.  It is
shorter than a frame of the usual rate, but long enough for an instruction of
the usual rate to find a key up.  It has no divisor in common with a second or
with the periods of the usual rates, so every instruction of a loop finds a key
up, and finds it down, sooner or later. -/
def typingInterval : Nat := 9700001

/-- How many times the keys are typed up to an instant. -/
def typedBy (now : Nat) : Nat :=
  now / typingInterval + 1

/-- Goes on with a run for at most `rounds` rounds, with the same keys being
typed meanwhile. -/
def simulateFrom [Screen σ] (events : List KeyEvent) (keepLog : Bool) :
    (rounds : Nat) → Run σ → Run σ
  | 0, run => run
  | rounds + 1, run =>
    let now := max run.now run.schedule.nextDeadline
    let heard := if run.typed < typedBy now then events else []
    let round := Round.play run.schedule run.console heard now
    let log := if keepLog then run.log ++ round.lines.toArray else run.log
    let run :=
      { run with
        schedule := round.schedule
        console := round.console
        now := now + roundTime
        typed := typedBy now
        ending := round.ending?
        log }
    if run.ending.isSome then run else simulateFrom events keepLog rounds run

/-- Goes through a run from its start. -/
def simulate [Screen σ] (settings : Settings) (console : Console σ)
    (events : List KeyEvent) (keepLog : Bool) (rounds : Nat) : Run σ :=
  let schedule := Schedule.start settings 0
  let log := if keepLog then #[firstLine schedule] else #[]
  simulateFrom events keepLog rounds { schedule, console, log }

end Run

end Chip8
