import Chip8.Proofs.Circling
import Chip8.Proofs.ExitKey
import Chip8.Proofs.Rig

/-!
# Dead keyboards

A frame asks first whether the keyboard is well.  Once it has failed, no frame
gets beyond that question: timers go on counting, but no press is forgotten, no
picture is shown, and the clock of the frames stands still where it is.  So
there is always a frame to be gone through, and as soon as it is due and comes
first, the run fails as the keyboard did.  Instructions go on until then.

What stands still is `Rig.Dead`, and no move changes it.

## Main results

* `Rig.Dead.after`, `Rig.Dead.afterAll` — a keyboard stays dead.
* `Rig.keyboard_stays_dead` — what becomes of a rig whose keyboard fails.
-/

namespace Chip8.Rig

variable {σ : Type} [Screen σ]

/-- The keyboard has died, and no frame has been counted since. -/
structure Dead (e : IoError) (frames : Clock) (count : Nat) (r : Rig σ) :
    Prop where
  failure : r.console.keypad.failure = some e
  frames : r.schedule.frames = frames
  frameCount : r.schedule.frameCount = count

/-- The rig after its timers have counted a frame, and nothing else has
happened. -/
def counted (r : Rig σ) : Rig σ :=
  { r with console.machine := r.console.machine.countDown }

namespace Dead

variable {e : IoError} {frames : Clock} {count : Nat} {r : Rig σ}

/-- A frame only counts the timers down, and fails. -/
theorem frame (h : Dead e frames count r) :
    r.console.frame = (.error (.keyboard e), r.counted.console) :=
  Console.frame_of_failure h.failure

/-- A look that has a frame to go through fails in the same way. -/
theorem look (h : Dead e frames count r) {now : Nat}
    (hturn : r.schedule.turn = .frame) (hdue : r.schedule.nextDeadline ≤ now) :
    r.look now = (.error (.keyboard e), r.counted) := by
  rw [Rig.look, Schedule.tick_frame r.console hturn hdue, h.frame]
  rfl

/-- No look goes through a frame, and the keyboard stays dead. -/
theorem after_look (h : Dead e frames count r) (now : Nat) :
    (r.look now).1 ≠ .ok .frame ∧ Dead e frames count (r.look now).2 := by
  have hcase := r.look_cases now
  have hserve (t : Turn) := r.console.failure_serve t
  generalize r.stint? (.look now) = stint?, r.look now = looked at hcase
  cases hcase with
  | idle _ => exact ⟨nofun, h⟩
  | failed hturn hdue hfailed =>
      refine ⟨nofun, ?_, h.frames, h.frameCount⟩
      rw [← h.failure, ← hserve, hfailed]
  | @served t c hturn hdue hok =>
      have hfailure : c.keypad.failure = some e := by
        rw [← h.failure, ← hserve t, hok]
      cases t with
      | frame =>
          -- The frame would have failed.
          have hframe : r.console.frame = (.ok (), c) := hok
          rw [h.frame] at hframe
          cases hframe
      | instruction =>
          refine ⟨?_, hfailure, h.frames, h.frameCount⟩
          show Except.ok (if c.exitRequested then Tick.exit else .instruction) ≠
            .ok .frame
          split <;> exact nofun

/-- Whatever happens, the keyboard stays dead. -/
theorem after (h : Dead e frames count r) (m : Move σ) :
    Dead e frames count (r.after m) := by
  cases m with
  | look now => exact (h.after_look now).2
  | adjust change => exact ⟨h.failure, h.frames, h.frameCount⟩
  | act action =>
      refine ⟨?_, h.frames, h.frameCount⟩
      show (r.console.act action).keypad.failure = some e
      rw [Console.failure_act, h.failure]
      cases action <;> rfl

theorem afterAll (h : Dead e frames count r) (moves : List (Move σ)) :
    Dead e frames count (r.afterAll moves) :=
  afterAll_of_after h fun _ hr m _ => hr.after m

end Dead

/-- **A dead keyboard stays dead.**  Where the keyboard had not failed before
and fails, every check from then on tells that failure and no later one, and
every frame fails with it: it counts the timers down, but forgets no press and
shows no picture.  No look at the schedule answers a frame, frames are counted
no further, and their clock stands still.  A look that has a frame to go through
fails with that failure, too, and leaves everything but the timers alone. -/
theorem keyboard_stays_dead (r : Rig σ) (e : IoError)
    (hwell : r.console.keypad.check = .ok ()) (moves : List (Move σ))
    {dead last : Rig σ} (hdead : dead = r.after (.act (.fail e)))
    (hlast : last = dead.afterAll moves) :
    last.console.keypad.check = .error e ∧
      last.console.frame = (.error (.keyboard e), last.counted.console) ∧
      last.schedule.frames = r.schedule.frames ∧
      last.schedule.frameCount = r.schedule.frameCount ∧
      .ok .frame ∉ dead.answers moves ∧
      (∀ now, last.schedule.turn = .frame →
        last.schedule.nextDeadline ≤ now →
        last.look now = (.error (.keyboard e), last.counted)) ∧
      ∀ now e', (last.look now).1 = .error (.keyboard e') →
        e' = e ∧ last.schedule.turn = .frame ∧
          last.schedule.nextDeadline ≤ now := by
  have hfirst : Dead e r.schedule.frames r.schedule.frameCount dead := by
    rw [hdead]
    refine ⟨?_, rfl, rfl⟩
    show (r.console.act (.fail e)).keypad.failure = some e
    rw [Console.failure_act, Keypad.check_eq_ok_iff.mp hwell]
    rfl
  have hstays : Dead e r.schedule.frames r.schedule.frameCount last := by
    rw [hlast]
    exact hfirst.afterAll moves
  have hanswers : ∀ o ∈ dead.answers moves, o ≠ .ok .frame := by
    refine along_of_after hfirst (fun _ hr m _ => hr.after m) ?_
    intro r' hr' m _ o ho
    cases m with
    | look now =>
        cases ho
        exact (hr'.after_look now).1
    | act action => cases ho
    | adjust change => cases ho
  refine ⟨Keypad.check_of_failure hstays.failure, hstays.frame, hstays.frames,
    hstays.frameCount, fun hmem => hanswers _ hmem rfl,
    fun now hturn hdue => hstays.look hturn hdue, fun now e' herror => ?_⟩
  obtain ⟨hturn, hdue, _, _⟩ := of_look_error herror
  rw [hstays.look hturn hdue] at herror
  cases herror
  exact ⟨rfl, hturn, hdue⟩

/-- A program that runs in circles, with an instruction and a frame a second,
from the start. -/
def leisurely : Rig Headless where
  schedule := .leisurely
  console := .circling {} 0

/-- After a frame that fails, another failure and the press of a key, the first
frame is still to be gone through.  It fails as the keyboard did at first, the
key stays down, and no picture has been shown. -/
theorem keyboard_stays_dead_leisurely :
    leisurely.console.keypad.check = .ok () ∧
      ∃ last,
        last = (leisurely.after (.act (.fail ⟨.brokenPipe, "gone"⟩))).afterAll
          [.look second, .act (.fail ⟨.other, "again"⟩),
            .act (.press (.hex 3))] ∧
        last.look (2 * second) =
          (.error (.keyboard ⟨.brokenPipe, "gone"⟩), last.counted) ∧
        last.counted.console.keypad.isHeld (.hex 3) = true ∧
        last.counted.console.screen.flushes = 0 := by
  let dead := leisurely.after (.act (.fail ⟨.brokenPipe, "gone"⟩))
  let last := (dead.counted.after (.act (.fail ⟨.other, "again"⟩))).after
    (.act (.press (.hex 3)))
  have hframe : dead.look second =
      (.error (.keyboard ⟨.brokenPipe, "gone"⟩), dead.counted) := by
    rw [look, Schedule.tick_frame _ (by decide) (by decide)]
    rfl
  have hlast : last = dead.afterAll
      [.look second, .act (.fail ⟨.other, "again"⟩),
        .act (.press (.hex 3))] := by
    show last = ((dead.look second).2.after
      (.act (.fail ⟨.other, "again"⟩))).after (.act (.press (.hex 3)))
    rw [hframe]
  obtain ⟨_, _, _, _, _, hlook, _⟩ :=
    keyboard_stays_dead leisurely ⟨.brokenPipe, "gone"⟩ rfl _ rfl hlast
  have hturn : last.schedule.turn = .frame := by decide
  have hdue : last.schedule.nextDeadline ≤ 2 * second := by decide
  have hheld : last.counted.console.keypad.isHeld (.hex 3) = true :=
    Keypad.isHeld_press_self
      (dead.counted.console.keypad.fail ⟨.other, "again"⟩) (.hex 3)
  exact ⟨rfl, last, hlast, hlook _ hturn hdue, hheld, rfl⟩

end Chip8.Rig
