import Chip8.Proofs.CatchUp
import Mathlib.Algebra.Order.Floor.Div

/-!
# No frame is starved

Instructions and frames share one thread, and after a stall either clock may
have been started again while the other one still catches up.  Even then a frame
waits for few instructions only: for as many as begin in one period of a frame,
or for two if a frame is shorter than that.

What is left to wait for is a number that each instruction takes one from
(`FrameWithin`).  It is told by the deadlines, but not by their distance alone:
a clock of frames that starts again is due at once, however far the
instructions are behind.  The first instruction after that brings them to
within a period of it, so the second is the last.

## Main results

* `FrameWithin.skip`, `FrameWithin.instruction`, `FrameWithin.frame` — what one
  look does to the wait.
* `FrameWithin.services_le`, `FrameWithin.services_between_le` — no row of
  looks without a frame is longer.
* `Schedule.never_starves_frames` — the bound for every run.
-/

namespace Chip8

/-- No more than `n` instructions can be served before the next frame, in a
schedule that was last looked at `now`.  Either the deadline of the frame comes
no more than `n` of their periods after the next instruction, or it has been
reached already.  Then the instructions may be late themselves, but once one of
them is served they are within a period of now, so there is one more at
most. -/
structure FrameWithin (settings : Settings) (now n : Nat) (s : Schedule) :
    Prop where
  period : ∀ t, (s.clock t).period = settings.period t
  wait : s.frames.deadline ≤
      s.instructions.deadline + n * settings.period .instruction ∨
    s.frames.deadline ≤ now ∧ 2 ≤ n

/-- No frame waits for more than `n` instructions after the one before it: so
many last for a period of a frame, and there may be two after a stall. -/
def Settings.LongestWait (settings : Settings) (n : Nat) : Prop :=
  2 ≤ n ∧ settings.period .frame ≤ n * settings.period .instruction

namespace Schedule

theorem servedTurn_eq_frame {outcome : Except Fault Tick} :
    servedTurn outcome = some .frame ↔ outcome = .ok .frame := by
  unfold servedTurn
  split <;> simp_all

theorem services_singleton (t : Turn) (outcome : Except Fault Tick) :
    services t [outcome] = if servedTurn outcome = some t then 1 else 0 := by
  simp only [services, List.countP_singleton, decide_eq_true_eq]

end Schedule

namespace FrameWithin

variable {σ : Type} [Screen σ] {settings : Settings} {start now later m n : Nat}
  {s s' : Schedule} {c c' : Console σ} {outcome : Except Fault Tick}
  {found : List (Nat × Console σ)}
  {before between after : List (Except Fault Tick)}

theorem start_schedule (hrate : ∀ t, 1 ≤ settings.rate t)
    (hn : settings.LongestWait n) (now : Nat) :
    FrameWithin settings now n (.start settings start) where
  period t := by rw [Schedule.clock_start (hrate t)]
  wait := by
    have hframes := Schedule.clock_start (hrate .frame) start
    have hinstructions := Schedule.clock_start (hrate .instruction) start
    simp only [Schedule.clock] at hframes hinstructions
    rw [hframes, hinstructions]
    have hperiod := hn.2
    left
    show start + settings.period .frame ≤ start + settings.period .instruction +
      n * settings.period .instruction
    omega

/-- A wait that is not too long is not too long for a greater bound. -/
theorem mono (h : FrameWithin settings now m s) (hle : m ≤ n) :
    FrameWithin settings now n s where
  period := h.period
  wait := by
    have hmul := Nat.mul_le_mul_right (settings.period .instruction) hle
    have hwait := h.wait
    omega

/-- A look that serves nothing leaves the wait as it is. -/
theorem skip (h : FrameWithin settings now n s) (hle : now ≤ later)
    (htick : s.tick c later = (outcome, s', c'))
    (hserved : Schedule.servedTurn outcome = none) :
    FrameWithin settings later n s' := by
  rcases Schedule.tick_service htick with ⟨_, rfl⟩ | ⟨hsome, _, _⟩
  · have hwait := h.wait
    exact ⟨h.period, by omega⟩
  · cases hserved.symm.trans hsome

/-- An instruction takes one from the wait. -/
theorem instruction (h : FrameWithin settings now n s) (hle : now ≤ later)
    (htick : s.tick c later = (outcome, s', c'))
    (hserved : Schedule.servedTurn outcome = some .instruction) :
    ∃ m, n = m + 1 ∧ FrameWithin settings later m s' := by
  rcases Schedule.tick_service htick with ⟨hnone, _⟩ | ⟨hsome, _, hs'⟩
  · cases hserved.symm.trans hnone
  have hturn : s.turn = .instruction :=
    Option.some.inj (hsome.symm.trans hserved)
  have hlt := s.deadline_lt_of_turn hturn
  have hwait := h.wait
  cases n with
  | zero =>
      -- The frame would have come before the instruction.
      rw [Nat.zero_mul] at hwait
      omega
  | succ m =>
      obtain ⟨hmoved, hnear⟩ := Schedule.deadline_of_servedTurn htick hserved
      have hframes : s'.frames = s.frames := by
        rw [hs', hturn]
        rfl
      refine ⟨m, rfl, fun t => ?_, ?_⟩
      · rw [Schedule.period_of_tick htick]
        exact h.period t
      · rw [h.period] at hmoved hnear
        simp only [Schedule.clock] at hmoved hnear
        rw [hframes]
        left
        rcases hwait with hgap | ⟨hreached, htwo⟩
        · rw [Nat.succ_mul] at hgap
          omega
        · -- The frame was late, and the instructions are hardly late now.
          have hone := Nat.le_mul_of_pos_left
            (settings.period .instruction) (show 0 < m by omega)
          omega

/-- After a frame the wait begins again. -/
theorem frame (h : FrameWithin settings now m s)
    (htick : s.tick c later = (outcome, s', c'))
    (hserved : Schedule.servedTurn outcome = some .frame)
    (hn : settings.LongestWait n) : FrameWithin settings later n s' := by
  rcases Schedule.tick_service htick with ⟨hnone, _⟩ | ⟨hsome, _, hs'⟩
  · cases hserved.symm.trans hnone
  have hturn : s.turn = .frame := Option.some.inj (hsome.symm.trans hserved)
  have hle := s.deadline_le_of_turn hturn
  have hperiod : s.frames.period = settings.period .frame := h.period .frame
  obtain ⟨htwo, hlong⟩ := hn
  refine ⟨fun t => ?_, ?_⟩
  · rw [Schedule.period_of_tick htick]
    exact h.period t
  · rw [hs', hturn]
    show (s.frames.advance later).deadline ≤ s.instructions.deadline + _ ∨
      (s.frames.advance later).deadline ≤ later ∧ 2 ≤ n
    by_cases hlate : s.frames.deadline + 2 * s.frames.period < later
    · right
      rw [Clock.deadline_advance_of_gt hlate]
      exact ⟨Nat.le_refl later, htwo⟩
    · left
      rw [Clock.deadline_advance_of_le (Nat.le_of_not_lt hlate), hperiod]
      omega

/-- Whatever a look serves, the wait is not too long after it. -/
theorem tick (h : FrameWithin settings now n s) (hn : settings.LongestWait n)
    (hle : now ≤ later) (htick : s.tick c later = (outcome, s', c')) :
    FrameWithin settings later n s' := by
  cases hserved : Schedule.servedTurn outcome with
  | none => exact h.skip hle htick hserved
  | some t =>
      cases t with
      | frame => exact h.frame htick hserved hn
      | instruction =>
          obtain ⟨m, rfl, hm⟩ := h.instruction hle htick hserved
          exact hm.mono (Nat.le_succ m)

/-- A row of looks without a frame serves no more instructions than there are
to wait for. -/
theorem services_le (h : FrameWithin settings now n s)
    (hinstants : (now :: found.map Prod.fst).IsChain (· ≤ ·))
    (hlooks : s.lookAt found = (between ++ after, s'))
    (hframe : .ok .frame ∉ between) :
    Schedule.services .instruction between ≤ n := by
  induction between generalizing s found now n with
  | nil => exact Nat.zero_le n
  | cons outcome rest ih =>
      cases found with
      | nil => cases hlooks
      | cons first found =>
          obtain ⟨later, c⟩ := first
          obtain ⟨_, _, s₁, c₁, heq, htick, hrest⟩ :=
            Schedule.of_lookAt_cons hlooks
          cases heq
          rw [List.map_cons, List.isChain_cons_cons] at hinstants
          obtain ⟨hle, hchain⟩ := hinstants
          rw [List.mem_cons, not_or] at hframe
          rw [Schedule.services_cons, Schedule.services_singleton]
          cases hserved : Schedule.servedTurn outcome with
          | none =>
              rw [if_neg nofun, Nat.zero_add]
              exact ih (h.skip hle htick hserved) hchain hrest hframe.2
          | some t =>
              cases t with
              | frame =>
                  have houtcome := Schedule.servedTurn_eq_frame.mp hserved
                  exact absurd houtcome.symm hframe.1
              | instruction =>
                  obtain ⟨m, rfl, hm⟩ := h.instruction hle htick hserved
                  have hfew := ih hm hchain hrest hframe.2
                  rw [if_pos rfl]
                  omega

/-- Nor does one in the midst of others. -/
theorem services_between_le (h : FrameWithin settings now n s)
    (hn : settings.LongestWait n)
    (hinstants : (now :: found.map Prod.fst).IsChain (· ≤ ·))
    (hlooks : s.lookAt found = (before ++ (between ++ after), s'))
    (hframe : .ok .frame ∉ between) :
    Schedule.services .instruction between ≤ n := by
  induction before generalizing s found now with
  | nil => exact h.services_le hinstants hlooks hframe
  | cons outcome rest ih =>
      cases found with
      | nil => cases hlooks
      | cons first found =>
          obtain ⟨later, c⟩ := first
          obtain ⟨_, _, s₁, c₁, heq, htick, hrest⟩ :=
            Schedule.of_lookAt_cons hlooks
          cases heq
          rw [List.map_cons, List.isChain_cons_cons] at hinstants
          exact ih (h.tick hn hinstants.1 htick) hinstants.2 hrest

end FrameWithin

/-! ## Every run -/

/-- As many instructions as begin in one period of a frame last for it. -/
theorem Settings.longestWait {settings : Settings}
    (hperiod : 0 < settings.period .instruction) :
    settings.LongestWait
      (max 2 (settings.period .frame ⌈/⌉ settings.period .instruction)) := by
  refine ⟨Nat.le_max_left 2 _, ?_⟩
  rw [Nat.mul_comm, ← ceilDiv_le_iff_le_mul hperiod]
  exact Nat.le_max_right 2 _

namespace Schedule

variable {σ : Type} [Screen σ] {settings : Settings} {start : Nat}
  {s : Schedule} {found : List (Nat × Console σ)}
  {before between after : List (Except Fault Tick)}

/-- **No frame is starved.**  A schedule is looked at at any instants in order,
with any stalls between them.  From one frame to the next, and before the first,
it runs no more instructions than begin in one period of a frame, or two. -/
theorem never_starves_frames
    (hrate : ∀ t, 1 ≤ settings.rate t ∧ settings.rate t ≤ second)
    (hinstants : (found.map Prod.fst).IsChain (· ≤ ·))
    (hlooks : (Schedule.start settings start).lookAt found =
      (before ++ between ++ after, s))
    (hframe : .ok .frame ∉ between) :
    services .instruction between ≤
      max 2 (settings.period .frame ⌈/⌉ settings.period .instruction) := by
  have hwait := Settings.longestWait
    (Settings.period_pos (hrate .instruction).1 (hrate .instruction).2)
  rw [List.append_assoc] at hlooks
  -- No instant is earlier than zero.
  have hchain : (0 :: found.map Prod.fst).IsChain (· ≤ ·) := by
    cases found with
    | nil => exact List.isChain_singleton 0
    | cons first rest => exact hinstants.cons_cons (Nat.zero_le _)
  exact (FrameWithin.start_schedule (fun t => (hrate t).1) hwait
    0).services_between_le hwait hchain hlooks hframe

/-- A frame each nanosecond, and an instruction every ten. -/
def denseFrames : Settings where
  clockRate := 100000000
  frameRate := 1000000000

theorem tick_circling_frame {s : Schedule} {now : Nat} (hturn : s.turn = .frame)
    (hdue : s.nextDeadline ≤ now) :
    s.tick (.circling {} 0) now =
      (.ok .frame, s.served now .frame,
        .circling (Keypad.tick {}) 1) := by
  rw [tick_frame _ hturn hdue, Console.frame_circling 0 rfl]

theorem tick_circling_instruction {s : Schedule} {now : Nat}
    (hturn : s.turn = .instruction) (hdue : s.nextDeadline ≤ now) :
    s.tick (.circling {} 0) now =
      (.ok .instruction, s.served now .instruction, .circling {} 0) := by
  rw [tick_instruction _ hturn hdue, Console.step_circling]
  rfl

/-- Four looks after twenty-five nanoseconds. -/
def stalledLooks : List (Nat × Console Headless) :=
  List.replicate 4 (25, .circling {} 0)

/-- The stall starts the frames again, and the instructions catch up.  Between
the first frame and the second there are two of them, which is as many as there
can be. -/
theorem never_starves_frames_after_stall :
    (∀ t, 1 ≤ denseFrames.rate t ∧ denseFrames.rate t ≤ second) ∧
    (stalledLooks.map Prod.fst).IsChain (· ≤ ·) ∧
    (∃ s, (Schedule.start denseFrames 0).lookAt stalledLooks =
      ([.ok .frame] ++ [.ok .instruction, .ok .instruction] ++ [.ok .frame],
        s)) ∧
    .ok .frame ∉ [(.ok .instruction : Except Fault Tick), .ok .instruction] ∧
    services .instruction [.ok .instruction, .ok .instruction] = 2 ∧
    services .instruction [.ok .instruction, .ok .instruction] ≤
      max 2 (denseFrames.period .frame ⌈/⌉ denseFrames.period .instruction) := by
  have hrate (t : Turn) :
      1 ≤ denseFrames.rate t ∧ denseFrames.rate t ≤ second := by
    cases t <;> decide
  have hinstants : (stalledLooks.map Prod.fst).IsChain (· ≤ ·) := by
    simp [stalledLooks]
  have hframe : .ok .frame ∉
      [(.ok .instruction : Except Fault Tick), .ok .instruction] := by
    simp
  have hlooks : ∃ s, (Schedule.start denseFrames 0).lookAt stalledLooks =
      ([.ok .frame] ++ [.ok .instruction, .ok .instruction] ++ [.ok .frame],
        s) := by
    have hfirst : (Schedule.start denseFrames 0).tick (.circling {} 0) 25 =
        (.ok .frame, ⟨⟨10, 10⟩, ⟨1, 25⟩, 0, 1⟩, .circling (Keypad.tick {}) 1) :=
      tick_circling_frame (by decide) (by decide)
    have hsecond : Schedule.tick ⟨⟨10, 10⟩, ⟨1, 25⟩, 0, 1⟩ (.circling {} 0) 25 =
        (.ok .instruction, ⟨⟨10, 20⟩, ⟨1, 25⟩, 1, 1⟩, .circling {} 0) :=
      tick_circling_instruction (by decide) (by decide)
    have hthird : Schedule.tick ⟨⟨10, 20⟩, ⟨1, 25⟩, 1, 1⟩ (.circling {} 0) 25 =
        (.ok .instruction, ⟨⟨10, 30⟩, ⟨1, 25⟩, 2, 1⟩, .circling {} 0) :=
      tick_circling_instruction (by decide) (by decide)
    have hfourth : Schedule.tick ⟨⟨10, 30⟩, ⟨1, 25⟩, 2, 1⟩ (.circling {} 0) 25 =
        (.ok .frame, ⟨⟨10, 30⟩, ⟨1, 26⟩, 2, 2⟩, .circling (Keypad.tick {}) 1) :=
      tick_circling_frame (by decide) (by decide)
    refine ⟨⟨⟨10, 30⟩, ⟨1, 26⟩, 2, 2⟩, ?_⟩
    simp only [stalledLooks, List.replicate, lookAt, hfirst, hsecond, hthird,
      hfourth]
    rfl
  obtain ⟨s, hs⟩ := hlooks
  exact ⟨hrate, hinstants, ⟨s, hs⟩, hframe, rfl,
    never_starves_frames hrate hinstants hs hframe⟩

end Schedule
end Chip8
