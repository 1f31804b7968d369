/-!
# Clocks

A clock ticks at a fixed rate.  It keeps the instant of its next tick, and
moves that on by exactly one period when the tick has been served, so serving
a tick late does not make the clock drift.  A clock that is more than a period
behind starts again from now instead of catching up in a burst.

Time is counted in nanoseconds.
-/

namespace Chip8

/-- Nanoseconds in a second. -/
def second : Nat := 1000000000

/-- A clock. -/
structure Clock where
  /-- The time between two ticks. -/
  period : Nat
  /-- The instant of the next tick. -/
  deadline : Nat
  deriving DecidableEq, Repr

namespace Clock

/-- A clock of `rate` ticks a second, the first of them one period after
`start`.  A rate of zero counts as one, and a period is cut down to whole
nanoseconds. -/
def ofRate (rate start : Nat) : Clock where
  period := second / max rate 1
  deadline := start + second / max rate 1

/-- Whether a tick is to be served. -/
def isDue (c : Clock) (now : Nat) : Bool :=
  c.deadline ≤ now

/-- The clock after a tick was served at `now`. -/
def advance (c : Clock) (now : Nat) : Clock :=
  let next := c.deadline + c.period
  { c with deadline := if c.period < now - next then now else next }

/-! ## What serving a tick does -/

/-- The rate of a clock never changes. -/
@[simp] theorem period_advance (c : Clock) (now : Nat) :
    (c.advance now).period = c.period := rfl

/-- A tick that is served in time moves the clock on by one period. -/
theorem deadline_advance_of_le {c : Clock} {now : Nat}
    (h : now ≤ c.deadline + 2 * c.period) :
    (c.advance now).deadline = c.deadline + c.period := by
  simp only [advance]
  rw [if_neg (by omega)]

/-- A tick that is served too late makes the clock start again. -/
theorem deadline_advance_of_gt {c : Clock} {now : Nat}
    (h : c.deadline + 2 * c.period < now) :
    (c.advance now).deadline = now := by
  simp only [advance]
  rw [if_pos (by omega)]

/-- Two ticks are never closer than one period. -/
theorem deadline_add_period_le (c : Clock) (now : Nat) :
    c.deadline + c.period ≤ (c.advance now).deadline := by
  simp only [advance]
  split <;> omega

end Clock

end Chip8
