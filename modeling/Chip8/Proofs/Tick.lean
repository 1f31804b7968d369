import Chip8.Schedule

/-!
# Looking at the schedule

The two clocks take turns.  Whose turn it is follows from the deadlines alone,
and a look at the schedule serves that clock if it is due and does nothing
otherwise.  So a tick is one of five things, and `Schedule.tick` need not be
opened again.

## Main results

* `Schedule.tick_idle`, `Schedule.tick_frame`, `Schedule.tick_instruction` —
  what a look does.
* `Schedule.tick_cases` — what it can have been.
* `Schedule.looks` — one look after the other.
-/

namespace Chip8

/-- The clock that is served. -/
inductive Turn where
  /-- The clock of the frames. -/
  | frame
  /-- The clock of the instructions. -/
  | instruction
  deriving DecidableEq, Repr

namespace Schedule

/-! ## Turns -/

/-- The clock of a turn. -/
def clock (s : Schedule) : Turn → Clock
  | .frame => s.frames
  | .instruction => s.instructions

/-- How often a clock has been served. -/
def count (s : Schedule) : Turn → Nat
  | .frame => s.frameCount
  | .instruction => s.instructionCount

/-- Whose turn it is. -/
def turn (s : Schedule) : Turn :=
  if s.frames.deadline ≤ s.instructions.deadline then .frame
  else .instruction

/-- The schedule after a clock was served. -/
def served (s : Schedule) (now : Nat) : Turn → Schedule
  | .frame =>
    { s with
      frames := s.frames.advance now
      frameCount := s.frameCount + 1 }
  | .instruction =>
    { s with
      instructions := s.instructions.advance now
      instructionCount := s.instructionCount + 1 }

section Turns

variable (s : Schedule) (now : Nat)

/-- The clock that was served moves on. -/
@[simp] theorem clock_served_self (t : Turn) :
    (s.served now t).clock t = (s.clock t).advance now := by
  cases t <;> rfl

theorem clock_served_of_ne {t u : Turn} (h : u ≠ t) :
    (s.served now t).clock u = s.clock u := by
  cases t <;> cases u <;> first | rfl | exact absurd rfl h

@[simp] theorem count_served_self (t : Turn) :
    (s.served now t).count t = s.count t + 1 := by
  cases t <;> rfl

theorem count_served_of_ne {t u : Turn} (h : u ≠ t) :
    (s.served now t).count u = s.count u := by
  cases t <;> cases u <;> first | rfl | exact absurd rfl h

/-- No clock is due before the one whose turn it is. -/
theorem deadline_turn_le (u : Turn) :
    (s.clock s.turn).deadline ≤ (s.clock u).deadline := by
  unfold turn
  split <;> cases u <;> simp only [clock] <;> omega

/-- The clock whose turn it is has the next deadline. -/
theorem deadline_turn : (s.clock s.turn).deadline = s.nextDeadline := by
  unfold turn nextDeadline
  split <;> simp only [clock] <;> omega

/-- A frame comes before an instruction of the same instant. -/
theorem deadline_lt_of_turn (h : s.turn = .instruction) :
    s.instructions.deadline < s.frames.deadline := by
  unfold turn at h
  split at h
  · cases h
  · omega

theorem deadline_le_of_turn (h : s.turn = .frame) :
    s.frames.deadline ≤ s.instructions.deadline := by
  unfold turn at h
  split at h
  · assumption
  · cases h

end Turns

/-! ## Ticks -/

section Ticks

variable {σ : Type} [Screen σ] {s s' : Schedule} {c c' : Console σ} {now : Nat}

/-- Where nothing is due, nothing is done. -/
theorem tick_idle (c : Console σ) (h : now < s.nextDeadline) :
    s.tick c now = (.ok (.idle s.nextDeadline), s, c) := by
  have hf : ¬ s.frames.deadline ≤ now := by
    unfold nextDeadline at h
    omega
  have hi : ¬ s.instructions.deadline ≤ now := by
    unfold nextDeadline at h
    omega
  simp [tick, Clock.isDue, hf, hi]

/-- A frame that is due is gone through. -/
theorem tick_frame (c : Console σ) (hturn : s.turn = .frame)
    (hdue : s.nextDeadline ≤ now) :
    s.tick c now =
      match c.frame with
      | (.error f, c) => (.error f, s, c)
      | (.ok (), c) => (.ok .frame, s.served now .frame, c) := by
  have hle := s.deadline_le_of_turn hturn
  have hf : s.frames.deadline ≤ now := by
    unfold nextDeadline at hdue
    omega
  simp only [tick, Clock.isDue, hle, hf, if_true, decide_true]
  rfl

/-- An instruction that is due is run. -/
theorem tick_instruction (c : Console σ) (hturn : s.turn = .instruction)
    (hdue : s.nextDeadline ≤ now) :
    s.tick c now =
      match c.step with
      | .error f => (.error f, s, c)
      | .ok c =>
        (.ok (if c.exitRequested then .exit else .instruction),
          s.served now .instruction, c) := by
  have hlt := s.deadline_lt_of_turn hturn
  have hi : s.instructions.deadline ≤ now := by
    unfold nextDeadline at hdue
    omega
  simp only [tick, Clock.isDue, Nat.not_le_of_lt hlt, hi, if_true, if_false,
    decide_true]
  rfl

/-- What a look at the schedule was, by its outcome. -/
inductive TickCase (s : Schedule) (c : Console σ) (now : Nat) :
    Except Fault Tick × Schedule × Console σ → Prop
  | idle (h : now < s.nextDeadline) :
    TickCase s c now (.ok (.idle s.nextDeadline), s, c)
  | frame {c' : Console σ} (hturn : s.turn = .frame)
    (hdue : s.nextDeadline ≤ now) (h : c.frame = (.ok (), c')) :
    TickCase s c now (.ok .frame, s.served now .frame, c')
  | frameFailed {f : Fault} {c' : Console σ} (hturn : s.turn = .frame)
    (hdue : s.nextDeadline ≤ now) (h : c.frame = (.error f, c')) :
    TickCase s c now (.error f, s, c')
  | instruction {c' : Console σ} {outcome : Tick}
    (hturn : s.turn = .instruction) (hdue : s.nextDeadline ≤ now)
    (h : c.step = .ok c')
    (houtcome : outcome = if c'.exitRequested then .exit else .instruction) :
    TickCase s c now (.ok outcome, s.served now .instruction, c')
  | instructionFailed {f : Fault} (hturn : s.turn = .instruction)
    (hdue : s.nextDeadline ≤ now) (h : c.step = .error f) :
    TickCase s c now (.error f, s, c)

/-- Every look is one of the five. -/
theorem tick_cases (s : Schedule) (c : Console σ) (now : Nat) :
    TickCase s c now (s.tick c now) := by
  by_cases hdue : s.nextDeadline ≤ now
  · cases hturn : s.turn with
    | frame =>
        rw [tick_frame c hturn hdue]
        cases hframe : c.frame with
        | mk outcome c' =>
            cases outcome with
            | error f => exact .frameFailed hturn hdue hframe
            | ok _ => exact .frame hturn hdue hframe
    | instruction =>
        rw [tick_instruction c hturn hdue]
        cases hstep : c.step with
        | error f => exact .instructionFailed hturn hdue hstep
        | ok c' => exact .instruction hturn hdue hstep rfl
  · have hlt := Nat.lt_of_not_le hdue
    rw [tick_idle c hlt]
    exact .idle hlt

/-! ### Ticks by their outcomes -/

/-- After an idle look, nothing has changed and nothing is due. -/
theorem of_tick_idle {until_ : Nat}
    (h : s.tick c now = (.ok (.idle until_), s', c')) :
    now < s.nextDeadline ∧ until_ = s.nextDeadline ∧ s' = s ∧ c' = c := by
  have hcase := tick_cases s c now
  rw [h] at hcase
  cases hcase with
  | idle hlt => exact ⟨hlt, rfl, rfl, rfl⟩
  | instruction _ _ _ houtcome => split at houtcome <;> cases houtcome

/-- A frame was the frame of the console. -/
theorem of_tick_frame (h : s.tick c now = (.ok .frame, s', c')) :
    s.turn = .frame ∧ s.nextDeadline ≤ now ∧ s' = s.served now .frame ∧
      c.frame = (.ok (), c') := by
  have hcase := tick_cases s c now
  rw [h] at hcase
  cases hcase with
  | frame hturn hdue hframe => exact ⟨hturn, hdue, rfl, hframe⟩
  | instruction _ _ _ houtcome => split at houtcome <;> cases houtcome

/-- An instruction was a step of the console, with the exit key up after it. -/
theorem of_tick_instruction
    (h : s.tick c now = (.ok .instruction, s', c')) :
    s.turn = .instruction ∧ s.nextDeadline ≤ now ∧
      s' = s.served now .instruction ∧ c.step = .ok c' ∧
      c'.exitRequested = false := by
  have hcase := tick_cases s c now
  rw [h] at hcase
  cases hcase with
  | instruction hturn hdue hstep houtcome =>
      refine ⟨hturn, hdue, rfl, hstep, ?_⟩
      split at houtcome
      · cases houtcome
      · next hexit => simpa using hexit

/-! ### One look after the other -/

/-- Looks at the schedule at some instants, one after the other and whatever
comes of it.  Answers what happened at each. -/
def looks (s : Schedule) (c : Console σ) :
    List Nat → List (Except Fault Tick) × Schedule × Console σ
  | [] => ([], s, c)
  | now :: rest =>
    let (outcome, s, c) := s.tick c now
    let (outcomes, s, c) := s.looks c rest
    (outcome :: outcomes, s, c)

/-- A look, and then the others. -/
theorem of_looks_cons {rest : List Nat} {outcomes : List (Except Fault Tick)}
    (h : s.looks c (now :: rest) = (outcomes, s', c')) :
    ∃ outcome later s₁ c₁, outcomes = outcome :: later ∧
      s.tick c now = (outcome, s₁, c₁) ∧
      s₁.looks c₁ rest = (later, s', c') := by
  cases htick : s.tick c now with
  | mk outcome after =>
      obtain ⟨s₁, c₁⟩ := after
      cases hrest : s₁.looks c₁ rest with
      | mk later last =>
          rw [looks, htick] at h
          simp only [hrest] at h
          cases h
          exact ⟨outcome, later, s₁, c₁, rfl, rfl, hrest⟩

end Ticks

end Schedule

end Chip8
