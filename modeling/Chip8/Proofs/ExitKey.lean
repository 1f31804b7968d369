import Chip8.Proofs.Circling
import Chip8.Proofs.Console
import Chip8.Proofs.Tick

/-!
# How long the exit key is held

The exit key is looked at after instructions, and a press of it is forgotten
after a frame.  So a press ends the run with the next instruction if that
comes before the next frame; otherwise the frame has it forgotten, and the run
goes on.

The count behind this is `Schedule.framesLeft_looks`: along any row of looks,
each frame that ages the keypad takes one from every key, and nothing else
does.

## Main results

* `Schedule.framesLeft_of_tick`, `Schedule.framesLeft_looks` — what is left of
  a press after a look, and after a row of them.
* `Schedule.exit_iff` — whether a press of the exit key ends the run.
-/

namespace Chip8.Schedule

/-! ## What became of a look -/

/-- Whether an instruction ran. -/
def ranInstruction : Except Fault Tick → Bool
  | .ok .instruction => true
  | .ok .exit => true
  | _ => false

/-- Whether key presses have aged by a frame.  They have also if the picture
could not be shown. -/
def agedKeys : Except Fault Tick → Bool
  | .ok .frame => true
  | .error (.display _) => true
  | _ => false

variable {σ : Type} [Screen σ] {s s' : Schedule} {c c' : Console σ} {now : Nat}
  {outcome : Except Fault Tick} {outcomes : List (Except Fault Tick)}

/-- A look at the schedule takes a frame from every key if it ages them, and
leaves them alone otherwise. -/
theorem framesLeft_of_tick (h : s.tick c now = (outcome, s', c')) (key : Key) :
    c'.keypad.framesLeft key =
      c.keypad.framesLeft key - if agedKeys outcome then 1 else 0 := by
  have hcase := tick_cases s c now
  rw [h] at hcase
  cases hcase with
  | idle _ => rfl
  | frame _ _ hframe =>
      have hwhat := c.frame_cases
      rw [hframe] at hwhat
      cases hwhat with
      | shown _ _ => exact Keypad.framesLeft_tick c.keypad key
  | frameFailed _ _ hframe =>
      have hwhat := c.frame_cases
      rw [hframe] at hwhat
      cases hwhat with
      | dead _ => rfl
      | refused _ _ => exact Keypad.framesLeft_tick c.keypad key
  | instruction _ _ hstep houtcome =>
      rw [Console.framesLeft_of_step hstep key, houtcome]
      split <;> rfl
  | @instructionFailed f _ _ hstep =>
      have hne := Console.ne_display_of_step hstep
      cases f with
      | display e => exact absurd rfl (hne e)
      | _ => rfl

/-- A row of looks takes as many frames from every key as it has aged them. -/
theorem framesLeft_looks {instants : List Nat}
    (h : s.looks c instants = (outcomes, s', c')) (key : Key) :
    c'.keypad.framesLeft key =
      c.keypad.framesLeft key - outcomes.countP agedKeys := by
  induction instants generalizing s c outcomes with
  | nil =>
      cases h
      rfl
  | cons now rest ih =>
      obtain ⟨outcome, later, s₁, c₁, rfl, htick, hrest⟩ := of_looks_cons h
      rw [ih hrest, framesLeft_of_tick htick, List.countP_cons, Nat.sub_sub,
        Nat.add_comm]

/-- An instruction that ran tells whether the exit key was held before it. -/
theorem eq_exit_iff (h : s.tick c now = (outcome, s', c'))
    (hran : ranInstruction outcome) :
    (outcome = .ok .exit ↔ 0 < c.keypad.framesLeft .exit) ∧
      (outcome ≠ .ok .exit → outcome = .ok .instruction) := by
  have hcase := tick_cases s c now
  rw [h] at hcase
  cases hcase with
  | idle _ => cases hran
  | frame _ _ _ => cases hran
  | frameFailed _ _ _ => cases hran
  | instructionFailed _ _ _ => cases hran
  | instruction _ _ hstep houtcome =>
      have hleft := Console.framesLeft_of_step hstep .exit
      rw [houtcome, ← hleft]
      by_cases hexit : c'.exitRequested = true
      · have hheld : 0 < c'.keypad.framesLeft .exit := of_decide_eq_true hexit
        simp [hexit, hheld]
      · have hup : ¬ 0 < c'.keypad.framesLeft .exit := fun hlt =>
          hexit (decide_eq_true hlt)
        simp [hexit, hup]

/-- Once the exit key is up, no look at the schedule ends the run. -/
theorem exit_not_mem_looks {instants : List Nat}
    (h : s.looks c instants = (outcomes, s', c'))
    (hup : c.keypad.framesLeft .exit = 0) :
    Except.ok Tick.exit ∉ outcomes := by
  induction instants generalizing s c outcomes with
  | nil =>
      cases h
      exact List.not_mem_nil
  | cons now rest ih =>
      obtain ⟨outcome, later, s₁, c₁, rfl, htick, hrest⟩ := of_looks_cons h
      have hup₁ : c₁.keypad.framesLeft .exit = 0 := by
        rw [framesLeft_of_tick htick, hup, Nat.zero_sub]
      intro hmem
      rcases List.mem_cons.mp hmem with rfl | hmem
      · have hheld := (eq_exit_iff htick rfl).1.mp rfl
        omega
      · exact ih hrest hup₁ hmem

/-! ## Before an instruction runs -/

/-- Where an instruction is next, nothing happens before it runs. -/
theorem looks_of_turn_instruction {instants : List Nat}
    (h : s.looks c instants = (outcomes, s', c'))
    (hquiet : ∀ o ∈ outcomes, ranInstruction o = false)
    (hturn : s.turn = .instruction) :
    s' = s ∧ ∀ o ∈ outcomes, agedKeys o = false := by
  induction instants generalizing c outcomes with
  | nil =>
      cases h
      exact ⟨rfl, fun o ho => absurd ho List.not_mem_nil⟩
  | cons now rest ih =>
      obtain ⟨outcome, later, s₁, c₁, rfl, htick, hrest⟩ := of_looks_cons h
      have hfirst := hquiet outcome List.mem_cons_self
      have hothers : ∀ o ∈ later, ranInstruction o = false := fun o ho =>
        hquiet o (List.mem_cons_of_mem _ ho)
      have hcase := tick_cases s c now
      rw [htick] at hcase
      have hstays : s₁ = s ∧ agedKeys outcome = false := by
        cases hcase with
        | idle _ => exact ⟨rfl, rfl⟩
        | frame hframe _ _ => cases hturn.symm.trans hframe
        | frameFailed hframe _ _ => cases hturn.symm.trans hframe
        | instruction _ _ _ houtcome =>
            rw [houtcome] at hfirst
            split at hfirst <;> cases hfirst
        | @instructionFailed f _ _ hstep =>
            have hne := Console.ne_display_of_step hstep
            cases f with
            | display e => exact absurd rfl (hne e)
            | _ => exact ⟨rfl, rfl⟩
      obtain ⟨rfl, hnot⟩ := hstays
      obtain ⟨hs', hall⟩ := ih hrest hothers
      refine ⟨hs', fun o ho => ?_⟩
      rcases List.mem_cons.mp ho with rfl | ho
      · exact hnot
      · exact hall o ho

/-- Where a frame is next, it stays next until keys have aged. -/
theorem turn_of_looks {instants : List Nat}
    (h : s.looks c instants = (outcomes, s', c'))
    (hyoung : ∀ o ∈ outcomes, agedKeys o = false) (hturn : s.turn = .frame) :
    s'.turn = .frame := by
  induction instants generalizing c outcomes with
  | nil =>
      cases h
      exact hturn
  | cons now rest ih =>
      obtain ⟨outcome, later, s₁, c₁, rfl, htick, hrest⟩ := of_looks_cons h
      have hfirst := hyoung outcome List.mem_cons_self
      have hothers : ∀ o ∈ later, agedKeys o = false := fun o ho =>
        hyoung o (List.mem_cons_of_mem _ ho)
      have hcase := tick_cases s c now
      rw [htick] at hcase
      have hstays : s₁ = s := by
        cases hcase with
        | idle _ => rfl
        | frame _ _ _ => cases hfirst
        | frameFailed _ _ _ => rfl
        | instruction hinstruction _ _ _ => cases hturn.symm.trans hinstruction
        | instructionFailed hinstruction _ _ =>
            cases hturn.symm.trans hinstruction
      subst hstays
      exact ih hrest hothers

/-- An instruction that ran was next. -/
theorem turn_of_ranInstruction (h : s.tick c now = (outcome, s', c'))
    (hran : ranInstruction outcome) : s.turn = .instruction := by
  have hcase := tick_cases s c now
  rw [h] at hcase
  cases hcase with
  | instruction hturn _ _ _ => exact hturn
  | idle _ => cases hran
  | frame _ _ _ => cases hran
  | frameFailed _ _ _ => cases hran
  | instructionFailed _ _ _ => cases hran

/-! ## The exit key -/

/-- **When a press of the exit key is seen.**  The schedule is looked at some
times after the press, and then an instruction runs for the first time.  It
ends the run exactly if no frame has aged the keypad in between, and that is
the case exactly if the instruction was due before the next frame when the key
went down.  Otherwise the press is lost: the run goes on, and no later look
ends it. -/
theorem exit_iff (s : Schedule) (c : Console σ) (before : List Nat)
    {s₁ s₂ : Schedule} {c₁ c₂ : Console σ}
    (hbefore : s.looks (c.press .exit) before = (outcomes, s₁, c₁))
    (hquiet : ∀ o ∈ outcomes, ranInstruction o = false)
    (hnow : s₁.tick c₁ now = (outcome, s₂, c₂))
    (hran : ranInstruction outcome) :
    (outcome = .ok .exit ↔ ∀ o ∈ outcomes, agedKeys o = false) ∧
      (outcome = .ok .exit ↔
        s.instructions.deadline < s.frames.deadline) ∧
      (outcome ≠ .ok .exit → outcome = .ok .instruction ∧
        ∀ later, Except.ok Tick.exit ∉ (s₂.looks c₂ later).1) := by
  have hpressed : (c.press .exit).keypad.framesLeft .exit = 1 :=
    Keypad.framesLeft_press_self c.keypad .exit
  have hleft := framesLeft_looks hbefore .exit
  rw [hpressed] at hleft
  obtain ⟨hexit, hother⟩ := eq_exit_iff hnow hran
  have haged :
      outcome = .ok .exit ↔ ∀ o ∈ outcomes, agedKeys o = false := by
    have hcount : outcomes.countP agedKeys = 0 ↔
        ∀ o ∈ outcomes, agedKeys o = false := by
      simp [List.countP_eq_zero]
    rw [hexit, hleft, ← hcount]
    omega
  refine ⟨haged, ?_, fun hne => ⟨hother hne, fun later => ?_⟩⟩
  · -- Whose turn it was when the key went down decides it: nothing but the
    -- service of that clock passes the turn on.
    rw [haged]
    constructor
    · intro hyoung
      have hturn : s.turn = .instruction := by
        cases hturn : s.turn with
        | instruction => rfl
        | frame =>
            have hframe := turn_of_looks hbefore hyoung hturn
            cases hframe.symm.trans (turn_of_ranInstruction hnow hran)
      exact s.deadline_lt_of_turn hturn
    · intro hlt
      have hturn : s.turn = .instruction := by
        unfold turn
        rw [if_neg (Nat.not_le_of_lt hlt)]
      exact (looks_of_turn_instruction hbefore hquiet hturn).2
  · have hup : c₂.keypad.framesLeft .exit = 0 := by
      have hnot : ¬ 0 < c₁.keypad.framesLeft .exit := fun hlt =>
        hne (hexit.mpr hlt)
      rw [framesLeft_of_tick hnow]
      omega
    exact exit_not_mem_looks rfl hup

/-! ### A press that is lost -/

/-- One instruction and one frame a second, from the start. -/
def leisurely : Schedule :=
  .start { clockRate := 1, frameRate := 1 } 0

/-- Its first second brings a frame, which makes the keypad age. -/
theorem looks_leisurely :
    leisurely.looks ((Console.circling {} 0).press .exit) [second] =
      ([.ok .frame], leisurely.served second .frame,
        .circling (({} : Keypad).press .exit).tick 1) := by
  have hframe : ((Console.circling {} 0).press .exit).frame =
      (.ok (), .circling (({} : Keypad).press .exit).tick 1) :=
    Console.frame_circling 0 rfl
  simp only [looks, tick_frame _ (show leisurely.turn = .frame by decide)
    (show leisurely.nextDeadline ≤ second by decide), hframe]

/-- The instruction of the same second finds the exit key up. -/
theorem tick_leisurely :
    (leisurely.served second .frame).tick
        (.circling (({} : Keypad).press .exit).tick 1) second =
      (.ok .instruction,
        (leisurely.served second .frame).served second .instruction,
        .circling (({} : Keypad).press .exit).tick 1) := by
  have hturn : (leisurely.served second .frame).turn = .instruction := by
    decide
  have hdue : (leisurely.served second .frame).nextDeadline ≤ second := by
    decide
  rw [tick_instruction _ hturn hdue, Console.step_circling]
  rfl

/-- The instruction was not due before the frame, so the press is lost for
good. -/
theorem exit_iff_leisurely :
    ¬ leisurely.instructions.deadline < leisurely.frames.deadline ∧
      ∀ later, Except.ok Tick.exit ∉
        (((leisurely.served second .frame).served second .instruction).looks
          (.circling (({} : Keypad).press .exit).tick 1) later).1 := by
  obtain ⟨_, hdue, hlost⟩ := exit_iff leisurely (.circling {} 0) [second]
    looks_leisurely (by decide) tick_leisurely rfl
  refine ⟨fun hlt => ?_, (hlost nofun).2⟩
  cases hdue.mpr hlt

/-- Not every press of the exit key ends the run, not even the run of a program
that has just begun. -/
theorem exit_lost :
    ¬ ∀ (settings : Settings) (memory : Memory) (seed : UInt64)
      (before : List Nat) (now : Nat) (outcomes : List (Except Fault Tick))
      (outcome : Except Fault Tick) (c₁ c₂ : Console Headless)
      (s₁ s₂ : Schedule),
      1 ≤ settings.clockRate → 1 ≤ settings.frameRate →
      (start settings 0).looks
        (Console.press ⟨.start memory .standard seed, {}, {}⟩ .exit) before =
          (outcomes, s₁, c₁) →
      (∀ o ∈ outcomes, ranInstruction o = false) →
      s₁.tick c₁ now = (outcome, s₂, c₂) → ranInstruction outcome →
      outcome = .ok .exit := by
  intro h
  have hexit := h { clockRate := 1, frameRate := 1 }
    (.loaded [0x12, 0x00] (by decide)) 0 [second] second _ _ _ _ _ _
    (Nat.le_refl 1) (Nat.le_refl 1) looks_leisurely (by decide)
    tick_leisurely rfl
  cases hexit

end Chip8.Schedule
