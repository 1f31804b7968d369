import Chip8.Proofs.Footprint
import Chip8.Proofs.RandomBytes
import Chip8.Proofs.Rig

/-!
# How steps and frames are interleaved

A frame has to do with timers, keys and the screen, and a step with all the
rest, unless its instruction is one of the few that read or set a timer or look
at a key.  So where it is not, step and frame can be exchanged: each ends as it
would have ended anyway, and so does the console.

By exchanging neighbours, every row of such steps and frames can be brought into
any other order.  Only how many there are of each makes a difference, and not
how a schedule has them take turns.

## Main results

* `Console.frame_grafts` — a frame has to do with timers, keys and screen alone.
* `Console.exchange` — a step and a frame are exchanged.
* `Console.Interleaved.of_perm` — so are whole rows of them.
* `Console.interleaving_irrelevant` — both, and what it means for schedules.
-/

namespace Chip8

namespace Console

/-! ## Frames -/

/-- What a frame has to do with. -/
abbrev framePeripherals : List Peripheral :=
  [.timers, .keys, .screen]

section Frames

variable {σ : Type}

/-- No instruction has to do with the screen. -/
theorem Spares.framePeripherals {c : Console σ}
    (h : c.Spares [.timers, .keys]) : c.Spares framePeripherals := by
  intro i hi p hp
  have hspares := h i hi
  simp only [List.mem_cons, List.not_mem_nil, or_false] at hp hspares
  rcases hp with rfl | rfl | rfl
  · exact hspares _ (.inl rfl)
  · exact hspares _ (.inr rfl)
  · cases i <;> rfl

/-- A frame changes nothing else. -/
theorem grafts_frame [Screen σ] (c : Console σ) :
    c.grafts framePeripherals c.frame.2 = c.frame.2 := by
  have hcase := c.frame_cases
  generalize c.frame = result at hcase
  cases hcase with
  | dead _ => rfl
  | refused _ _ => rfl
  | shown _ _ => rfl

/-- The same instruction is next after a frame. -/
theorem next?_frame [Screen σ] (c : Console σ) :
    c.frame.2.machine.next? = c.machine.next? := by
  rw [← c.grafts_frame, next?_grafts]

end Frames

variable {c c' : Console Headless}

/-- A frame makes nothing of anything else, where nobody sees the picture. -/
theorem frame_grafts (c c' : Console Headless) :
    (c'.grafts framePeripherals c).frame =
      (c.frame.1, c'.grafts framePeripherals c.frame.2) := by
  have hkeypad : (c'.grafts framePeripherals c).keypad = c.keypad := rfl
  have hscreen : (c'.grafts framePeripherals c).screen = c.screen := rfl
  simp only [frame, hkeypad, hscreen]
  cases c.keypad.check with
  | error e => rfl
  | ok _ =>
      simp only [Screen.flush, Headless.flush]
      cases c.screen.refusal <;> rfl

/-! ## Neighbours -/

/-- A step that has to do with neither timers nor keys ends after a frame as it
does before it, and a frame that follows it as it does without it. -/
theorem step_frame (h : c.Spares [.timers, .keys]) :
    c.frame.2.step = c.step.map fun c' => c'.frame.2 := by
  have hstep := c.step_grafts c.frame.2 h.framePeripherals
  rw [grafts_frame] at hstep
  rw [hstep]
  cases hresult : c.step with
  | error f => rfl
  | ok c' =>
      have hframe := frame_grafts c c'
      rw [grafts_of_step h.framePeripherals hresult] at hframe
      rw [Except.map, Except.map, hframe]

theorem frame_step (h : c.Spares [.timers, .keys]) (hstep : c.step = .ok c') :
    c'.frame.1 = c.frame.1 := by
  have hframe := frame_grafts c c'
  rw [grafts_of_step h.framePeripherals hstep] at hframe
  rw [hframe]

/-- A frame makes no difference to what a step spares. -/
theorem spares_frame_iff {ps : List Peripheral} :
    (c.act .frame).Spares ps ↔ c.Spares ps := by
  show c.frame.2.Spares ps ↔ c.Spares ps
  rw [Spares, Spares, next?_frame]

/-- A step, and then a frame, is a frame and then a step. -/
theorem exchange_step_frame (h : c.Spares [.timers, .keys]) :
    ((c.act .frame).serve .instruction).1 = (c.serve .instruction).1 ∧
      ((c.act .step).serve .frame).1 = (c.serve .frame).1 ∧
      (c.act .step).act .frame = (c.act .frame).act .step := by
  have hlater := step_frame h
  cases hstep : c.step with
  | error f =>
      have hlater' : (c.act .frame).step = .error f := by
        rw [hstep] at hlater
        exact hlater
      rw [serve_instruction_of_error hstep, serve_instruction_of_error hlater',
        act_step_of_error hstep, act_step_of_error hlater']
      exact ⟨rfl, rfl, rfl⟩
  | ok c' =>
      have hlater' : (c.act .frame).step = .ok (c'.act .frame) := by
        rw [hstep] at hlater
        exact hlater
      rw [serve_instruction_of_ok hstep, serve_instruction_of_ok hlater',
        act_step_of_ok hstep, act_step_of_ok hlater']
      exact ⟨rfl, frame_step h hstep, rfl⟩

/-- Neighbours of different kinds are exchanged. -/
theorem exchange {t u : Turn} (hne : t ≠ u) (h : c.Spares [.timers, .keys]) :
    ((c.act u.action).serve t).1 = (c.serve t).1 ∧
      ((c.act t.action).serve u).1 = (c.serve u).1 ∧
      (c.act t.action).act u.action = (c.act u.action).act t.action := by
  obtain ⟨hstep, hframe, heq⟩ := exchange_step_frame h
  cases t with
  | instruction =>
      cases u with
      | instruction => exact absurd rfl hne
      | frame => exact ⟨hstep, hframe, heq⟩
  | frame =>
      cases u with
      | instruction => exact ⟨hframe, hstep, heq.symm⟩
      | frame => exact absurd rfl hne

/-! ## Rows -/

/-- What two rows of turns have in common that bring the same console about, by
the same steps and the same frames. -/
structure Interleaved (c : Console Headless) (one other : List Turn) :
    Prop where
  spares : c.SparesAll [.timers, .keys] (Turn.actions other)
  stints : ∀ t, (c.stints (Turn.actions one)).filter (·.turn = t) =
    (c.stints (Turn.actions other)).filter (·.turn = t)
  acts : c.acts (Turn.actions one) = c.acts (Turn.actions other)

namespace Interleaved

/-- The first turn of a row is the first of all. -/
theorem cons {t : Turn} {one other : List Turn}
    (hspares : t.action = .step → c.Spares [.timers, .keys])
    (h : (c.act t.action).Interleaved one other) :
    c.Interleaved (t :: one) (t :: other) where
  spares := ⟨hspares, h.spares⟩
  stints := by
    intro u
    rw [stints_actions_cons, stints_actions_cons, List.filter_cons,
      List.filter_cons, h.stints u]
  acts := h.acts

protected theorem refl {row : List Turn}
    (h : c.SparesAll [.timers, .keys] (Turn.actions row)) :
    c.Interleaved row row :=
  ⟨h, fun _ => rfl, rfl⟩

protected theorem trans {one other third : List Turn}
    (h : c.Interleaved one other) (h' : c.Interleaved other third) :
    c.Interleaved one third :=
  ⟨h'.spares, fun t => (h.stints t).trans (h'.stints t), h.acts.trans h'.acts⟩

/-- The first two turns of a row are exchanged. -/
theorem swap (t u : Turn) {row : List Turn}
    (h : c.SparesAll [.timers, .keys] (Turn.actions (t :: u :: row))) :
    c.Interleaved (t :: u :: row) (u :: t :: row) := by
  by_cases hne : t = u
  · rw [hne] at h ⊢
    exact .refl h
  obtain ⟨hfirst, hsecond, hrest⟩ := h
  -- The step may come second, but then there is but a frame before it.
  have hspares : c.Spares [.timers, .keys] := by
    cases t with
    | instruction => exact hfirst rfl
    | frame =>
        cases u with
        | instruction => exact spares_frame_iff.mp (hsecond rfl)
        | frame => exact absurd rfl hne
  have hspares' : (c.act u.action).Spares [.timers, .keys] ∨ t = .frame := by
    cases t with
    | instruction =>
        cases u with
        | instruction => exact absurd rfl hne
        | frame => exact .inl (spares_frame_iff.mpr hspares)
    | frame => exact .inr rfl
  obtain ⟨ht, hu, heq⟩ := exchange hne hspares
  constructor
  case spares =>
    refine ⟨fun _ => hspares, fun hstep => ?_, heq ▸ hrest⟩
    rcases hspares' with hs | rfl
    · exact hs
    · cases hstep
  case stints =>
    intro v
    simp only [stints_actions_cons, ht, hu, heq]
    cases t <;> cases u <;> cases v <;> rfl
  case acts =>
    show ((c.act t.action).act u.action).acts (Turn.actions row) =
      ((c.act u.action).act t.action).acts (Turn.actions row)
    rw [heq]

/-- **Rows of turns can be brought into any order.** -/
theorem of_perm {one other : List Turn} (hperm : one.Perm other)
    (h : c.SparesAll [.timers, .keys] (Turn.actions one)) :
    c.Interleaved one other := by
  induction hperm generalizing c with
  | nil => exact .refl h
  | cons t _ ih => exact .cons h.1 (ih h.2)
  | swap u t row => exact swap t u h
  | trans _ _ ih ih' =>
      have hfirst := ih h
      exact hfirst.trans (ih' hfirst.spares)

end Interleaved

/-! ## Schedules -/

/-- **Only the numbers of steps and frames make a difference.**  Where the next
word is none of an instruction that has to do with timers or keys, be it
that of an instruction at all or not, a step and a frame can be exchanged: both
end as they would have, and the console is the same.  So two rows that hold as
many steps, and as many frames, bring the same console about, each by the steps
and the frames of the other.  In particular, two schedules do that give the
console as many turns of both kinds. -/
theorem interleaving_irrelevant (c : Console Headless) :
    (c.Spares [.timers, .keys] →
      ((c.act .frame).serve .instruction).1 = (c.serve .instruction).1 ∧
      ((c.act .step).serve .frame).1 = (c.serve .frame).1 ∧
      (c.act .step).act .frame = (c.act .frame).act .step) ∧
    (∀ one other : List Turn, (∀ t, one.count t = other.count t) →
      c.SparesAll [.timers, .keys] (Turn.actions one) →
      c.Interleaved one other) ∧
    ∀ (r r' : Rig Headless) (instants instants' : List Nat),
      r.console = c → r'.console = c →
      (∀ t, (r.turns instants).count t = (r'.turns instants').count t) →
      c.SparesAll [.timers, .keys] (Turn.actions (r.turns instants)) →
      (r.afterAll (instants.map .look)).console =
          (r'.afterAll (instants'.map .look)).console ∧
        ∀ t, (r.stints (instants.map .look)).filter (·.turn = t) =
          (r'.stints (instants'.map .look)).filter (·.turn = t) := by
  refine ⟨exchange_step_frame, fun one other hcount hspares => ?_, ?_⟩
  · exact .of_perm (List.perm_iff_count.mpr hcount) hspares
  · intro r r' instants instants' hr hr' hcount hspares
    have hrows := Interleaved.of_perm (List.perm_iff_count.mpr hcount) hspares
    obtain ⟨hstints, hconsole⟩ := r.looks_eq_turns instants
    obtain ⟨hstints', hconsole'⟩ := r'.looks_eq_turns instants'
    rw [hr] at hstints hconsole
    rw [hr'] at hstints' hconsole'
    rw [hstints, hconsole, hstints', hconsole']
    exact ⟨hrows.acts, hrows.stints⟩

/-- A program that draws two bytes, while a key is down and the delay timer
runs. -/
def drawing : Console Headless where
  machine := { Machine.start masking .standard 7 with delay := 2 }
  keypad := ({} : Keypad).press (.hex 3)
  screen := {}

theorem word_drawing :
    drawing.machine.memory.word drawing.machine.pc = .ok 0xC000 :=
  Memory.word_loaded (j := 0) (by decide) (by decide) rfl

/-- Its first two instructions have to do with neither timers nor keys. -/
theorem spares_drawing :
    drawing.Spares [.timers, .keys] ∧
      (drawing.act .step).Spares [.timers, .keys] := by
  have hspares {c : Console Headless} {x : Register} {nn : UInt8}
      (h : c.machine.next? = some (.random x nn)) :
      c.Spares [.timers, .keys] := by
    intro i hi p hp
    rw [h] at hi
    cases hi
    simp only [List.mem_cons, List.not_mem_nil, or_false] at hp
    rcases hp with rfl | rfl <;> rfl
  have hfirst : Instruction.decode 0xC000 = some (.random 0 0) := by decide
  have hsecond : Instruction.decode 0xC1FF = some (.random 1 0xFF) := by decide
  obtain ⟨_, hmemory, hpc⟩ := step_of_random word_drawing hfirst
  have hword : (drawing.act .step).machine.memory.word
      (drawing.act .step).machine.pc = .ok 0xC1FF := by
    rw [hmemory, hpc]
    exact Memory.word_loaded (j := 2) (by decide) (by decide) rfl
  exact ⟨hspares (Machine.next?_of_decode word_drawing hfirst),
    hspares (Machine.next?_of_decode hword hsecond)⟩

/-- It goes through a frame and runs an instruction in the first second, in
whichever order. -/
def drawingAt (clockRate : Nat) : Rig Headless where
  schedule := .start { clockRate, frameRate := 1 } 0
  console := drawing

theorem turns_drawingAt :
    (drawingAt 1).turns [second, second] = [.frame, .instruction] ∧
      (drawingAt 2).turns [second, second] = [.instruction, .frame] := by
  have hturns {r : Rig Headless} {s : Schedule}
      (hfirst : r.schedule.nextDeadline ≤ second)
      (hlook : (r.look second).2.schedule = s)
      (hsecond : s.nextDeadline ≤ second) :
      r.turns [second, second] = [r.schedule.turn, s.turn] := by
    rw [Rig.turns_cons_of_due hfirst,
      Rig.turns_cons_of_due (by rw [hlook]; exact hsecond), hlook]
    rfl
  have hframe : ((drawingAt 1).look second).2.schedule =
      (drawingAt 1).schedule.served second .frame := by
    rw [Rig.look, Schedule.tick_frame _ (by decide) (by decide)]
    rfl
  have hinstruction : ((drawingAt 2).look second).2.schedule =
      (drawingAt 2).schedule.served second .instruction := by
    have hdecode : Instruction.decode 0xC000 = some (.random 0 0) := by decide
    have hmachine :=
      Machine.step_of_decode drawing.keypad word_drawing hdecode
    have hstep : (drawingAt 2).console.step = .ok _ := step_eq_ok hmachine
    rw [Rig.look, Schedule.tick_instruction _ (by decide) (by decide), hstep]
  rw [hturns (by decide) hframe (by decide),
    hturns (by decide) hinstruction (by decide)]
  decide

/-- A frame between the two draws can as well come before them, and it makes no
difference which of the two clocks is the faster one. -/
theorem interleaving_irrelevant_drawing :
    drawing.Spares [.timers, .keys] ∧
      drawing.SparesAll [.timers, .keys]
        (Turn.actions [.instruction, .frame, .instruction]) ∧
      drawing.acts [.step, .frame, .step] =
        drawing.acts [.frame, .step, .step] ∧
      ((drawingAt 1).afterAll [.look second, .look second]).console =
        ((drawingAt 2).afterAll [.look second, .look second]).console := by
  obtain ⟨hspares, hspares'⟩ := spares_drawing
  have hrow : drawing.SparesAll [.timers, .keys]
      (Turn.actions [.instruction, .frame, .instruction]) :=
    ⟨fun _ => hspares, nofun, fun _ => spares_frame_iff.mpr hspares', trivial⟩
  have hlooks : drawing.SparesAll [.timers, .keys]
      (Turn.actions ((drawingAt 1).turns [second, second])) := by
    rw [turns_drawingAt.1]
    exact ⟨nofun, fun _ => spares_frame_iff.mpr hspares, trivial⟩
  obtain ⟨_, hrows, hrigs⟩ := interleaving_irrelevant drawing
  have hinterleaved := hrows [.instruction, .frame, .instruction]
    [.frame, .instruction, .instruction] (fun t => by cases t <;> rfl) hrow
  have hcount (t : Turn) : ((drawingAt 1).turns [second, second]).count t =
      ((drawingAt 2).turns [second, second]).count t := by
    rw [turns_drawingAt.1, turns_drawingAt.2]
    cases t <;> rfl
  obtain ⟨hconsole, _⟩ := hrigs (drawingAt 1) (drawingAt 2) [second, second]
    [second, second] rfl rfl hcount hlooks
  exact ⟨hspares, hrow, hinterleaved.acts, hconsole⟩

end Console

end Chip8
