import Chip8.Proofs.Calls
import Chip8.Proofs.Footprint
import Chip8.Proofs.Loaded
import Chip8.Proofs.Stints

/-!
# Runs that look at neither keys nor chance

A program learns of the keys and of the seed through four instructions only.
So until one of them comes up, two runs of it are alike: whatever the seeds are,
whichever keys go down and whoever else listens to the keypad, their steps and
frames end in the same way, and leave the same memory, picture, registers, calls
and timers behind.

Each run is compared with one that takes the same turns and hears of no key at
all.

## Main results

* `Console.Alike.serve`, `Console.Alike.act` — what a turn, and any other
  action, makes of two consoles that are alike.
* `Console.Alike.acts` — a run and its turns alone.
* `Console.runs_alike` — two runs of a program.
-/

namespace Chip8

/-- Two machines that differ in their random numbers, and in the ticket that
they wait with, at most. -/
structure Machine.Alike (m n : Machine) : Prop where
  memory : m.memory = n.memory
  framebuffer : m.framebuffer = n.framebuffer
  pc : m.pc = n.pc
  v : m.v = n.v
  i : m.i = n.i
  stack : m.stack = n.stack
  delay : m.delay = n.delay
  sound : m.sound = n.sound

namespace Console

variable {σ : Type}

/-- Two consoles that differ in their random numbers and their keys at most. -/
structure Alike (c d : Console σ) : Prop where
  machine : c.machine.Alike d.machine
  screen : c.screen = d.screen

/-- What such consoles may differ in. -/
abbrev keysAndChance : List Peripheral :=
  [.random, .keys]

/-- The turns among some actions, and nothing else. -/
abbrev turnsOf (actions : List Action) : List Action :=
  Turn.actions (actions.filterMap Action.turn?)

theorem turnsOf_cons_of_none {a : Action} (h : a.turn? = none)
    (rest : List Action) : turnsOf (a :: rest) = turnsOf rest := by
  rw [turnsOf, List.filterMap_cons_none h]

theorem turnsOf_cons_action (t : Turn) (rest : List Action) :
    turnsOf (t.action :: rest) = t.action :: turnsOf rest := by
  rw [turnsOf, List.filterMap_cons_some (Turn.turn?_action t)]
  rfl

/-- What is no turn is no step, and has nothing to spare. -/
theorem sparesAll_cons_of_none [Screen σ] {c : Console σ}
    {ps : List Peripheral} {a : Action} (h : a.turn? = none)
    (rest : List Action) :
    c.SparesAll ps (a :: rest) ↔ (c.act a).SparesAll ps rest := by
  have hne : a ≠ .step := by
    rintro rfl
    cases h
  exact ⟨fun hs => hs.2, fun hs => ⟨fun ha => absurd ha hne, hs⟩⟩

theorem alike_grafts (c other : Console σ) :
    c.Alike (c.grafts keysAndChance other) :=
  ⟨⟨rfl, rfl, rfl, rfl, rfl, rfl, rfl, rfl⟩, rfl⟩

namespace Alike

variable {c d : Console σ}

protected theorem refl (c : Console σ) : c.Alike c :=
  ⟨⟨rfl, rfl, rfl, rfl, rfl, rfl, rfl, rfl⟩, rfl⟩

protected theorem symm (h : c.Alike d) : d.Alike c :=
  ⟨⟨h.machine.memory.symm, h.machine.framebuffer.symm, h.machine.pc.symm,
    h.machine.v.symm, h.machine.i.symm, h.machine.stack.symm,
    h.machine.delay.symm, h.machine.sound.symm⟩, h.screen.symm⟩

protected theorem trans {e : Console σ} (h : c.Alike d) (h' : d.Alike e) :
    c.Alike e :=
  ⟨⟨h.machine.memory.trans h'.machine.memory,
    h.machine.framebuffer.trans h'.machine.framebuffer,
    h.machine.pc.trans h'.machine.pc, h.machine.v.trans h'.machine.v,
    h.machine.i.trans h'.machine.i, h.machine.stack.trans h'.machine.stack,
    h.machine.delay.trans h'.machine.delay,
    h.machine.sound.trans h'.machine.sound⟩, h.screen.trans h'.screen⟩

/-- One of them is the other with its own random numbers and keys. -/
theorem grafts_eq (h : c.Alike d) : c.grafts keysAndChance d = d := by
  obtain ⟨⟨⟩, _, _⟩ := c
  obtain ⟨⟨⟩, _, _⟩ := d
  obtain ⟨⟨hmemory, hframebuffer, hpc, hv, hi, hstack, hdelay, hsound⟩,
    hscreen⟩ := h
  dsimp only at *
  subst hmemory hframebuffer hpc hv hi hstack hdelay hsound hscreen
  rfl

/-- The same instruction is next. -/
theorem spares_iff (h : c.Alike d) {ps : List Peripheral} :
    c.Spares ps ↔ d.Spares ps := by
  have hnext : d.machine.next? = c.machine.next? := by
    rw [← h.grafts_eq, next?_grafts]
  rw [Spares, Spares, hnext]

variable [Screen σ]

/-- Whoever presses keys or listens to the keypad, they stay alike. -/
theorem act (h : c.Alike d) {a : Action} (hturn : a.turn? = none) :
    (c.act a).Alike d := by
  obtain ⟨hmachine, hscreen⟩ := machine_act_of_turn? (c := c) hturn
  constructor
  · rw [hmachine]
    exact h.machine
  · exact hscreen.trans h.screen

/-- A turn ends in the same way on both, and leaves them alike. -/
theorem serve (h : c.Alike d) (hc : c.keypad.failure = none)
    (hd : d.keypad.failure = none) {t : Turn}
    (hspares : t = .instruction → c.Spares keysAndChance) :
    (c.serve t).1 = (d.serve t).1 ∧ (c.serve t).2.Alike (d.serve t).2 := by
  cases t with
  | instruction =>
      have hstep := c.step_grafts d (hspares rfl)
      rw [h.grafts_eq] at hstep
      cases hresult : c.step with
      | error f =>
          rw [hresult] at hstep
          rw [serve_instruction_of_error hresult,
            serve_instruction_of_error hstep]
          exact ⟨rfl, h⟩
      | ok c' =>
          rw [hresult] at hstep
          rw [serve_instruction_of_ok hresult, serve_instruction_of_ok hstep]
          exact ⟨rfl, c'.alike_grafts d⟩
  | frame =>
      have hcounted : c.machine.countDown.Alike d.machine.countDown := by
        have hm := h.machine
        constructor
        case delay => simp only [Machine.countDown, hm.delay]
        case sound => simp only [Machine.countDown, hm.sound]
        case memory => exact hm.memory
        case framebuffer => exact hm.framebuffer
        case pc => exact hm.pc
        case v => exact hm.v
        case i => exact hm.i
        case stack => exact hm.stack
      have hcheck := Keypad.check_eq_ok_iff.mpr hc
      have hcheck' := Keypad.check_eq_ok_iff.mpr hd
      simp only [Console.serve, frame, hcheck, hcheck', ← h.machine.framebuffer,
        ← h.screen]
      rcases Screen.flush c.machine.framebuffer c.screen with ⟨_ | _, screen⟩
      · exact ⟨rfl, hcounted, rfl⟩
      · exact ⟨rfl, hcounted, rfl⟩

/-- So does a turn that is taken as an action. -/
theorem act_action (h : c.Alike d) (hc : c.keypad.failure = none)
    (hd : d.keypad.failure = none) {t : Turn}
    (hspares : t.action = .step → c.Spares keysAndChance) :
    (c.serve t).1 = (d.serve t).1 ∧
      (c.act t.action).Alike (d.act t.action) := by
  rw [Console.act_action, Console.act_action]
  refine h.serve hc hd fun ht => hspares ?_
  rw [ht]
  rfl

/-- **A run and its turns alone.**  A run that hears of keys, but never looks
at them, is alike to one that takes the same turns and hears of none. -/
theorem acts (h : c.Alike d) (hc : c.keypad.failure = none)
    (hd : d.keypad.failure = none) {actions : List Action}
    (hwell : ∀ e, .fail e ∉ actions) :
    (c.SparesAll keysAndChance actions ↔
        d.SparesAll keysAndChance (turnsOf actions)) ∧
      (c.SparesAll keysAndChance actions →
        c.stints actions = d.stints (turnsOf actions) ∧
          (c.acts actions).Alike (d.acts (turnsOf actions))) := by
  induction actions generalizing c d with
  | nil => exact ⟨Iff.rfl, fun _ => ⟨rfl, h⟩⟩
  | cons a rest ih =>
      have hrest : ∀ e, .fail e ∉ rest := fun e he =>
        hwell e (List.mem_cons_of_mem _ he)
      have hc' : (c.act a).keypad.failure = none :=
        failure_act_eq_none hc fun e he => hwell e (he ▸ List.mem_cons_self)
      cases hturn : a.turn? with
      | none =>
          rw [turnsOf_cons_of_none hturn, sparesAll_cons_of_none hturn, stints,
            stint?_of_turn?_eq_none hturn]
          exact ih (h.act hturn) hc' hd hrest
      | some t =>
          obtain rfl := Action.eq_of_turn? hturn
          have hd' : (d.act t.action).keypad.failure = none := by
            rw [Console.act_action, failure_serve, hd]
          have hhead : (t.action = .step → c.Spares keysAndChance) ↔
              (t.action = .step → d.Spares keysAndChance) := by
            rw [h.spares_iff]
          rw [turnsOf_cons_action]
          refine ⟨?_, fun hspares => ?_⟩
          · constructor
            · rintro ⟨hfirst, hlater⟩
              have halike := (h.act_action hc hd hfirst).2
              have hiff := (ih halike hc' hd' hrest).1
              exact ⟨hhead.mp hfirst, hiff.mp hlater⟩
            · rintro ⟨hfirst, hlater⟩
              have halike := (h.act_action hc hd (hhead.mpr hfirst)).2
              have hiff := (ih halike hc' hd' hrest).1
              exact ⟨hhead.mpr hfirst, hiff.mpr hlater⟩
          · obtain ⟨houtcome, halike⟩ := h.act_action hc hd hspares.1
            obtain ⟨hstints, hlast⟩ := (ih halike hc' hd' hrest).2 hspares.2
            refine ⟨?_, hlast⟩
            rw [stints, stints, stint?_action, stint?_action, houtcome, hstints]

end Alike

/-- **Runs are alike until they look at keys or chance.**  Two runs of a program
start with any two seeds, and take the same turns in the same order; but other
keys go down in them, and others listen to the keypad in other ways.  If no step
of one run is that of an instruction that reads a key or draws a random byte,
then none of the other is.  All steps and frames of the two end in the same way,
and the consoles differ in random numbers and keys only. -/
theorem runs_alike [Screen σ] (memory : Memory) (resolution : Resolution)
    (screen : σ) (seed seed' : UInt64) (one other : List Action)
    (hturns : one.filterMap Action.turn? = other.filterMap Action.turn?)
    (hwell : ∀ e, .fail e ∉ one) (hwell' : ∀ e, .fail e ∉ other)
    {c d : Console σ} (hc : c = start memory resolution seed screen)
    (hd : d = start memory resolution seed' screen)
    (hspares : c.SparesAll [.random, .keys] one) :
    d.SparesAll [.random, .keys] other ∧
      c.stints one = d.stints other ∧ (c.acts one).Alike (d.acts other) := by
  have hcd : c.Alike d := by
    rw [hc, hd]
    exact ⟨⟨rfl, rfl, rfl, rfl, rfl, rfl, rfl, rfl⟩, rfl⟩
  have hcwell : c.keypad.failure = none := by
    rw [hc]
    rfl
  have hdwell : d.keypad.failure = none := by
    rw [hd]
    rfl
  obtain ⟨hone, hsame⟩ := hcd.acts hcwell hdwell hwell
  obtain ⟨hother, hsame'⟩ := (Alike.refl d).acts hdwell hdwell hwell'
  have hrow : turnsOf one = turnsOf other := by
    rw [turnsOf, turnsOf, hturns]
  have hspares' : d.SparesAll [.random, .keys] other := by
    rw [hother, ← hrow, ← hone]
    exact hspares
  obtain ⟨hstints, halike⟩ := hsame hspares
  obtain ⟨hstints', halike'⟩ := hsame' hspares'
  rw [hrow] at hstints halike
  exact ⟨hspares', hstints.trans hstints'.symm, halike.trans halike'.symm⟩

/-- A program that sets a register, and then draws a random byte. -/
def tossing (seed : UInt64) : Console Headless :=
  start (.loaded [0x60, 0x05, 0xC1, 0xFF] (by decide)) .standard seed {}

/-- Another seed, other keys and another listener make no difference before it
draws. -/
theorem runs_alike_tossing :
    (tossing 7).SparesAll [.random, .keys]
        [.press (.hex 3), .step, .frame] ∧
      (tossing 7).stints [.press (.hex 3), .step, .frame] =
        (tossing 8).stints
          [.subscribe, .step, .press (.hex 5), .press .exit, .frame] ∧
      ((tossing 7).acts [.press (.hex 3), .step, .frame]).Alike
        ((tossing 8).acts
          [.subscribe, .step, .press (.hex 5), .press .exit, .frame]) := by
  let c := (tossing 7).press (.hex 3)
  have hword : c.machine.memory.word c.machine.pc = .ok 0x6005 :=
    Memory.word_loaded (j := 0) (by decide) (by decide) rfl
  have hnext : c.machine.next? = some (.setByte 0 5) :=
    Machine.next?_of_decode hword (by decide)
  have hfirst : c.Spares [.random, .keys] := by
    intro i hi p hp
    rw [hnext] at hi
    cases hi
    rfl
  have hspares : (tossing 7).SparesAll [.random, .keys]
      [.press (.hex 3), .step, .frame] :=
    ⟨nofun, fun _ => hfirst, nofun, trivial⟩
  obtain ⟨_, hstints, halike⟩ := runs_alike _ .standard _ 7 8
    [.press (.hex 3), .step, .frame]
    [.subscribe, .step, .press (.hex 5), .press .exit, .frame] rfl
    (by simp) (by simp) (show tossing 7 = _ from rfl)
    (show tossing 8 = _ from rfl) hspares
  exact ⟨hspares, hstints, halike⟩

end Console

end Chip8
