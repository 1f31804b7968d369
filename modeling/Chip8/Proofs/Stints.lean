import Chip8.Proofs.Action
import Chip8.Proofs.Tick

/-!
# The turns of a console

A console runs an instruction or goes through a frame when it is its turn.  A
`Stint` is such a turn together with how it ended.  Whatever else is done to a
console is done by keys and by others who listen to the keypad, and leaves the
machine and the screen alone.

## Main results

* `Action.eq_of_turn?`, `Console.machine_act_of_turn?` — an action is a turn, or
  is no matter of the machine and the screen.
* `Console.turn_of_serve` — a fault tells in whose turn it came up.
* `Console.failure_act` — what becomes of a failure of the keyboard.
-/

namespace Chip8

/-- A turn that a console took, and how it ended. -/
structure Stint where
  /-- Whose turn it was. -/
  turn : Turn
  /-- How it ended. -/
  outcome : Except Fault Unit

/-- Whether it was the turn of a clock, and succeeded. -/
def Stint.isDone (t : Turn) (s : Stint) : Bool :=
  s.turn = t && s.outcome.isOk

/-- In whose turn a fault comes up. -/
def Fault.turn : Fault → Turn
  | .display _ => .frame
  | .keyboard _ => .frame
  | _ => .instruction

/-- Whose turn an action is, if it is one. -/
def Action.turn? : Action → Option Turn
  | .step => some .instruction
  | .frame => some .frame
  | _ => none

/-- The action that a turn is. -/
def Turn.action : Turn → Action
  | .instruction => .step
  | .frame => .frame

/-- The actions that the turns of a row are. -/
abbrev Turn.actions (row : List Turn) : List Action :=
  row.map action

@[simp] theorem Turn.turn?_action (t : Turn) : t.action.turn? = some t := by
  cases t <;> rfl

/-- Only the turns are turns. -/
theorem Action.eq_of_turn? {a : Action} {t : Turn} (h : a.turn? = some t) :
    a = t.action := by
  cases a <;> cases h <;> rfl

theorem Machine.turn_of_step {m : Machine} {k : Keypad} {f : Fault}
    (h : m.step k = .error f) : f.turn = .instruction := by
  unfold step at h
  split at h
  · cases h
    rfl
  · split at h
    · cases h
      rfl
    · split at h <;> cases h
      rfl

namespace Console

variable {σ : Type} [Screen σ] {c c' : Console σ}

/-- The console after its turn, and how that ended. -/
def serve (c : Console σ) : Turn → Except Fault Unit × Console σ
  | .frame => c.frame
  | .instruction =>
    match c.step with
    | .ok c => (.ok (), c)
    | .error f => (.error f, c)

theorem serve_instruction_of_ok (h : c.step = .ok c') :
    c.serve .instruction = (.ok (), c') := by
  simp only [serve, h]

theorem serve_instruction_of_error {f : Fault} (h : c.step = .error f) :
    c.serve .instruction = (.error f, c) := by
  simp only [serve, h]

/-- A step that failed has left the console as it was. -/
theorem step_of_serve_error {f : Fault}
    (h : c.serve .instruction = (.error f, c')) :
    c.step = .error f ∧ c' = c := by
  cases hstep : c.step with
  | ok c'' =>
      rw [serve_instruction_of_ok hstep] at h
      cases h
  | error f' =>
      rw [serve_instruction_of_error hstep] at h
      cases h
      exact ⟨rfl, rfl⟩

/-- A turn that is taken as an action leaves the same console behind. -/
theorem act_action (c : Console σ) (t : Turn) :
    c.act t.action = (c.serve t).2 := by
  cases t with
  | frame => rfl
  | instruction =>
      simp only [Turn.action, act, serve]
      cases c.step <;> rfl

/-- Whatever is no turn is done to the keypad alone. -/
theorem machine_act_of_turn? {a : Action} (h : a.turn? = none) :
    (c.act a).machine = c.machine ∧ (c.act a).screen = c.screen := by
  cases a <;> first | exact ⟨rfl, rfl⟩ | cases h

/-- A fault tells in whose turn it came up. -/
theorem turn_of_serve {t : Turn} {f : Fault}
    (h : (c.serve t).1 = .error f) : f.turn = t := by
  cases t with
  | frame =>
      have hcase := c.frame_cases
      change c.frame.1 = .error f at h
      generalize c.frame = framed at hcase h
      cases hcase with
      | dead _ =>
          cases h
          rfl
      | refused _ _ =>
          cases h
          rfl
      | shown _ _ => cases h
  | instruction =>
      cases hstep : c.step with
      | ok c' =>
          rw [serve_instruction_of_ok hstep] at h
          cases h
      | error f' =>
          rw [serve_instruction_of_error hstep] at h
          cases h
          unfold step at hstep
          split at hstep
          · cases hstep
          · next hmachine =>
              cases hstep
              exact Machine.turn_of_step hmachine

/-! ## Rows of actions -/

/-- The stint that an action is, if it is a turn. -/
def stint? (c : Console σ) (a : Action) : Option Stint :=
  a.turn?.map fun t => { turn := t, outcome := (c.serve t).1 }

theorem stint?_action (c : Console σ) (t : Turn) :
    c.stint? t.action = some { turn := t, outcome := (c.serve t).1 } := by
  rw [stint?, Turn.turn?_action]
  rfl

theorem stint?_of_turn?_eq_none {a : Action} (h : a.turn? = none) :
    c.stint? a = none := by
  rw [stint?, h]
  rfl

/-- The stints of some actions, one after the other. -/
def stints (c : Console σ) : List Action → List Stint
  | [] => []
  | a :: rest => (c.stint? a).toList ++ (c.act a).stints rest

/-- The first turn of a row is the first of its stints. -/
theorem stints_actions_cons (c : Console σ) (t : Turn) (row : List Turn) :
    c.stints (Turn.actions (t :: row)) =
      { turn := t, outcome := (c.serve t).1 } ::
        (c.act t.action).stints (Turn.actions row) := by
  rw [Turn.actions, List.map_cons, stints, stint?_action]
  rfl

/-! ## Failures of the keyboard -/

/-- Whatever happens, a keyboard that has failed goes on failing as it did at
first, and nothing but a failure makes it fail. -/
theorem failure_act (c : Console σ) (a : Action) :
    (c.act a).keypad.failure =
      match a with
      | .fail e => c.keypad.failure.or (some e)
      | _ => c.keypad.failure := by
  cases a with
  | press key => exact Keypad.failure_press c.keypad key
  | receive t => exact Keypad.failure_receive c.keypad t
  | frame =>
      show c.frame.2.keypad.failure = _
      rcases c.of_frame.2 with heq | heq
      · rw [heq]
      · rw [heq]
        rfl
  | step =>
      cases hstep : c.step with
      | error f => rw [act_step_of_error hstep]
      | ok c' =>
          rw [act_step_of_ok hstep]
          rcases Machine.keypad_of_step (of_step_eq_ok hstep).1 with
            heq | ⟨t, heq⟩ | heq
          · rw [heq]
          · rw [heq]
            rfl
          · rw [heq]
            rfl
  | _ => rfl

/-- Only a failure of the keyboard makes it fail. -/
theorem failure_act_eq_none {a : Action} (h : c.keypad.failure = none)
    (ha : ∀ e, a ≠ .fail e) : (c.act a).keypad.failure = none := by
  rw [failure_act, h]
  cases a with
  | fail e => exact absurd rfl (ha e)
  | _ => rfl

/-- No turn mends the keyboard, nor breaks it. -/
theorem failure_serve (c : Console σ) (t : Turn) :
    (c.serve t).2.keypad.failure = c.keypad.failure := by
  rw [← act_action, failure_act]
  cases t <;> rfl

/-- A frame of a dead keyboard counts the timers down, and that is all. -/
theorem frame_of_failure {e : IoError} (h : c.keypad.failure = some e) :
    c.frame =
      (.error (.keyboard e), { c with machine := c.machine.countDown }) := by
  simp only [frame, Keypad.check_of_failure h]

end Console

end Chip8
