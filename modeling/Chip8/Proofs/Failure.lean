import Chip8.Proofs.Action
import Chip8.Proofs.Faults

/-!
# Failures are final

A step that fails has changed nothing, also when it is taken in place.  What
made it fail lies in memory, in the program counter, in the index register and
on the stack, and only steps touch those.  So whatever else happens, each step
from then on fails in the same way.

## Main results

* `Console.stepInPlace_of_error` — a step that fails in place changes nothing.
* `Console.step_act_of_error` — no action mends what made a step fail.
* `Console.failure_is_final` — a console on which a step failed never runs an
  instruction again.
-/

namespace Chip8.Console

variable {σ : Type}

/-- Runs one instruction in place. -/
def stepInPlace (c : Console σ) : Except (Halt Fault) Unit × Console σ :=
  let (outcome, machine, keypad) := InPlace.step.on c.machine c.keypad
  (outcome, { c with machine, keypad })

/-- The console after an action, a step being taken in place. -/
def perform [Screen σ] (c : Console σ) : Action → Console σ
  | .step => c.stepInPlace.2
  | action => c.act action

/-- The console after some actions, each step being taken in place. -/
def performs [Screen σ] (c : Console σ) (actions : List Action) : Console σ :=
  actions.foldl perform c

variable {c : Console σ} {f : Fault}

/-- A console fails a step as the numbers of its machine say. -/
theorem step_eq_error_iff :
    c.step = .error f ↔ Table.fault? c.machine = some f := by
  rw [← Table.step_eq_error_iff c.machine c.keypad f]
  unfold step
  cases c.machine.step c.keypad <;> simp

/-- A step that fails in place changes nothing. -/
theorem stepInPlace_of_error (h : c.step = .error f) :
    c.stepInPlace = (.error (.failed f), c) := by
  have hmachine : c.machine.step c.keypad = .error f :=
    (Table.step_eq_error_iff _ _ _).mpr (step_eq_error_iff.mp h)
  rw [stepInPlace, InPlace.on_step_of_error hmachine]

section Actions

variable [Screen σ]

/-- No action mends what made a step fail: frames move the timers alone, and
keys are no matter of it. -/
theorem step_act_of_error (h : c.step = .error f) (action : Action) :
    (c.act action).step = .error f := by
  have hfault := step_eq_error_iff.mp h
  cases action with
  | press key => exact step_eq_error_iff.mpr hfault
  | fail e => exact step_eq_error_iff.mpr hfault
  | age => exact step_eq_error_iff.mpr hfault
  | frame =>
      apply step_eq_error_iff.mpr
      show Table.fault? c.frame.2.machine = some f
      rw [c.of_frame.1]
      exact hfault
  | step => rw [act_step_of_error h, h]
  | subscribe => exact step_eq_error_iff.mpr hfault
  | receive t => exact step_eq_error_iff.mpr hfault
  | giveUp t => exact step_eq_error_iff.mpr hfault

/-- While steps fail, it makes no difference whether they are taken in
place. -/
theorem perform_of_error (h : c.step = .error f) (action : Action) :
    c.perform action = c.act action := by
  cases action with
  | step =>
      show c.stepInPlace.2 = _
      rw [stepInPlace_of_error h, act_step_of_error h]
  | _ => rfl

/-- Whatever happens after a failure, the next step fails again. -/
theorem acts_of_error (h : c.step = .error f) (actions : List Action) :
    (c.acts actions).step = .error f ∧
      c.performs actions = c.acts actions := by
  induction actions generalizing c with
  | nil => exact ⟨h, rfl⟩
  | cons action rest ih =>
      show ((c.act action).acts rest).step = _ ∧
        (c.perform action).performs rest = (c.act action).acts rest
      rw [perform_of_error h]
      exact ih (step_act_of_error h action)

/-- **Failures are final.**  A step that fails leaves the whole console as it
was.  After whatever keys, failures, frames and steps that follow, each further
step fails with the same fault and again changes nothing. -/
theorem failure_is_final (h : c.step = .error f) :
    c.stepInPlace = (.error (.failed f), c) ∧
      ∀ actions : List Action,
        (c.performs actions).stepInPlace =
            (.error (.failed f), c.performs actions) ∧
          c.performs actions = c.acts actions ∧
          (c.acts actions).step = .error f := by
  refine ⟨stepInPlace_of_error h, fun actions => ?_⟩
  obtain ⟨hstep, hperforms⟩ := acts_of_error h actions
  rw [hperforms]
  exact ⟨stepInPlace_of_error hstep, rfl, hstep⟩

end Actions

/-- A console whose machine is about to run over the end of memory. -/
def overrunning : Console Headless where
  machine := Table.overrunning
  screen := {}

/-- Neither a key nor frames that succeed and fail get it beyond that. -/
theorem failure_is_final_overrunning :
    overrunning.step = .error (.trap 0x200 0xF155 (.memory ⟨0xFFF, 2⟩)) ∧
      overrunning.stepInPlace.2 = overrunning ∧
      (overrunning.performs [.press (.hex 3), .frame, .step,
          .fail ⟨.brokenPipe, "gone"⟩, .frame, .step]).stepInPlace.1 =
        .error (.failed (.trap 0x200 0xF155 (.memory ⟨0xFFF, 2⟩))) := by
  have hstep : overrunning.step =
      .error (.trap 0x200 0xF155 (.memory ⟨0xFFF, 2⟩)) :=
    step_eq_error_iff.mpr Table.fault?_overrunning
  obtain ⟨hunchanged, hlater⟩ := failure_is_final hstep
  refine ⟨hstep, by rw [hunchanged], ?_⟩
  rw [(hlater _).1]

end Chip8.Console
