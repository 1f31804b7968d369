import Chip8.Proofs.Calls
import Chip8.Proofs.FirstKey

/-!
# What actions do to the machine

An action leaves the machine alone, or counts its timers down, or carries one
instruction out.  The table says what instructions do, but for the one that
waits for a key, which stores a key and goes on, or stays where it is.  Whoever
wants to know what becomes of a part of the machine in a run looks at these
cases.

## Main results

* `Machine.effect_of_step` — what a step that succeeds does to the machine.
* `Console.effect_act` — what an action does to it.
* `Console.after_of_executed` — what a step has done that did not wait for a key.
-/

namespace Chip8

/-- What an instruction that was carried out has done to the machine. -/
inductive Machine.Effect (m : Machine) (k : Keypad) :
    Instruction → Machine → Prop
  | table {i : Instruction} {after : Machine} (hkey : ∀ x, i ≠ .awaitKey x)
    (h : Table.After m k i after) : Effect m k i after
  | gotKey (x : Register) (value : UInt8) (ticket : Option Ticket) :
    Effect m k (.awaitKey x)
      { m.setRegister x value with pc := m.pc + 2, ticket }
  | stalled (x : Register) (ticket : Option Ticket) :
    Effect m k (.awaitKey x) { m with ticket }

/-- A step that succeeds has the effect of the instruction that it found. -/
theorem Machine.effect_of_step {m after : Machine} {k k' : Keypad}
    (h : m.step k = .ok (after, k')) :
    ∃ i, m.next? = some i ∧ m.pc.toNat + 2 ≤ Memory.size ∧
      Effect m k i after := by
  obtain ⟨opcode, i, _, _, hword, hdecode, hexecute, _⟩ := of_step_eq_ok h
  refine ⟨i, next?_of_decode hword hdecode, Memory.le_of_word_eq_ok hword, ?_⟩
  by_cases hkey : ∃ x, i = .awaitKey x
  · obtain ⟨x, rfl⟩ := hkey
    have hawaits : m.AwaitsKey x := ⟨opcode, hword, hdecode⟩
    cases hattempt : AwaitKey.attempt m.ticket k with
    | mk answer left =>
        obtain ⟨ticket, k''⟩ := left
        cases answer with
        | some value =>
            cases h.symm.trans (step_of_attempt_some hawaits hattempt)
            exact .gotKey x value ticket
        | none =>
            cases h.symm.trans (step_of_attempt_none hawaits hattempt)
            exact .stalled x ticket
  · have hother : ∀ x, i ≠ .awaitKey x := fun x hx => hkey ⟨x, hx⟩
    obtain ⟨_, _, htable⟩ :=
      Table.step_follows_table m k opcode i hword hdecode hother
    obtain ⟨_, hafter, _⟩ := htable after k' h
    exact .table hother hafter

namespace Console

variable {σ : Type}

/-- What an action has done to the machine, by the instruction that it carried
out, if it did. -/
inductive Effect (c : Console σ) : Option Instruction → Machine → Prop
  | ran {i : Instruction} {after : Machine}
    (hfetch : c.machine.pc.toNat + 2 ≤ Memory.size)
    (h : c.machine.Effect c.keypad i after) : Effect c (some i) after
  | counted : Effect c none c.machine.countDown
  | kept : Effect c none c.machine

/-- Every action has one of these effects. -/
theorem effect_act [Screen σ] (c : Console σ) (action : Action) :
    c.Effect (c.executed? action) (c.act action).machine := by
  cases action with
  | step =>
      cases hstep : c.step with
      | error f =>
          rw [act_step_of_error hstep]
          simp only [executed?, hstep]
          exact .kept
      | ok c' =>
          rw [act_step_of_ok hstep]
          simp only [executed?, hstep]
          obtain ⟨i, hnext, hfetch, heffect⟩ :=
            Machine.effect_of_step (of_step_eq_ok hstep).1
          rw [hnext]
          exact .ran hfetch heffect
  | frame =>
      show c.Effect none c.frame.2.machine
      rw [c.of_frame.1]
      exact .counted
  | _ => exact .kept

/-- A step that did not wait for a key has done what the table says. -/
theorem after_of_executed [Screen σ] {c : Console σ} {i : Instruction}
    (h : c.executed? .step = some i) (hkey : ∀ x, i ≠ .awaitKey x) :
    Table.After c.machine c.keypad i (c.act .step).machine := by
  have heffect := c.effect_act .step
  rw [h] at heffect
  generalize (c.act .step).machine = after at heffect
  cases heffect with
  | ran hfetch hafter =>
      cases hafter with
      | table _ htable => exact htable
      | gotKey x => exact absurd rfl (hkey x)
      | stalled x => exact absurd rfl (hkey x)

end Console

end Chip8
