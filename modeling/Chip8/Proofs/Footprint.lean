import Chip8.Proofs.Action
import Chip8.Proofs.Step

/-!
# What instructions are concerned with

Timers, random numbers, keys and the screen lie at the edge of a console, and
most instructions are concerned with none of them.  Such an instruction comes to
the same whatever they hold, and that is how it is said here: it makes no
difference whether a peripheral is exchanged for that of another console before
the instruction or after it.  In particular the instruction leaves it alone.

A word that stands for no instruction is concerned with none of them either.

## Main results

* `Machine.execute_graft` — an instruction and a peripheral that it does not
  use.
* `Console.step_grafts` — the same for steps, and several peripherals.
* `Console.grafts_of_step` — a step leaves the peripherals alone that it spares.
-/

namespace Chip8

/-- What not every instruction is concerned with. -/
inductive Peripheral where
  /-- The delay timer and the sound timer. -/
  | timers
  /-- The source of random bytes. -/
  | random
  /-- The keypad, and the ticket of an instruction that waits for a key. -/
  | keys
  /-- The screen. -/
  | screen
  deriving DecidableEq, Repr

/-- Whether an instruction reads or writes a peripheral. -/
def Instruction.uses : Instruction → Peripheral → Bool
  | random _ _, .random => true
  | skipIfHeld _, .keys => true
  | skipUnlessHeld _, .keys => true
  | awaitKey _, .keys => true
  | getDelay _, .timers => true
  | setDelay _, .timers => true
  | setSound _, .timers => true
  | _, _ => false

/-! ## Peripherals of another -/

/-- A machine with a peripheral of another. -/
def Machine.graft (m : Machine) (p : Peripheral) (other : Machine) : Machine :=
  match p with
  | .timers => { m with delay := other.delay, sound := other.sound }
  | .random => { m with random := other.random }
  | .keys => { m with ticket := other.ticket }
  | .screen => m

/-- A keypad, or that of another if it is a matter of keys. -/
def Keypad.graft (k : Keypad) (p : Peripheral) (other : Keypad) : Keypad :=
  match p with
  | .keys => other
  | _ => k

namespace Machine

section Graft

variable (m other : Machine) (p : Peripheral)

@[simp] theorem memory_graft : (m.graft p other).memory = m.memory := by
  cases p <;> rfl

@[simp] theorem pc_graft : (m.graft p other).pc = m.pc := by
  cases p <;> rfl

@[simp] theorem v_graft : (m.graft p other).v = m.v := by
  cases p <;> rfl

@[simp] theorem i_graft : (m.graft p other).i = m.i := by
  cases p <;> rfl

@[simp] theorem stack_graft : (m.graft p other).stack = m.stack := by
  cases p <;> rfl

@[simp] theorem register_graft (x : Register) :
    (m.graft p other).register x = m.register x := by
  cases p <;> rfl

/-- What lies at the program counter is no matter of the peripherals. -/
@[simp] theorem next?_graft : (m.graft p other).next? = m.next? := by
  rw [next?, memory_graft, pc_graft]
  rfl

end Graft

/-! ## Instructions -/

section Execute

variable (m other : Machine) (k k' : Keypad)

/-- What an instruction answers, with a peripheral of another. -/
def graftResult (p : Peripheral) (other : Machine) (k' : Keypad) :
    Flow × Machine × Keypad → Flow × Machine × Keypad
  | (flow, after, k) => (flow, after.graft p other, k.graft p k')

/-- **A peripheral that an instruction does not use makes no difference to
it**, and the instruction none to the peripheral. -/
theorem execute_graft {i : Instruction} {p : Peripheral}
    (h : i.uses p = false) :
    (m.graft p other).execute (k.graft p k') i =
      (m.execute k i).map (graftResult p other k') := by
  cases i with
  | ret =>
      simp only [execute, stack_graft]
      cases m.stack.pop? with
      | none => rfl
      | some popped => cases p <;> rfl
  | call target =>
      simp only [execute, stack_graft, pc_graft]
      cases m.stack.push? m.pc with
      | none => rfl
      | some stack => cases p <;> rfl
  | draw x y n =>
      simp only [execute, memory_graft, i_graft]
      cases m.memory.read m.i n.val with
      | error e => rfl
      | ok sprite => cases p <;> rfl
  | storeDecimal x =>
      simp only [execute, memory_graft, i_graft, register_graft]
      cases m.memory.write m.i (decimalDigits (m.register x)) with
      | error e => rfl
      | ok memory => cases p <;> rfl
  | storeRegisters x =>
      simp only [execute, memory_graft, i_graft, v_graft]
      cases m.memory.write m.i (m.v.toList.take (x.val + 1)) with
      | error e => rfl
      | ok memory => cases p <;> rfl
  | loadRegisters x =>
      simp only [execute, memory_graft, i_graft]
      cases m.memory.read m.i (x.val + 1) with
      | error e => rfl
      | ok values => cases p <;> rfl
  | alu op x y =>
      simp only [execute, combine, register_graft]
      cases (op.apply (m.register x) (m.register y)).2 <;> cases p <;> rfl
  | random x nn =>
      cases p with
      | random => cases h
      | _ => rfl
  | skipIfHeld x =>
      cases p with
      | keys => cases h
      | _ => rfl
  | skipUnlessHeld x =>
      cases p with
      | keys => cases h
      | _ => rfl
  | awaitKey x =>
      cases p with
      | keys => cases h
      | _ =>
          simp only [execute, graft, Keypad.graft]
          rcases AwaitKey.attempt m.ticket k with ⟨_ | value, ticket, k⟩ <;> rfl
  | getDelay x =>
      cases p with
      | timers => cases h
      | _ => rfl
  | setDelay x =>
      cases p with
      | timers => cases h
      | _ => rfl
  | setSound x =>
      cases p with
      | timers => cases h
      | _ => rfl
  | _ => cases p <;> rfl

/-- Nor does it make one to a step, or a step to it. -/
theorem step_graft {p : Peripheral}
    (h : ∀ i, m.next? = some i → i.uses p = false) :
    (m.graft p other).step (k.graft p k') =
      (m.step k).map fun (after, k) =>
        (after.graft p other, k.graft p k') := by
  unfold step
  rw [memory_graft, pc_graft]
  cases hword : m.memory.word m.pc with
  | error e => rfl
  | ok opcode =>
      cases hdecode : Instruction.decode opcode with
      | none => simp only [hdecode, Except.map]
      | some i =>
          have huses := h i (next?_of_decode hword hdecode)
          simp only [hdecode, execute_graft m other k k' huses]
          cases m.execute k i with
          | error cause => rfl
          | ok result => cases p <;> rfl

end Execute

end Machine

/-! ## Consoles -/

namespace Console

variable {σ : Type}

/-- A console with a peripheral of another. -/
def graft (c : Console σ) (p : Peripheral) (other : Console σ) : Console σ where
  machine := c.machine.graft p other.machine
  keypad := c.keypad.graft p other.keypad
  screen := if p = .screen then other.screen else c.screen

/-- A console with some peripherals of another. -/
def grafts (c : Console σ) (ps : List Peripheral) (other : Console σ) :
    Console σ :=
  ps.foldl (fun c p => c.graft p other) c

/-- The instruction at the program counter, if there is one, uses none of some
peripherals. -/
def Spares (c : Console σ) (ps : List Peripheral) : Prop :=
  ∀ i, c.machine.next? = some i → ∀ p ∈ ps, i.uses p = false

variable {c c' : Console σ} {ps : List Peripheral}

/-- A console is what it is with its own peripherals. -/
theorem grafts_self (c : Console σ) (ps : List Peripheral) :
    c.grafts ps c = c := by
  induction ps with
  | nil => rfl
  | cons p rest ih =>
      have hgraft : c.graft p c = c := by cases p <;> rfl
      rw [grafts, List.foldl_cons, hgraft]
      exact ih

/-- What lies at the program counter is no matter of the peripherals. -/
theorem next?_grafts (c other : Console σ) (ps : List Peripheral) :
    (c.grafts ps other).machine.next? = c.machine.next? := by
  induction ps generalizing c with
  | nil => rfl
  | cons p rest ih =>
      rw [grafts, List.foldl_cons]
      exact (ih _).trans (Machine.next?_graft _ _ p)

theorem step_graft (c other : Console σ) {p : Peripheral}
    (h : ∀ i, c.machine.next? = some i → i.uses p = false) :
    (c.graft p other).step = c.step.map fun c' => c'.graft p other := by
  have hmachine := Machine.step_graft c.machine other.machine c.keypad
    other.keypad h
  simp only [step, graft, hmachine]
  cases c.machine.step c.keypad <;> rfl

/-- Peripherals that a step spares make no difference to it, and it none to
them. -/
theorem step_grafts (c other : Console σ) (h : c.Spares ps) :
    (c.grafts ps other).step = c.step.map fun c' => c'.grafts ps other := by
  induction ps generalizing c with
  | nil =>
      show c.step = c.step.map fun c' => c'
      cases c.step <;> rfl
  | cons p rest ih =>
      have hfirst := c.step_graft other (p := p) fun i hi =>
        h i hi p List.mem_cons_self
      have hrest : (c.graft p other).Spares rest := by
        intro i hi q hq
        rw [graft, Machine.next?_graft] at hi
        exact h i hi q (List.mem_cons_of_mem _ hq)
      calc ((c.graft p other).grafts rest other).step
          = (c.graft p other).step.map fun c' => c'.grafts rest other :=
            ih _ hrest
        _ = (c.step.map fun c' => c'.graft p other).map
              fun c' => c'.grafts rest other := by rw [hfirst]
        _ = c.step.map fun c' => (c'.graft p other).grafts rest other := by
            cases c.step <;> rfl

/-- A step leaves the peripherals alone that it spares. -/
theorem grafts_of_step (h : c.Spares ps) (hstep : c.step = .ok c') :
    c'.grafts ps c = c' := by
  have hgrafts := step_grafts c c h
  rw [grafts_self, hstep] at hgrafts
  exact (Except.ok.inj hgrafts).symm

/-- Each step among some actions spares some peripherals, as it comes up. -/
def SparesAll [Screen σ] (c : Console σ) (ps : List Peripheral) :
    List Action → Prop
  | [] => True
  | a :: rest => (a = .step → c.Spares ps) ∧ (c.act a).SparesAll ps rest

end Console

end Chip8
