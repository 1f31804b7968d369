import Chip8.Instruction.Lemmas
import Chip8.Proofs.Execute
import Chip8.Proofs.Loaded

/-!
# Steps follow the table

A step is an instruction that is fetched, read, carried out and left behind.
What it does to the machine is in the table; that the table leaves no part of
the machine open is `Table.After.unique`.

## Main results

* `Machine.step_of_decode` — a step is its instruction.
* `Table.step_eq_ok`, `Table.step_eq_error` — the step of an instruction that
  runs into no trap, and of one that does.
* `Table.step_follows_table` — a step does what the row of its instruction
  says, and nothing else.
-/

namespace Chip8

/-- The instruction that lies at the program counter. -/
def Machine.next? (m : Machine) : Option Instruction :=
  match m.memory.word m.pc with
  | .ok opcode => Instruction.decode opcode
  | .error _ => none

theorem Machine.next?_of_decode {m : Machine} {opcode : UInt16}
    {i : Instruction} (hword : m.memory.word m.pc = .ok opcode)
    (hdecode : Instruction.decode opcode = some i) : m.next? = some i := by
  simp only [next?, hword, hdecode]

theorem Machine.next?_eq_some_iff {m : Machine} {i : Instruction} :
    m.next? = some i ↔ ∃ opcode, m.memory.word m.pc = .ok opcode ∧
      Instruction.decode opcode = some i := by
  constructor
  · intro h
    unfold next? at h
    split at h
    · next opcode hword => exact ⟨opcode, hword, h⟩
    · cases h
  · rintro ⟨opcode, hword, hdecode⟩
    exact next?_of_decode hword hdecode

/-- A step carries out the instruction that lies at the program counter. -/
theorem Machine.step_of_decode {m : Machine} {opcode : UInt16}
    {i : Instruction} (k : Keypad) (hword : m.memory.word m.pc = .ok opcode)
    (hdecode : Instruction.decode opcode = some i) :
    m.step k =
      match m.execute k i with
      | .error cause => .error (.trap m.pc opcode cause)
      | .ok (flow, after, k) =>
        .ok ({ after with pc := flow.target m.pc }, k) := by
  cases hexecute : m.execute k i with
  | error cause => simp only [step, hword, hdecode, hexecute]
  | ok result =>
      obtain ⟨flow, after, k'⟩ := result
      simp only [step, hword, hdecode, hexecute]

namespace Table

variable {m : Machine} {k : Keypad} {i : Instruction} {opcode : UInt16}

/-- The table says everything about the machine after an instruction. -/
theorem After.unique {one other : Machine} (h : After m k i one)
    (h' : After m k i other) : one = other := by
  obtain ⟨⟨bytes, length, hl⟩, picture, pc, v, index, ⟨callers, hc⟩, delay,
    sound, ⟨seed, drawn⟩, ticket⟩ := one
  obtain ⟨⟨bytes', length', hl'⟩, picture', pc', v', index', ⟨callers', hc'⟩,
    delay', sound', ⟨seed', drawn'⟩, ticket'⟩ := other
  have hbytes : bytes = bytes' := by
    apply Vector.ext
    intro a ha
    have hcell := (h.cell a).trans (h'.cell a).symm
    rw [Machine.cell_of_lt _ ha, Machine.cell_of_lt _ ha] at hcell
    exact UInt8.toNat_inj.mp hcell
  have hv : v = v' := by
    apply Vector.ext
    intro r hr
    exact UInt8.toNat_inj.mp
      ((h.register ⟨r, hr⟩).trans (h'.register ⟨r, hr⟩).symm)
  have hlength : length = length' :=
    h.programLength.trans h'.programLength.symm
  have hpicture : picture = picture' := h.picture.trans h'.picture.symm
  have hpc : pc = pc' := UInt16.toNat_inj.mp (h.pc.trans h'.pc.symm)
  have hindex : index = index' :=
    UInt16.toNat_inj.mp (h.index.trans h'.index.symm)
  have hcallers : callers = callers' := h.callers.trans h'.callers.symm
  have hdelay : delay = delay' :=
    UInt8.toNat_inj.mp (h.delay.trans h'.delay.symm)
  have hsound : sound = sound' :=
    UInt8.toNat_inj.mp (h.sound.trans h'.sound.symm)
  have hseed : seed = seed' := h.seed.trans h'.seed.symm
  have hdrawn : drawn = drawn' :=
    h.randomPosition.trans h'.randomPosition.symm
  have hticket : ticket = ticket' := h.ticket.trans h'.ticket.symm
  subst hbytes hv hlength hpicture hpc hindex hcallers hdelay hsound hseed
    hdrawn hticket
  rfl

/-- The step of an instruction that runs into no trap. -/
theorem step_eq_ok (k : Keypad) (hword : m.memory.word m.pc = .ok opcode)
    (hdecode : Instruction.decode opcode = some i)
    (hkey : ∀ x, i ≠ .awaitKey x) (htrap : trap? m i = none) :
    ∃ after, m.step k = .ok (after, k) ∧ After m k i after := by
  obtain ⟨flow, after, hexecute, hcarried, hpc⟩ :=
    execute_of_trap?_eq_none k hkey htrap
  refine ⟨{ after with pc := flow.target m.pc }, ?_, ?_⟩
  · rw [Machine.step_of_decode k hword hdecode, hexecute]
  · exact { hcarried with pc := hpc }

/-- The step of an instruction that runs into a trap. -/
theorem step_eq_error (k : Keypad) (hword : m.memory.word m.pc = .ok opcode)
    (hdecode : Instruction.decode opcode = some i) {cause : Trap}
    (htrap : trap? m i = some cause) :
    m.step k = .error (.trap m.pc opcode cause) := by
  rw [Machine.step_of_decode k hword hdecode, execute_of_trap?_eq_some k htrap]

/-- **Steps follow the table.**  Where the word at the program counter is that
of an instruction other than waiting for a key, the step succeeds exactly if
the instruction runs into no trap.  It then leaves the keypad alone, and the
machine after it is the one that the table describes, and no other. -/
theorem step_follows_table (m : Machine) (k : Keypad) (opcode : UInt16)
    (i : Instruction) (hword : m.memory.word m.pc = .ok opcode)
    (hdecode : Instruction.decode opcode = some i)
    (hkey : ∀ x, i ≠ .awaitKey x) :
    opcode = i.word ∧
      ((∃ result, m.step k = .ok result) ↔ trap? m i = none) ∧
      ∀ after k', m.step k = .ok (after, k') →
        k' = k ∧ After m k i after ∧
          ∀ other, After m k i other → other = after := by
  refine ⟨(Instruction.word_of_decode hdecode).symm, ?_, ?_⟩
  · constructor
    · rintro ⟨result, hresult⟩
      cases htrap : trap? m i with
      | none => rfl
      | some cause =>
          rw [step_eq_error k hword hdecode htrap] at hresult
          cases hresult
    · intro htrap
      obtain ⟨after, hstep, _⟩ := step_eq_ok k hword hdecode hkey htrap
      exact ⟨(after, k), hstep⟩
  · intro after k' hstep
    cases htrap : trap? m i with
    | none =>
        obtain ⟨after', hstep', hafter⟩ :=
          step_eq_ok k hword hdecode hkey htrap
        cases hstep.symm.trans hstep'
        exact ⟨rfl, hafter, fun other hother => hother.unique hafter⟩
    | some cause =>
        rw [step_eq_error k hword hdecode htrap] at hstep
        cases hstep

/-- A machine whose registers all hold 200 and that is about to add `VF` to
itself. -/
def doubling : Machine :=
  { Machine.start (.loaded [0x8F, 0xF4] (by decide)) .standard 0 with
    v := Vector.replicate 16 200 }

/-- The sum is 144 with a carry, and it is the carry that `VF` holds. -/
theorem step_follows_table_doubling :
    doubling.memory.word doubling.pc = .ok 0x8FF4 ∧
      Instruction.decode 0x8FF4 = some (.alu .add 15 15) ∧
      ∃ after, doubling.step {} = .ok (after, {}) ∧ after.value 15 = 1 ∧
        after.value 14 = 200 ∧ after.pc.toNat = 0x202 := by
  have hword : doubling.memory.word doubling.pc = .ok 0x8FF4 :=
    Memory.word_loaded (j := 0) (by decide) (by decide) rfl
  have hdecode : Instruction.decode 0x8FF4 = some (.alu .add 15 15) := by
    decide
  obtain ⟨_, hok, hafter⟩ := step_follows_table doubling {} 0x8FF4
    (.alu .add 15 15) hword hdecode (by simp)
  obtain ⟨⟨after, k⟩, hstep⟩ := hok.mpr rfl
  obtain ⟨rfl, htable, _⟩ := hafter after k hstep
  refine ⟨hword, hdecode, after, hstep, ?_, ?_, ?_⟩
  · rw [htable.register]
    rfl
  · rw [htable.register]
    rfl
  · rw [htable.pc]
    rfl

end Table

end Chip8
