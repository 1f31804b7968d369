import Chip8.Proofs.Effects

/-!
# What is stored is loaded

Two instructions move registers to memory and back, from the index register on,
and a third writes the decimal digits of a register there.  What was stored is
loaded again as long as nobody writes over it and the index register is back
where it was.

An instruction that writes does so from the index register on.  So what it may
write over is told by how many bytes it writes (`Instruction.written`), and a
block of memory is safe along a run if none of the instructions that are carried
out reaches into it (`Machine.Spares`).

## Main results

* `Machine.Effect.cell`, `Machine.Effect.index` — what an instruction does to a
  byte that it does not write, and to an index register that it does not set.
* `Console.cell_deeds`, `Console.index_deeds` — the same along a run.
* `Console.exists_storeRegisters`, `Console.exists_storeDecimal`,
  `Console.exists_load` — what is stored, and what is loaded.
* `Console.stored_is_loaded` — what is loaded after it was stored.
-/

namespace Chip8

/-! ## What instructions touch -/

namespace Instruction

/-- Whether an instruction sets the index register. -/
def setsIndex : Instruction → Bool
  | setIndex _ | addIndex _ | glyph _ => true
  | _ => false

/-- How many bytes an instruction writes, from the index register on. -/
def written : Instruction → Nat
  | storeDecimal _ => 3
  | storeRegisters x => x.val + 1
  | _ => 0

end Instruction

namespace Machine

variable {m after : Machine} {k k' : Keypad} {i : Instruction}

/-- An instruction writes none of a row of bytes. -/
def Spares (m : Machine) (i : Instruction) (start length : Nat) : Prop :=
  ∀ a, start ≤ a → a < start + length →
    ¬ (m.i.toNat ≤ a ∧ a < m.i.toNat + i.written)

/-- An instruction that writes nothing spares everything. -/
theorem spares_of_written {start length : Nat} (h : i.written = 0) :
    m.Spares i start length := fun a _ _ hin => by
  rw [h] at hin
  omega

/-- A byte that an instruction does not write stays what it is. -/
theorem Effect.cell (h : m.Effect k i after) {start length : Nat}
    (hspares : m.Spares i start length) {a : Nat} (hle : start ≤ a)
    (hlt : a < start + length) : after.cell a = m.cell a := by
  have hout := hspares a hle hlt
  cases h with
  | gotKey x => rfl
  | stalled x => rfl
  | table _ htable =>
      rw [htable.cell]
      cases i with
      | storeDecimal x =>
          have hout : ¬ (m.i.toNat ≤ a ∧ a < m.i.toNat + 3) := hout
          show (if a = m.i.toNat then _ else if a = m.i.toNat + 1 then _
            else if a = m.i.toNat + 2 then _ else m.cell a) = m.cell a
          rw [if_neg (by omega), if_neg (by omega), if_neg (by omega)]
      | storeRegisters x =>
          have hout : ¬ (m.i.toNat ≤ a ∧ a < m.i.toNat + (x.val + 1)) := hout
          apply if_neg
          omega
      | _ => rfl

/-- An index register that an instruction does not set stays what it is. -/
theorem Effect.index (h : m.Effect k i after) (hset : i.setsIndex = false) :
    after.i = m.i := by
  cases h with
  | gotKey x => rfl
  | stalled x => rfl
  | table _ htable =>
      apply UInt16.toNat_inj.mp
      rw [htable.index]
      cases i with
      | setIndex target => cases hset
      | addIndex x => cases hset
      | glyph x => cases hset
      | _ => rfl

/-- Carries an instruction out, wherever it lies, and moves on. -/
def carryOut (m : Machine) (k : Keypad) (i : Instruction) :
    Except Trap (Machine × Keypad) :=
  match m.execute k i with
  | .ok (flow, after, k) => .ok ({ after with pc := flow.target m.pc }, k)
  | .error cause => .error cause

theorem carryOut_of_execute {flow : Flow}
    (h : m.execute k i = .ok (flow, after, k')) :
    m.carryOut k i = .ok ({ after with pc := flow.target m.pc }, k') := by
  simp only [carryOut, h]

theorem effect_of_carryOut (h : m.carryOut k i = .ok (after, k')) :
    m.Effect k i after := by
  unfold carryOut at h
  split at h
  · next flow after' _ hexecute =>
      cases h
      by_cases hkey : ∃ x, i = .awaitKey x
      · obtain ⟨x, rfl⟩ := hkey
        simp only [execute] at hexecute
        split at hexecute
        · cases hexecute
          exact .gotKey x _ _
        · cases hexecute
          exact .stalled x _
      · have hother : ∀ x, i ≠ .awaitKey x := fun x hx => hkey ⟨x, hx⟩
        cases htrap : Table.trap? m i with
        | none =>
            obtain ⟨flow, after, hexecute', hcarried, hpc⟩ :=
              Table.execute_of_trap?_eq_none k hother htrap
            cases hexecute'.symm.trans hexecute
            exact .table hother { hcarried with pc := hpc }
        | some cause =>
            rw [Table.execute_of_trap?_eq_some k htrap] at hexecute
            cases hexecute
  · cases h

end Machine

/-- Where the registers go. -/
theorem Table.cell_registers (m : Machine) {x r : Register} (h : r ≤ x) :
    cell m (.storeRegisters x) (m.i.toNat + r.val) = m.value r := by
  have hin : m.i.toNat ≤ m.i.toNat + r.val ∧
      m.i.toNat + r.val ≤ m.i.toNat + x.val :=
    ⟨Nat.le_add_right _ _, Nat.add_le_add_left h _⟩
  have hplace : Fin.ofNat 16 (m.i.toNat + r.val - m.i.toNat) = r := by
    rw [Nat.add_sub_cancel_left]
    exact Fin.ofNat_val_eq_self r
  exact (if_pos hin).trans (congrArg m.value hplace)

/-- Where the digits of a register go. -/
theorem Table.cell_decimal (m : Machine) (x : Register) :
    cell m (.storeDecimal x) m.i.toNat = m.value x / 100 ∧
    cell m (.storeDecimal x) (m.i.toNat + 1) = m.value x / 10 % 10 ∧
    cell m (.storeDecimal x) (m.i.toNat + 2) = m.value x % 10 := by
  have h1 : m.i.toNat + 1 ≠ m.i.toNat := by omega
  have h2 : m.i.toNat + 2 ≠ m.i.toNat := by omega
  have h21 : m.i.toNat + 2 ≠ m.i.toNat + 1 := by omega
  refine ⟨if_pos rfl, ?_, ?_⟩
  · exact (if_neg h1).trans (if_pos rfl)
  · exact (if_neg h2).trans ((if_neg h21).trans (if_pos rfl))

/-! ## What happens between a store and a load -/

/-- Something that is done to a console. -/
inductive Deed where
  /-- An instruction is carried out, wherever it lies, unless it fails. -/
  | instruction (i : Instruction)
  /-- All registers are set. -/
  | registers (v : Vector UInt8 16)
  /-- Something else is done, which may be a step. -/
  | action (action : Action)

namespace Console

variable {σ : Type} {c c' : Console σ} {i : Instruction}

/-- Carries an instruction out, wherever it lies. -/
def carryOut (c : Console σ) (i : Instruction) : Except Trap (Console σ) :=
  match c.machine.carryOut c.keypad i with
  | .ok (machine, keypad) => .ok { c with machine, keypad }
  | .error cause => .error cause

/-- To carry an instruction out leads from one console to the other, and so does
a step where the instruction lies at the program counter. -/
def CarriesOut (c : Console σ) (i : Instruction) (c' : Console σ) : Prop :=
  c.carryOut i = .ok c' ∧ (c.machine.next? = some i → c.step = .ok c')

theorem carriesOut_of_execute {flow : Flow} {after : Machine} {k : Keypad}
    (h : c.machine.execute c.keypad i = .ok (flow, after, k)) :
    c.CarriesOut i
      { c with
        machine := { after with pc := flow.target c.machine.pc }
        keypad := k } := by
  constructor
  · simp only [carryOut, Machine.carryOut_of_execute h]
  · exact fun hnext => step_of_execute hnext h

variable [Screen σ]

/-- The console after something was done to it. -/
def deed (c : Console σ) : Deed → Console σ
  | .instruction i =>
    match c.carryOut i with
    | .ok c => c
    | .error _ => c
  | .registers v => { c with machine := { c.machine with v } }
  | .action action => c.act action

/-- The console after one thing was done after the other. -/
def deeds (c : Console σ) (row : List Deed) : Console σ :=
  row.foldl deed c

/-- The instruction that was carried out, if one was. -/
def carried? (c : Console σ) : Deed → Option Instruction
  | .instruction i =>
    match c.carryOut i with
    | .ok _ => some i
    | .error _ => none
  | .registers _ => none
  | .action action => c.executed? action

/-- Every instruction that is carried out is of a kind, in the machine that it
comes up in. -/
def Along (P : Machine → Instruction → Prop) (c : Console σ) : List Deed → Prop
  | [] => True
  | d :: rest =>
    (∀ i, c.carried? d = some i → P c.machine i) ∧ (c.deed d).Along P rest

theorem along_registers {P : Machine → Instruction → Prop}
    {v : Vector UInt8 16} {rest : List Deed}
    (h : (c.deed (.registers v)).Along P rest) :
    c.Along P (.registers v :: rest) :=
  ⟨fun _ hnone => (nomatch hnone), h⟩

theorem along_instruction {P : Machine → Instruction → Prop} {rest : List Deed}
    (hfirst : P c.machine i) (h : (c.deed (.instruction i)).Along P rest) :
    c.Along P (.instruction i :: rest) := by
  refine ⟨fun j hcarried => ?_, h⟩
  simp only [carried?] at hcarried
  split at hcarried
  · cases hcarried
    exact hfirst
  · cases hcarried

/-- What was done to the machine, by the instruction that was carried out, if
one was. -/
inductive DeedCase (c : Console σ) : Option Instruction → Machine → Prop
  | carried {i : Instruction} {after : Machine}
    (h : c.machine.Effect c.keypad i after) : DeedCase c (some i) after
  | kept {after : Machine} (hindex : after.i = c.machine.i)
    (hmemory : after.memory = c.machine.memory) : DeedCase c none after

theorem deedCase (c : Console σ) (d : Deed) :
    c.DeedCase (c.carried? d) (c.deed d).machine := by
  cases d with
  | registers v => exact .kept rfl rfl
  | instruction i =>
      cases hmachine : c.machine.carryOut c.keypad i with
      | error cause =>
          have hresult : c.carryOut i = .error cause := by
            simp only [carryOut, hmachine]
          simp only [carried?, deed, hresult]
          exact .kept rfl rfl
      | ok result =>
          obtain ⟨machine, keypad⟩ := result
          have hresult : c.carryOut i = .ok { c with machine, keypad } := by
            simp only [carryOut, hmachine]
          simp only [carried?, deed, hresult]
          exact .carried (Machine.effect_of_carryOut hmachine)
  | action action =>
      have heffect := c.effect_act action
      show c.DeedCase (c.executed? action) (c.act action).machine
      generalize c.executed? action = i?, (c.act action).machine = after
        at heffect
      cases heffect with
      | ran _ h => exact .carried h
      | counted => exact .kept rfl rfl
      | kept => exact .kept rfl rfl

/-- A byte stays what it is along a run that spares it. -/
theorem cell_deeds {start length : Nat} {row : List Deed}
    (h : c.Along (fun m i => m.Spares i start length) row) {a : Nat}
    (hle : start ≤ a) (hlt : a < start + length) :
    (c.deeds row).machine.cell a = c.machine.cell a := by
  induction row generalizing c with
  | nil => rfl
  | cons d rest ih =>
      obtain ⟨hfirst, hrest⟩ := h
      have hcell : (c.deed d).machine.cell a = c.machine.cell a := by
        have hcase := c.deedCase d
        generalize c.carried? d = i?, (c.deed d).machine = after
          at hfirst hcase
        cases hcase with
        | carried heffect => exact heffect.cell (hfirst _ rfl) hle hlt
        | kept _ hmemory => rw [Machine.cell, hmemory, ← Machine.cell]
      exact (ih hrest).trans hcell

/-- So does the index register along a run that does not set it. -/
theorem index_deeds {row : List Deed}
    (h : c.Along (fun _ i => i.setsIndex = false) row) :
    (c.deeds row).machine.i = c.machine.i := by
  induction row generalizing c with
  | nil => rfl
  | cons d rest ih =>
      obtain ⟨hfirst, hrest⟩ := h
      have hindex : (c.deed d).machine.i = c.machine.i := by
        have hcase := c.deedCase d
        generalize c.carried? d = i?, (c.deed d).machine = after
          at hfirst hcase
        cases hcase with
        | carried heffect => exact heffect.index (hfirst _ rfl)
        | kept hindex _ => exact hindex
      exact (ih hrest).trans hindex

/-! ## Storing and loading -/

section Access

omit [Screen σ]

/-- The console after an instruction wrote memory and changed nothing else. -/
def wrote (c : Console σ) (memory : Memory) : Console σ :=
  { c with machine := { c.machine with memory, pc := c.machine.pc + 2 } }

/-- The console after an instruction loaded registers and changed nothing
else. -/
def loaded (c : Console σ) (v : Vector UInt8 16) : Console σ :=
  { c with machine := { c.machine with v, pc := c.machine.pc + 2 } }

/-- Bytes that fit are written. -/
theorem exists_write (data : List UInt8)
    (hfits : c.machine.i.toNat + data.length ≤ Memory.size)
    (hexecute : ∀ memory, c.machine.memory.write c.machine.i data = .ok memory →
      c.machine.execute c.keypad i =
        .ok (.next, { c.machine with memory }, c.keypad)) :
    ∃ memory, c.machine.memory.write c.machine.i data = .ok memory ∧
      c.CarriesOut i (c.wrote memory) := by
  obtain ⟨memory, hwrite⟩ := Memory.write_eq_ok_iff.mpr hfits
  exact ⟨memory, hwrite, carriesOut_of_execute (hexecute memory hwrite)⟩

theorem exists_storeRegisters {x : Register}
    (hfits : c.machine.i.toNat + x.val + 1 ≤ Memory.size) :
    ∃ memory, c.CarriesOut (.storeRegisters x) (c.wrote memory) ∧
      ∀ a, (c.wrote memory).machine.cell a =
        Table.cell c.machine (.storeRegisters x) a := by
  have hlength := Table.length_take_registers c.machine x
  obtain ⟨memory, hwrite, hstore⟩ :=
    exists_write (c := c) (i := .storeRegisters x)
      (c.machine.v.toList.take (x.val + 1)) (by omega)
      fun memory hwrite => by simp only [Machine.execute, hwrite]
  exact ⟨memory, hstore, Table.cell_storeRegisters hwrite⟩

theorem exists_storeDecimal {x : Register}
    (hfits : c.machine.i.toNat + 3 ≤ Memory.size) :
    ∃ memory, c.CarriesOut (.storeDecimal x) (c.wrote memory) ∧
      ∀ a, (c.wrote memory).machine.cell a =
        Table.cell c.machine (.storeDecimal x) a := by
  obtain ⟨memory, hwrite, hstore⟩ :=
    exists_write (c := c) (i := .storeDecimal x)
      (decimalDigits (c.machine.register x)) hfits
      fun memory hwrite => by simp only [Machine.execute, hwrite]
  exact ⟨memory, hstore, Table.cell_storeDecimal hwrite⟩

/-- Registers are loaded as far as they are asked for. -/
theorem exists_load {z : Register}
    (hfits : c.machine.i.toNat + z.val + 1 ≤ Memory.size) :
    ∃ v, c.CarriesOut (.loadRegisters z) (c.loaded v) ∧
      (∀ r : Register, r ≤ z → (c.loaded v).machine.value r =
        c.machine.cell (c.machine.i.toNat + r.val)) ∧
      ∀ r : Register, z < r →
        (c.loaded v).machine.register r = c.machine.register r := by
  obtain ⟨values, hread⟩ : ∃ values,
      c.machine.memory.read c.machine.i (z.val + 1) = .ok values :=
    Memory.read_eq_ok_iff.mpr hfits
  have hvalue := Table.value_loadRegisters hread
  have hexecute : c.machine.execute c.keypad (.loadRegisters z) =
      .ok (.next, c.machine.setRegisters values, c.keypad) := by
    simp only [Machine.execute, hread]
  refine ⟨Memory.store c.machine.v 0 values, carriesOut_of_execute hexecute,
    ?_, ?_⟩
  · intro r hr
    exact (hvalue r).trans (if_pos hr)
  · intro r hr
    exact UInt8.toNat_inj.mp ((hvalue r).trans (if_neg (Nat.not_le_of_lt hr)))

end Access

/-- What is stored is loaded again.  Registers are stored without anything else
changing, and then all kinds of things happen: registers change, instructions
are carried out, keys are pressed.  If none of that writes over what was stored,
and the index register is back where it was, or was never set, the registers are
loaded as they were stored, and nothing else changes.  The decimal digits of a
register that are stored and loaded make up what the register held. -/
theorem stored_is_loaded (c : Console σ) :
    (∀ x : Register, c.machine.i.toNat + x.val + 1 ≤ Memory.size →
      ∃ memory, c.CarriesOut (.storeRegisters x) (c.wrote memory) ∧
        (∀ a, ¬ (c.machine.i.toNat ≤ a ∧ a ≤ c.machine.i.toNat + x.val) →
          (c.wrote memory).machine.cell a = c.machine.cell a) ∧
        ∀ between d, d = (c.wrote memory).deeds between →
          (c.wrote memory).Along
            (fun m i => m.Spares i c.machine.i.toNat (x.val + 1)) between →
          (d.machine.i = c.machine.i ∨
            (c.wrote memory).Along (fun _ i => i.setsIndex = false) between) →
          ∀ z : Register, z ≤ x → ∃ v,
            d.CarriesOut (.loadRegisters z) (d.loaded v) ∧
            (∀ r : Register, r ≤ z →
              (d.loaded v).machine.register r = c.machine.register r) ∧
            ∀ r : Register, z < r →
              (d.loaded v).machine.register r = d.machine.register r) ∧
    ∀ x : Register, c.machine.i.toNat + 3 ≤ Memory.size →
      ∃ memory v m, m = ((c.wrote memory).loaded v).machine ∧
        c.CarriesOut (.storeDecimal x) (c.wrote memory) ∧
        (c.wrote memory).CarriesOut (.loadRegisters 2)
          ((c.wrote memory).loaded v) ∧
        m.value 0 ≤ 9 ∧ m.value 1 ≤ 9 ∧ m.value 2 ≤ 9 ∧
        100 * m.value 0 + 10 * m.value 1 + m.value 2 = c.machine.value x := by
  constructor
  · intro x hfits
    obtain ⟨memory, hstore, hcell⟩ := exists_storeRegisters hfits
    refine ⟨memory, hstore, fun a hout => (hcell a).trans (if_neg hout), ?_⟩
    rintro between d rfl hspares hback z hz
    have hindex : ((c.wrote memory).deeds between).machine.i = c.machine.i :=
      hback.elim id index_deeds
    have hzx : z.val ≤ x.val := hz
    obtain ⟨v, hload, hloaded, hkept⟩ :=
      exists_load (c := (c.wrote memory).deeds between) (z := z)
        (by rw [hindex]; omega)
    refine ⟨v, hload, fun r hr => UInt8.toNat_inj.mp ?_, hkept⟩
    have hrx : r.val ≤ x.val := Nat.le_trans hr hzx
    calc (((c.wrote memory).deeds between).loaded v).machine.value r
        = (c.wrote memory).machine.cell (c.machine.i.toNat + r.val) := by
          rw [hloaded r hr, hindex, cell_deeds hspares (by omega) (by omega)]
      _ = c.machine.value r :=
          (hcell _).trans (Table.cell_registers _ hrx)
  · intro x hfits
    obtain ⟨memory, hstore, hcell⟩ := exists_storeDecimal hfits
    obtain ⟨v, hload, hloaded, _⟩ :=
      exists_load (c := c.wrote memory) (z := 2) hfits
    have hdigit (r : Register) (hr : r ≤ 2) :
        ((c.wrote memory).loaded v).machine.value r =
          Table.cell c.machine (.storeDecimal x) (c.machine.i.toNat + r.val) :=
      (hloaded r hr).trans (hcell _)
    obtain ⟨h0, h1, h2⟩ := Table.cell_decimal c.machine x
    have hhundreds := (hdigit 0 (by decide)).trans h0
    have htens := (hdigit 1 (by decide)).trans h1
    have hones := (hdigit 2 (by decide)).trans h2
    have hbyte : c.machine.value x < 256 := (c.machine.register x).toNat_lt
    exact ⟨memory, v, _, rfl, hstore, hload, by omega, by omega, by omega,
      by omega⟩

/-- A console whose index register leaves room for three bytes. -/
def brimming : Console Headless :=
  { start .fresh .standard 0 {} with
    machine := { Machine.start .fresh .standard 0 with
      i := 0xFFD
      v := #v[0x12, 0x34, 234, 0, 0, 0, 0, 0, 0, 0, 0, 0, 0, 0, 0, 0] } }

/-- Two registers are stored below the last byte of memory.  Then all registers
are cleared, the last byte is written, and the two registers are loaded.  The
digits of a third one take all three bytes, and are loaded over it. -/
theorem stored_is_loaded_brimming :
    (∃ memory d v,
      brimming.CarriesOut (.storeRegisters 1) (brimming.wrote memory) ∧
      d = (brimming.wrote memory).deeds
        [.registers (.replicate 16 0), .instruction (.setIndex 0xFFF),
          .instruction (.storeRegisters 0), .instruction (.setIndex 0xFFD)] ∧
      d.CarriesOut (.loadRegisters 1) (d.loaded v) ∧
      (d.loaded v).machine.register 0 = 0x12 ∧
      (d.loaded v).machine.register 1 = 0x34) ∧
    ∃ memory v m, m = ((brimming.wrote memory).loaded v).machine ∧
      brimming.CarriesOut (.storeDecimal 2) (brimming.wrote memory) ∧
      (brimming.wrote memory).CarriesOut (.loadRegisters 2)
        ((brimming.wrote memory).loaded v) ∧
      m.value 2 ≤ 9 ∧
      100 * m.value 0 + 10 * m.value 1 + m.value 2 = 234 := by
  have hset (c : Console Headless) (target : Place) :
      (c.deed (.instruction (.setIndex target))).machine.i =
        UInt16.ofNat target.val := rfl
  obtain ⟨hregisters, hdigits⟩ := stored_is_loaded brimming
  constructor
  · obtain ⟨memory, hstore, _, hload⟩ := hregisters 1 (by decide)
    have hlast (c : Console Headless) (hindex : c.machine.i = 0xFFF) :
        c.machine.Spares (.storeRegisters 0) 0xFFD 2 := fun a _ hlt hin => by
      have hle : (0xFFF : UInt16).toNat ≤ a := hindex ▸ hin.1
      have hlast : (0xFFF : UInt16).toNat = 0xFFF := rfl
      omega
    obtain ⟨v, hloads, hsame, _⟩ := hload
      [.registers (.replicate 16 0), .instruction (.setIndex 0xFFF),
        .instruction (.storeRegisters 0), .instruction (.setIndex 0xFFD)] _ rfl
      (along_registers (along_instruction (Machine.spares_of_written rfl)
        (along_instruction (hlast _ (hset _ 0xFFF))
          (along_instruction (Machine.spares_of_written rfl) trivial))))
      (.inl (hset _ 0xFFD)) 1 (Nat.le_refl 1)
    exact ⟨memory, _, v, hstore, rfl, hloads, hsame 0 (by decide),
      hsame 1 (Nat.le_refl 1)⟩
  · obtain ⟨memory, v, m, hm, hstore, hload, _, _, hones, hvalue⟩ :=
      hdigits 2 (by decide)
    exact ⟨memory, v, m, hm, hstore, hload, hones, hvalue⟩

end Console

end Chip8
