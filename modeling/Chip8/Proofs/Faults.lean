import Chip8.Proofs.InPlace

/-!
# When steps fail

Whether a step fails, and how, is read off numbers: the program counter, the
word there, how many calls are open, and the index register.  `Table.fault?`
says it without a decoder, and leaves the keypad, the timers, the registers and
the picture out.

## Main results

* `Table.decode_eq_none_iff` — a word stands for an instruction exactly if its
  digits say so.
* `Table.fault?_of_word` — the fault of a step, once its word is known.
* `Table.step_fault` — a step fails as `Table.fault?` says, and never
  otherwise.
-/

namespace Chip8

namespace Table

/-! ## Faults in numbers -/

/-- Whether a word is in a row of the table. -/
def listed (w : Nat) : Bool :=
  match w / 4096 with
  | 0x0 => w = 0x00E0 || w = 0x00EE
  | 0x5 => w % 16 = 0
  | 0x8 => w % 16 < 8 || w % 16 = 0xE
  | 0x9 => w % 16 = 0
  | 0xE => w % 256 = 0x9E || w % 256 = 0xA1
  | 0xF => w % 256 ∈ [0x07, 0x0A, 0x15, 0x18, 0x1E, 0x29, 0x33, 0x55, 0x65]
  | _ => true

/-- The trap that the instruction of a word runs into. -/
def trapOf? (m : Machine) (w : Nat) : Option Trap :=
  match w / 4096 with
  | 0x0 =>
    if w = 0x00EE ∧ m.stack.depth = 0 then some .stackUnderflow else none
  | 0x2 => if m.stack.depth = 16 then some .stackOverflow else none
  | 0xD => outside? m (w % 16)
  | 0xF =>
    match w % 256 with
    | 0x33 => outside? m 3
    | 0x55 => outside? m (w / 256 % 16 + 1)
    | 0x65 => outside? m (w / 256 % 16 + 1)
    | _ => none
  | _ => none

/-- How the next step fails. -/
def fault? (m : Machine) : Option Fault :=
  if Memory.size < m.pc.toNat + 2 then some (.fetch m.pc ⟨m.pc, 2⟩)
  else
    let w := 256 * m.cell m.pc.toNat + m.cell (m.pc.toNat + 1)
    if listed w then (trapOf? m w).map (.trap m.pc (UInt16.ofNat w))
    else some (.unknownInstruction m.pc (UInt16.ofNat w))

/-! ## Words and their digits -/

section Digits

open Instruction Fields

theorem div_wordOfPlace (op : Nibble) (nnn : Place) :
    (wordOfPlace op nnn).toNat / 4096 = op.val := by
  have hnnn := nnn.isLt
  rw [toNat_wordOfPlace]
  omega

theorem div_wordOfByte (op : Nibble) (x : Register) (nn : UInt8) :
    (wordOfByte op x nn).toNat / 4096 = op.val := by
  have hx := x.isLt
  have hnn := nn.toNat_lt
  rw [toNat_wordOfByte]
  omega

theorem div_mod_wordOfByte (op : Nibble) (x : Register) (nn : UInt8) :
    (wordOfByte op x nn).toNat / 256 % 16 = x.val := by
  have hx := x.isLt
  have hnn := nn.toNat_lt
  rw [toNat_wordOfByte]
  omega

theorem mod_wordOfByte (op : Nibble) (x : Register) (nn : UInt8) :
    (wordOfByte op x nn).toNat % 256 = nn.toNat := by
  have hnn := nn.toNat_lt
  rw [toNat_wordOfByte]
  omega

theorem div_wordOfNibbles (op : Nibble) (x y : Register) (n : Nibble) :
    (wordOfNibbles op x y n).toNat / 4096 = op.val := by
  have hx := x.isLt
  have hy := y.isLt
  have hn := n.isLt
  rw [toNat_wordOfNibbles]
  omega

theorem mod_wordOfNibbles (op : Nibble) (x y : Register) (n : Nibble) :
    (wordOfNibbles op x y n).toNat % 16 = n.val := by
  have hn := n.isLt
  rw [toNat_wordOfNibbles]
  omega

end Digits

/-- The word of an instruction is listed, and its trap is that of the
instruction. -/
theorem row_of_word (m : Machine) (i : Instruction) :
    listed i.word.toNat = true ∧ trapOf? m i.word.toNat = trap? m i := by
  have hdepth := m.stack.depth_le_maxDepth
  have hmax : maxDepth = 16 := rfl
  cases i with
  | clear => exact ⟨rfl, rfl⟩
  | ret =>
      have hword : Instruction.ret.word.toNat = 0x00EE := rfl
      rw [hword]
      refine ⟨rfl, ?_⟩
      show (if 0x00EE = 0x00EE ∧ m.stack.depth = 0 then
          some Trap.stackUnderflow else none) =
        if 0 < m.stack.depth then none else some .stackUnderflow
      by_cases h : m.stack.depth = 0
      · rw [if_pos ⟨rfl, h⟩, if_neg (by omega)]
      · rw [if_neg (fun hempty => h hempty.2), if_pos (by omega)]
  | call target =>
      rw [Instruction.word, listed, trapOf?, div_wordOfPlace]
      refine ⟨rfl, ?_⟩
      show (if m.stack.depth = 16 then some Trap.stackOverflow else none) =
        if m.stack.depth < maxDepth then none else some .stackOverflow
      by_cases h : m.stack.depth = 16
      · rw [if_pos h, if_neg (by omega)]
      · rw [if_neg h, if_pos (by omega)]
  | jump target | setIndex target | jumpBy target =>
      rw [Instruction.word, listed, trapOf?, div_wordOfPlace]
      exact ⟨rfl, rfl⟩
  | skipIfByte x nn | skipUnlessByte x nn | setByte x nn | addByte x nn
  | random x nn =>
      rw [Instruction.word, listed, trapOf?, div_wordOfByte]
      exact ⟨rfl, rfl⟩
  | skipIfSame x y | skipUnlessSame x y | draw x y n =>
      rw [Instruction.word, listed, trapOf?, div_wordOfNibbles,
        mod_wordOfNibbles]
      exact ⟨rfl, rfl⟩
  | alu op x y =>
      rw [Instruction.word, listed, trapOf?, div_wordOfNibbles,
        mod_wordOfNibbles]
      exact ⟨by cases op <;> rfl, rfl⟩
  | skipIfHeld x | skipUnlessHeld x | getDelay x | awaitKey x | setDelay x
  | setSound x | addIndex x | glyph x | storeDecimal x =>
      rw [Instruction.word, listed, trapOf?, div_wordOfByte, mod_wordOfByte]
      exact ⟨rfl, rfl⟩
  | storeRegisters x | loadRegisters x =>
      rw [Instruction.word, listed, trapOf?, div_wordOfByte, mod_wordOfByte,
        div_mod_wordOfByte]
      exact ⟨rfl, rfl⟩

/-- The fields of a word, in numbers. -/
theorem val_ofWord (w : UInt16) :
    (Fields.ofWord w).op.val = w.toNat / 4096 ∧
      (Fields.ofWord w).n.val = w.toNat % 16 ∧
      (Fields.ofWord w).nn.toNat = w.toNat % 256 ∧
      (Fields.ofWord w).nnn.val = w.toNat % 4096 := by
  have hw := w.toNat_lt
  simp only [Fields.ofWord, Fin.val_ofNat, UInt8.toNat_ofNat', and_true]
  omega

theorem ofCode?_eq_none {n : Nibble} (h : Alu.ofCode? n = none) :
    ¬ (n.val < 8 ∨ n.val = 0xE) := by
  revert n
  decide

/-- A word that stands for no instruction is not listed. -/
theorem listed_of_decode_eq_none {w : UInt16}
    (h : Instruction.decode w = none) : listed w.toNat = false := by
  have hw := w.toNat_lt
  obtain ⟨hop, hn, hnn, hnnn⟩ := val_ofWord w
  simp only [Instruction.decode, hop, hnn, hnnn] at h
  unfold listed
  split at h
  case h_1 hzero =>
    split at h
    · cases h
    · cases h
    · next hclear hret =>
        simp only [hzero, Bool.or_eq_false_iff, decide_eq_false_iff_not]
        exact ⟨fun he => hclear (by omega), fun he => hret (by omega)⟩
  case h_6 hfive =>
    split at h
    · cases h
    · next hne =>
        simp only [hfive, decide_eq_false_iff_not]
        exact fun he => hne (Fin.ext (hn.trans he))
  case h_9 height =>
    have hcode := ofCode?_eq_none (Option.map_eq_none_iff.mp h)
    simp only [height, Bool.or_eq_false_iff, decide_eq_false_iff_not]
    omega
  case h_10 hnine =>
    split at h
    · cases h
    · next hne =>
        simp only [hnine, decide_eq_false_iff_not]
        exact fun he => hne (Fin.ext (hn.trans he))
  case h_15 hkeys =>
    split at h
    · cases h
    · cases h
    · next hheld hup =>
        simp only [hkeys, Bool.or_eq_false_iff, decide_eq_false_iff_not]
        exact ⟨hheld, hup⟩
  case h_16 hlast =>
    split at h
    case h_10 =>
      simp only [imp_false] at *
      simp only [hlast, List.mem_cons, List.not_mem_nil, or_false,
        decide_eq_false_iff_not]
      omega
    all_goals cases h
  case h_17 =>
    simp only [imp_false] at *
    omega
  all_goals cases h

/-- A word stands for an instruction exactly if it is listed. -/
theorem decode_eq_none_iff {w : UInt16} :
    Instruction.decode w = none ↔ listed w.toNat = false := by
  refine ⟨listed_of_decode_eq_none, fun h => ?_⟩
  cases hdecode : Instruction.decode w with
  | none => rfl
  | some i =>
      have hlisted := (row_of_word (.start .fresh .standard 0) i).1
      rw [Instruction.word_of_decode hdecode, h] at hlisted
      cases hlisted

/-! ## Steps -/

section Steps

variable {m : Machine} {opcode : UInt16}

/-- An instruction that runs into no trap is carried out. -/
theorem exists_execute (k : Keypad) {i : Instruction} (h : trap? m i = none) :
    ∃ result, m.execute k i = .ok result := by
  by_cases hkey : ∃ x, i = .awaitKey x
  · obtain ⟨x, rfl⟩ := hkey
    simp only [Machine.execute]
    split <;> exact ⟨_, rfl⟩
  · obtain ⟨flow, after, hexecute, _⟩ :=
      execute_of_trap?_eq_none k (fun x hx => hkey ⟨x, hx⟩) h
    exact ⟨_, hexecute⟩

/-- The word at the program counter, in numbers. -/
theorem toNat_of_word (h : m.memory.word m.pc = .ok opcode) :
    m.pc.toNat + 2 ≤ Memory.size ∧
      256 * m.cell m.pc.toNat + m.cell (m.pc.toNat + 1) = opcode.toNat := by
  have hroom := Memory.le_of_word_eq_ok h
  rw [Memory.word, dif_pos hroom] at h
  cases h
  rw [Word.toNat_ofBytes, Machine.cell_of_lt m (by omega),
    Machine.cell_of_lt m (by omega)]
  exact ⟨hroom, rfl⟩

/-- Where a word can be fetched, the fault of a step is that of the word. -/
theorem fault?_of_word (h : m.memory.word m.pc = .ok opcode) :
    fault? m =
      if listed opcode.toNat then
        (trapOf? m opcode.toNat).map (.trap m.pc opcode)
      else some (.unknownInstruction m.pc opcode) := by
  obtain ⟨hroom, hopcode⟩ := toNat_of_word h
  rw [fault?, if_neg (Nat.not_lt_of_le hroom)]
  simp only [hopcode, UInt16.ofNat_toNat]

theorem fault?_of_word_eq_error {e : OutOfRange}
    (h : m.memory.word m.pc = .error e) : fault? m = some (.fetch m.pc e) := by
  obtain ⟨hroom, rfl⟩ := Memory.of_word_eq_error h
  exact if_pos hroom

/-- A step ends as the numbers say. -/
theorem step_cases (m : Machine) (k : Keypad) :
    match fault? m with
    | some f => m.step k = .error f
    | none => ∃ result, m.step k = .ok result := by
  cases hword : m.memory.word m.pc with
  | error e =>
      rw [fault?_of_word_eq_error hword]
      simp only [Machine.step, hword]
  | ok opcode =>
      rw [fault?_of_word hword]
      cases hdecode : Instruction.decode opcode with
      | none =>
          rw [decode_eq_none_iff.mp hdecode]
          simp only [Machine.step, hword, hdecode]
          rfl
      | some i =>
          obtain ⟨hlisted, htrap⟩ := row_of_word m i
          rw [Instruction.word_of_decode hdecode] at hlisted htrap
          rw [if_pos hlisted, htrap]
          cases hcause : trap? m i with
          | some cause => exact step_eq_error k hword hdecode hcause
          | none =>
              obtain ⟨result, hresult⟩ := exists_execute k hcause
              rw [Machine.step_of_decode k hword hdecode, hresult]
              exact ⟨_, rfl⟩

theorem step_eq_error_iff (m : Machine) (k : Keypad) (f : Fault) :
    m.step k = .error f ↔ fault? m = some f := by
  have hcases := step_cases m k
  cases hfault : fault? m with
  | some f' =>
      rw [hfault] at hcases
      rw [show m.step k = .error f' from hcases]
      simp
  | none =>
      rw [hfault] at hcases
      obtain ⟨result, hresult⟩ := hcases
      rw [hresult]
      simp

theorem step_eq_ok_iff (m : Machine) (k : Keypad) :
    (∃ result, m.step k = .ok result) ↔ fault? m = none := by
  have hcases := step_cases m k
  cases hfault : fault? m with
  | some f =>
      rw [hfault] at hcases
      rw [show m.step k = .error f from hcases]
      simp
  | none =>
      rw [hfault] at hcases
      exact iff_of_true hcases rfl

end Steps

/-- The listed words are those of the instructions. -/
theorem listed_iff_exists_word (w : UInt16) :
    listed w.toNat = true ↔ ∃ i : Instruction, i.word = w := by
  constructor
  · intro h
    cases hdecode : Instruction.decode w with
    | some i => exact ⟨i, Instruction.word_of_decode hdecode⟩
    | none =>
        rw [decode_eq_none_iff.mp hdecode] at h
        cases h
  · rintro ⟨i, rfl⟩
    exact (row_of_word (.start .fresh .standard 0) i).1

/-- **When steps fail.**  A step fails exactly with the fault that the numbers
of the machine tell, if they tell one, and succeeds exactly if they tell none;
the words they list are those of the instructions.  A step that goes about it in
place comes to the same, or leaves everything as it was if it fails, and never
breaks down, unless it is to draw on a picture without pixels. -/
theorem step_fault (m : Machine) (k : Keypad) :
    (∀ f, m.step k = .error f ↔ fault? m = some f) ∧
      ((∃ result, m.step k = .ok result) ↔ fault? m = none) ∧
      (∀ w : UInt16,
        listed w.toNat = true ↔ ∃ i : Instruction, i.word = w) ∧
      (((∃ x y n, m.next? = some (.draw x y n)) →
          0 < m.framebuffer.resolution.width ∧
            0 < m.framebuffer.resolution.height) →
        (InPlace.step.on m k =
          match m.step k with
          | .ok (after, k') => (.ok (), after, k')
          | .error f => (.error (.failed f), m, k)) ∧
        (InPlace.step.on m k).1 ≠ .error .crashed) := by
  refine ⟨step_eq_error_iff m k, step_eq_ok_iff m k, listed_iff_exists_word,
    fun hpixels => ?_⟩
  have hagree := InPlace.on_step m k fun x y n hnext _ =>
    hpixels ⟨x, y, n, hnext⟩
  refine ⟨hagree, ?_⟩
  rw [hagree]
  cases m.step k with
  | ok result => exact nofun
  | error f => exact nofun

/-- A machine that is about to store two registers where only one byte is left
of memory. -/
def overrunning : Machine :=
  { Machine.start (.loaded [0xF1, 0x55] (by decide)) .standard 0 with
    i := 0xFFF }

theorem word_overrunning :
    overrunning.memory.word overrunning.pc = .ok 0xF155 :=
  Memory.word_loaded (j := 0) (by decide) (by decide) rfl

theorem fault?_overrunning :
    fault? overrunning =
      some (.trap 0x200 0xF155 (.memory ⟨0xFFF, 2⟩)) := by
  rw [fault?_of_word word_overrunning]
  decide

/-- It fails, telling both bytes.  In place it fails likewise, with nothing
written, and does not break down. -/
theorem step_fault_overrunning :
    0 < overrunning.framebuffer.resolution.width ∧
      0 < overrunning.framebuffer.resolution.height ∧
      overrunning.step {} =
        .error (.trap 0x200 0xF155 (.memory ⟨0xFFF, 2⟩)) ∧
      InPlace.step.on overrunning {} =
        (.error (.failed (.trap 0x200 0xF155 (.memory ⟨0xFFF, 2⟩))),
          overrunning, {}) ∧
      (InPlace.step.on overrunning {}).1 ≠ .error .crashed := by
  obtain ⟨herror, _, _, hinPlace⟩ := step_fault overrunning {}
  have hw : 0 < overrunning.framebuffer.resolution.width := by decide
  have hh : 0 < overrunning.framebuffer.resolution.height := by decide
  have hstep := (herror _).mpr fault?_overrunning
  obtain ⟨hagree, hcrash⟩ := hinPlace fun _ => ⟨hw, hh⟩
  rw [hstep] at hagree
  exact ⟨hw, hh, hstep, hagree, hcrash⟩

end Table

end Chip8
