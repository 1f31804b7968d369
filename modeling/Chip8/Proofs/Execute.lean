import Chip8.Memory.Lemmas
import Chip8.Proofs.Table

/-!
# Instructions do what the table says

`Machine.execute` is compared with the table one instruction at a time.  What
the comparison needs of registers, of register arithmetic and of memory is
said first, in numbers.

## Main results

* `Table.execute_of_trap?_eq_none` — an instruction that runs into no trap
  leaves the machine and the program counter as the table says.
* `Table.execute_of_trap?_eq_some` — one that runs into a trap is refused.
-/

namespace Chip8

/-! ## Register arithmetic -/

namespace Alu

theorem toNat_flag (set : Bool) : (flag set).toNat = if set then 1 else 0 := by
  cases set <;> rfl

/-- The result of an operation, in numbers. -/
theorem toNat_result (op : Alu) (a b : UInt8) :
    (op.apply a b).1.toNat = op.number a.toNat b.toNat := by
  have ha := a.toNat_lt
  have hb := b.toNat_lt
  cases op with
  | copy => rfl
  | or => exact UInt8.toNat_or a b
  | and => exact UInt8.toNat_and a b
  | xor => exact UInt8.toNat_xor a b
  | add => exact UInt8.toNat_add a b
  | sub =>
      simp only [apply, number, UInt8.toNat_sub]
      omega
  | shiftRight =>
      simp only [apply, number, UInt8.toNat_shiftRight,
        Nat.shiftRight_eq_div_pow]
      rfl
  | subFrom =>
      simp only [apply, number, UInt8.toNat_sub]
      omega
  | shiftLeft =>
      simp only [apply, number, UInt8.toNat_shiftLeft, Nat.shiftLeft_eq]
      rw [Nat.mul_comm]
      rfl

/-- The flag of an operation, in numbers. -/
theorem toNat_flag? (op : Alu) (a b : UInt8) :
    (op.apply a b).2.map UInt8.toNat = op.flagNumber? a.toNat b.toNat := by
  cases op with
  | copy => rfl
  | or => rfl
  | and => rfl
  | xor => rfl
  | add => simp [apply, flagNumber?, toNat_flag]
  | sub => simp [apply, flagNumber?, toNat_flag, UInt8.lt_iff_toNat_lt]
  | shiftRight =>
      simp only [apply, flagNumber?, Option.map_some, UInt8.toNat_and]
      exact congrArg some (Nat.and_one_is_mod _)
  | subFrom => simp [apply, flagNumber?, toNat_flag, UInt8.lt_iff_toNat_lt]
  | shiftLeft =>
      simp only [apply, flagNumber?, Option.map_some, UInt8.toNat_shiftRight,
        Nat.shiftRight_eq_div_pow]
      rfl

end Alu

/-! ## Registers -/

namespace Machine

/-- A register that was set holds its value, every other one what it held. -/
theorem register_setRegister (m : Machine) (x r : Register) (value : UInt8) :
    (m.setRegister x value).register r =
      if r = x then value else m.register r := by
  show (m.v.set x.val value)[r.val] = if r = x then value else m.v[r.val]
  rw [Vector.getElem_set]
  by_cases h : r = x
  · rw [if_pos h, if_pos (congrArg Fin.val h.symm)]
  · rw [if_neg h, if_neg fun he => h (Fin.ext he.symm)]

theorem value_setRegister (m : Machine) (x r : Register) (value : UInt8) :
    (m.setRegister x value).value r =
      if r = x then value.toNat else m.value r := by
  rw [Machine.value, register_setRegister]
  split <;> rfl

/-- The first registers take the values that are loaded, in order. -/
theorem register_setRegisters (m : Machine) (values : List UInt8)
    (r : Register) :
    (m.setRegisters values).register r =
      values.getD r.val (m.register r) := by
  show (Memory.store m.v 0 values)[r.val] = values.getD r.val m.v[r.val]
  rw [Memory.getElem_store, if_pos (Nat.zero_le _), Nat.sub_zero]

/-- The flag of an operation wins over its result. -/
theorem value_combine (m : Machine) (op : Alu) (x y r : Register) :
    (m.combine op x y).value r = Table.register m (.alu op x y) r := by
  have hresult := Alu.toNat_result op (m.register x) (m.register y)
  have hflag := Alu.toNat_flag? op (m.register x) (m.register y)
  simp only [Table.register, Machine.value] at hresult hflag ⊢
  rw [← hresult, ← hflag]
  unfold combine
  cases op.apply (m.register x) (m.register y) with
  | mk result flag? =>
      cases flag? with
      | none => exact value_setRegister m x r result
      | some flag =>
          have houter :=
            value_setRegister (m.setRegister x result) flagRegister r flag
          rw [value_setRegister m x r result] at houter
          exact houter

/-- Register arithmetic touches registers alone. -/
theorem combine_eq (m : Machine) (op : Alu) (x y : Register) :
    m.combine op x y = { m with v := (m.combine op x y).v } := by
  cases op <;> rfl

/-! ## Memory -/

theorem cell_of_lt (m : Machine) {a : Nat} (h : a < Memory.size) :
    m.cell a = m.memory.bytes[a].toNat := by
  rw [cell, Vector.getElem?_eq_getElem h, Option.getD_some]

/-- A slice within memory is what a read delivers. -/
theorem read_eq_slice {m : Machine} {address : UInt16} {length : Nat}
    {data : List UInt8} (h : m.memory.read address length = .ok data) :
    data = m.slice address.toNat length := by
  unfold Memory.read at h
  split at h
  · next hr =>
    cases h
    apply List.ext_getElem
    · simp only [slice, List.length_ofFn, List.length_take, List.length_drop,
        Vector.length_toList]
      omega
    · intro j hj _
      simp [slice]
  · cases h

theorem getD_read {m : Machine} {address : UInt16} {length : Nat}
    {data : List UInt8} (h : m.memory.read address length = .ok data)
    {j : Nat} (hj : j < length) (default : UInt8) :
    (data.getD j default).toNat = m.cell (address.toNat + j) := by
  unfold Memory.read at h
  split at h
  · next hr =>
    cases h
    rw [cell_of_lt m (by omega)]
    simp [List.getD_eq_getElem?_getD, hj]
  · cases h

/-- Bytes that are written over hold what was written, all others what they
held. -/
theorem cell_write {m : Machine} {address : UInt16} {data : List UInt8}
    {memory : Memory} (h : m.memory.write address data = .ok memory) (a : Nat) :
    { m with memory }.cell a =
      if address.toNat ≤ a ∧ a < address.toNat + data.length then
        (data.getD (a - address.toNat) 0).toNat
      else m.cell a := by
  have hfits : address.toNat + data.length ≤ Memory.size :=
    Memory.write_eq_ok_iff.mp ⟨memory, h⟩
  have hbytes := Memory.bytes_of_write h
  by_cases ha : a < Memory.size
  · rw [cell_of_lt _ ha, cell_of_lt _ ha]
    show memory.bytes[a].toNat = _
    simp only [hbytes, Memory.getElem_store]
    by_cases hlow : address.toNat ≤ a
    · by_cases hhigh : a < address.toNat + data.length
      · have hj : a - address.toNat < data.length := by omega
        rw [if_pos hlow, if_pos ⟨hlow, hhigh⟩]
        simp [List.getD_eq_getElem?_getD, List.getElem?_eq_getElem hj]
      · have hj : data.length ≤ a - address.toNat := by omega
        rw [if_pos hlow, if_neg (fun hin => hhigh hin.2)]
        simp [List.getD_eq_getElem?_getD, List.getElem?_eq_none hj]
    · rw [if_neg hlow, if_neg (fun hin => hlow hin.1)]
  · have hout (bytes : Vector UInt8 Memory.size) : bytes[a]? = none :=
      Vector.getElem?_eq_none (Nat.le_of_not_lt ha)
    rw [if_neg (by omega)]
    simp only [cell, hout]

end Machine

/-! ## The program counter -/

namespace Flow

/-- An instruction is two bytes long. -/
theorem toNat_target_next (address : UInt16) :
    (next.target address).toNat = (address.toNat + 2) % 65536 :=
  UInt16.toNat_add address 2

/-- Leaving an instruction out moves on by two instructions. -/
theorem toNat_target_skipIf (condition : Bool) (address : UInt16) :
    ((skipIf condition).target address).toNat =
      (address.toNat + if condition then 4 else 2) % 65536 := by
  cases condition with
  | false => exact toNat_target_next address
  | true => exact UInt16.toNat_add address 4

theorem toNat_target_jump (address : UInt16) (place : Place) :
    ((jump (UInt16.ofNat place.val)).target address).toNat = place.val := by
  have hplace := place.isLt
  show (UInt16.ofNat place.val).toNat = place.val
  rw [UInt16.toNat_ofNat']
  omega

end Flow

/-! ## The table -/

namespace Table

variable {m : Machine} {i : Instruction}

/-- An access is within memory unless it runs into a trap. -/
theorem le_of_outside? {length : Nat} (h : outside? m length = none) :
    m.i.toNat + length ≤ Memory.size := by
  unfold outside? at h
  split at h
  · assumption
  · cases h

/-- The picture and the collision of a draw, with the sprite that was read. -/
theorem drawn_of_read {x y : Register} {n : Nibble} {sprite : List UInt8}
    (h : m.memory.read m.i n.val = .ok sprite) :
    m.framebuffer.draw (m.register x).toNat (m.register y).toNat sprite =
      drawn m x y n := by
  rw [Machine.read_eq_slice h]
  rfl

/-- Three decimal digits are written. -/
theorem cell_storeDecimal {x : Register} {memory : Memory}
    (h : m.memory.write m.i (decimalDigits (m.register x)) = .ok memory)
    (a : Nat) :
    { m with memory }.cell a = cell m (.storeDecimal x) a := by
  have hlength : (decimalDigits (m.register x)).length = 3 := rfl
  rw [Machine.cell_write h, hlength]
  show _ = if a = m.i.toNat then m.value x / 100
    else if a = m.i.toNat + 1 then m.value x / 10 % 10
    else if a = m.i.toNat + 2 then m.value x % 10
    else m.cell a
  by_cases h0 : a = m.i.toNat
  · rw [if_pos (by omega), if_pos h0, h0, Nat.sub_self]
    exact UInt8.toNat_div (m.register x) 100
  by_cases h1 : a = m.i.toNat + 1
  · rw [if_pos (by omega), if_neg h0, if_pos h1, h1, Nat.add_sub_cancel_left]
    show (m.register x / 10 % 10).toNat = m.value x / 10 % 10
    rw [UInt8.toNat_mod, UInt8.toNat_div]
    rfl
  by_cases h2 : a = m.i.toNat + 2
  · rw [if_pos (by omega), if_neg h0, if_neg h1, if_pos h2, h2,
      Nat.add_sub_cancel_left]
    exact UInt8.toNat_mod (m.register x) 10
  · rw [if_neg (by omega), if_neg h0, if_neg h1, if_neg h2]

theorem length_take_registers (m : Machine) (x : Register) :
    (m.v.toList.take (x.val + 1)).length = x.val + 1 := by
  have hx := x.isLt
  rw [List.length_take, Vector.length_toList]
  omega

/-- The registers up to `Vx` are written, in order. -/
theorem cell_storeRegisters {x : Register} {memory : Memory}
    (h : m.memory.write m.i (m.v.toList.take (x.val + 1)) = .ok memory)
    (a : Nat) :
    { m with memory }.cell a = cell m (.storeRegisters x) a := by
  rw [Machine.cell_write h, length_take_registers]
  show _ = if m.i.toNat ≤ a ∧ a ≤ m.i.toNat + x.val then
      m.value (Fin.ofNat 16 (a - m.i.toNat))
    else m.cell a
  by_cases hin : m.i.toNat ≤ a ∧ a ≤ m.i.toNat + x.val
  · have hx := x.isLt
    have hj : a - m.i.toNat < x.val + 1 := by omega
    have hj16 : a - m.i.toNat < 16 := by omega
    rw [if_pos (by omega), if_pos hin]
    simp only [Machine.value, Machine.register, Fin.getElem_fin, Fin.val_ofNat,
      Nat.mod_eq_of_lt hj16]
    rw [List.getD_eq_getElem?_getD, List.getElem?_take_of_lt hj,
      Vector.getElem?_toList, Vector.getElem?_eq_getElem hj16]
    rfl
  · rw [if_neg (by omega), if_neg hin]

/-- The registers up to `Vx` are loaded, in order. -/
theorem value_loadRegisters {x : Register} {values : List UInt8}
    (h : m.memory.read m.i (x.val + 1) = .ok values) (r : Register) :
    (m.setRegisters values).value r = register m (.loadRegisters x) r := by
  have hlength := Memory.length_of_read h
  show ((m.setRegisters values).register r).toNat =
    if r ≤ x then m.cell (m.i.toNat + r.val) else m.value r
  rw [Machine.register_setRegisters]
  by_cases hr : r ≤ x
  · rw [if_pos hr]
    exact Machine.getD_read h (Nat.lt_succ_of_le hr) _
  · have hnone : values[r.val]? = none :=
      List.getElem?_eq_none (hlength ▸ Nat.lt_of_not_le hr)
    rw [if_neg hr, List.getD_eq_getElem?_getD, hnone, Option.getD_none]
    rfl

/-- Keys are looked at as the table says. -/
theorem keyHeld_eq_keyDown (m : Machine) (k : Keypad) (x : Register) :
    m.keyHeld k x = keyDown m k x := by
  have hiff : m.register x < 16 ↔ m.value x < 16 := UInt8.lt_iff_toNat_lt
  unfold Machine.keyHeld keyDown Key.ofValue?
  by_cases h : m.register x < 16
  · rw [if_pos h, decide_eq_true (hiff.mp h), Bool.true_and]
  · rw [if_neg h, decide_eq_false (fun hlt => h (hiff.mpr hlt)),
      Bool.false_and]

/-- An instruction that runs into no trap is carried out as the table says, and
the keypad is left alone. -/
theorem execute_of_trap?_eq_none (k : Keypad) (hkey : ∀ x, i ≠ .awaitKey x)
    (h : trap? m i = none) :
    ∃ flow after, m.execute k i = .ok (flow, after, k) ∧
      Carried m i after ∧ (flow.target m.pc).toNat = pc m k i := by
  have hnext := Flow.toNat_target_next m.pc
  have hskip (condition : Bool) := Flow.toNat_target_skipIf condition m.pc
  have hjump := Flow.toNat_target_jump m.pc
  cases i with
  | clear => exact ⟨_, _, rfl, {}, hnext⟩
  | ret =>
      cases hp : m.stack.pop? with
      | none =>
          have hdepth := CallStack.pop?_eq_none_iff.mp hp
          simp [trap?, hdepth] at h
      | some popped =>
          obtain ⟨caller, stack⟩ := popped
          have hcallers := CallStack.callers_of_pop? hp
          refine ⟨.jump (caller + 2), { m with stack }, ?_, ?_, ?_⟩
          · simp only [Machine.execute, hp]
          · exact { callers := by simp only [callers, hcallers, List.tail_cons] }
          · simp only [pc, hcallers, List.headD_cons]
            exact UInt16.toNat_add caller 2
  | jump target => exact ⟨_, _, rfl, {}, hjump target⟩
  | call target =>
      cases hp : m.stack.push? m.pc with
      | none =>
          have hdepth := CallStack.push?_eq_none_iff.mp hp
          simp [trap?, hdepth] at h
      | some stack =>
          have hcallers := CallStack.callers_of_push? hp
          refine ⟨.jump (UInt16.ofNat target.val), { m with stack }, ?_, ?_, ?_⟩
          · simp only [Machine.execute, hp]
          · exact { callers := hcallers }
          · exact hjump target
  | skipIfByte x nn =>
      refine ⟨_, _, rfl, {}, ?_⟩
      rw [hskip, decide_eq_decide.mpr UInt8.toNat_inj.symm]
      rfl
  | skipUnlessByte x nn =>
      refine ⟨_, _, rfl, {}, ?_⟩
      rw [hskip, decide_eq_decide.mpr (not_congr UInt8.toNat_inj.symm)]
      rfl
  | skipIfSame x y =>
      refine ⟨_, _, rfl, {}, ?_⟩
      rw [hskip, decide_eq_decide.mpr UInt8.toNat_inj.symm]
      rfl
  | setByte x nn =>
      exact ⟨_, _, rfl,
        { register := fun r => m.value_setRegister x r nn }, hnext⟩
  | addByte x nn =>
      refine ⟨_, _, rfl, { register := fun r => ?_ }, hnext⟩
      rw [Machine.value_setRegister, UInt8.toNat_add]
      rfl
  | alu op x y =>
      refine ⟨_, _, rfl, ?_, hnext⟩
      rw [Machine.combine_eq]
      exact { register := fun r => m.value_combine op x y r }
  | skipUnlessSame x y =>
      refine ⟨_, _, rfl, {}, ?_⟩
      rw [hskip, decide_eq_decide.mpr (not_congr UInt8.toNat_inj.symm)]
      rfl
  | setIndex target =>
      exact ⟨_, _, rfl, { index := hjump target }, hnext⟩
  | jumpBy base =>
      refine ⟨_, _, rfl, {}, ?_⟩
      have hbase := base.isLt
      have hoffset := (m.register 0).toNat_lt
      show (UInt16.ofNat base.val + (m.register 0).toUInt16).toNat =
        base.val + (m.register 0).toNat
      rw [UInt16.toNat_add, UInt16.toNat_ofNat', UInt8.toNat_toUInt16]
      omega
  | random x nn =>
      refine ⟨_, _, rfl, { register := fun r => ?_ }, hnext⟩
      rw [Machine.value_setRegister, UInt8.toNat_and]
      rfl
  | draw x y n =>
      obtain ⟨sprite, hsprite⟩ := Memory.read_eq_ok_iff.mpr (le_of_outside? h)
      have hdrawn := drawn_of_read (x := x) (y := y) hsprite
      refine ⟨.next, { m with framebuffer := (drawn m x y n).2 }.setRegister
        flagRegister (Alu.flag (drawn m x y n).1), ?_, ?_, hnext⟩
      · simp only [Machine.execute, hsprite, hdrawn]
      · refine { register := fun r => ?_ }
        rw [Machine.value_setRegister, Alu.toNat_flag]
        rfl
  | skipIfHeld x =>
      refine ⟨_, _, rfl, {}, ?_⟩
      rw [hskip, keyHeld_eq_keyDown]
      rfl
  | skipUnlessHeld x =>
      refine ⟨_, _, rfl, {}, ?_⟩
      rw [hskip, keyHeld_eq_keyDown]
      rfl
  | getDelay x =>
      exact ⟨_, _, rfl,
        { register := fun r => m.value_setRegister x r m.delay }, hnext⟩
  | awaitKey x => exact absurd rfl (hkey x)
  | setDelay x => exact ⟨_, _, rfl, {}, hnext⟩
  | setSound x => exact ⟨_, _, rfl, {}, hnext⟩
  | addIndex x =>
      refine ⟨_, _, rfl, { index := ?_ }, hnext⟩
      show (m.i + (m.register x).toUInt16).toNat =
        (m.i.toNat + (m.register x).toNat) % 65536
      rw [UInt16.toNat_add, UInt8.toNat_toUInt16]
  | glyph x =>
      refine ⟨_, _, rfl, { index := ?_ }, hnext⟩
      have hvalue := (m.register x).toNat_lt
      show (0 + UInt16.ofNat (5 * (m.register x).toNat)).toNat =
        5 * (m.register x).toNat
      rw [UInt16.zero_add, UInt16.toNat_ofNat']
      omega
  | storeDecimal x =>
      obtain ⟨memory, hwrite⟩ :=
        Memory.write_eq_ok_iff (m := m.memory) |>.mpr
          (show _ + (decimalDigits (m.register x)).length ≤ _ from
            le_of_outside? h)
      refine ⟨.next, { m with memory }, ?_, ?_, hnext⟩
      · simp only [Machine.execute, hwrite]
      · exact { cell := cell_storeDecimal hwrite
                programLength := Memory.programLength_of_write hwrite }
  | storeRegisters x =>
      have hlength : (m.v.toList.take (x.val + 1)).length = x.val + 1 :=
        length_take_registers m x
      obtain ⟨memory, hwrite⟩ :=
        Memory.write_eq_ok_iff (m := m.memory) |>.mpr
          (show _ + (m.v.toList.take (x.val + 1)).length ≤ _ from
            hlength ▸ le_of_outside? h)
      refine ⟨.next, { m with memory }, ?_, ?_, hnext⟩
      · simp only [Machine.execute, hwrite]
      · exact { cell := cell_storeRegisters hwrite
                programLength := Memory.programLength_of_write hwrite }
  | loadRegisters x =>
      obtain ⟨values, hread⟩ :=
        Memory.read_eq_ok_iff (m := m.memory) |>.mpr (le_of_outside? h)
      refine ⟨.next, m.setRegisters values, ?_, ?_, hnext⟩
      · simp only [Machine.execute, hread]
      · exact { register := value_loadRegisters hread }

/-- An access beyond memory is refused as a whole. -/
theorem lt_of_outside? {length : Nat} {cause : Trap}
    (h : outside? m length = some cause) :
    Memory.size < m.i.toNat + length ∧ cause = .memory ⟨m.i, length⟩ := by
  unfold outside? at h
  split at h
  · cases h
  · cases h
    exact ⟨by omega, rfl⟩

/-- An instruction that runs into a trap is not carried out. -/
theorem execute_of_trap?_eq_some (k : Keypad) {cause : Trap}
    (h : trap? m i = some cause) : m.execute k i = .error cause := by
  cases i with
  | ret =>
      simp only [trap?] at h
      split at h <;> cases h
      have hpop : m.stack.pop? = none :=
        CallStack.pop?_eq_none_iff.mpr (by omega)
      simp only [Machine.execute, hpop]
  | call target =>
      simp only [trap?] at h
      split at h <;> cases h
      have hdepth := m.stack.depth_le_maxDepth
      have hpush : m.stack.push? m.pc = none :=
        CallStack.push?_eq_none_iff.mpr (by omega)
      simp only [Machine.execute, hpush]
  | draw x y n =>
      obtain ⟨hlt, rfl⟩ := lt_of_outside? h
      simp only [Machine.execute, Memory.read_eq_error hlt]
  | storeDecimal x =>
      obtain ⟨hlt, rfl⟩ := lt_of_outside? h
      have hwrite : m.memory.write m.i (decimalDigits (m.register x)) =
          .error ⟨m.i, 3⟩ := Memory.write_eq_error hlt
      simp only [Machine.execute, hwrite]
  | storeRegisters x =>
      obtain ⟨hlt, rfl⟩ := lt_of_outside? h
      have hlength := length_take_registers m x
      have hwrite := Memory.write_eq_error (m := m.memory) (hlength ▸ hlt)
      simp only [Machine.execute, hwrite, hlength]
  | loadRegisters x =>
      obtain ⟨hlt, rfl⟩ := lt_of_outside? h
      simp only [Machine.execute, Memory.read_eq_error hlt]
  | _ => cases h

end Table

end Chip8
