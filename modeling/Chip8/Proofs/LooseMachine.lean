import Chip8.Proofs.Effects
import Chip8.Proofs.InPlace
import Chip8.Proofs.LooseMemory

/-!
# The machine without promises

The type of `Machine` promises that there are sixteen registers and at most
sixteen open calls, so no access to them can go astray.  `LooseMachine` promises
neither, and its memory is a `LooseMemory`.  It has as many registers as it has,
its calls are kept in as many cells as there are, and how many of these are in
use is any number.  A register and a cell are looked up by their positions, and
what is to be an address is reckoned in numbers.  A step breaks down where there
is nothing at a position, or where a number is too large to be an address; only
the index register is meant to wrap around when something is added to it.

What a step is surrounded by is not part of the machine.  It is told the keypad,
and of the display only what that says to a drawing: whether it hit something.

## Main results

* `Machine.loose_execute`, `Machine.loose_step` — an instruction, and a step,
  does to a loose machine what it does otherwise, and does not break down.
* `Machine.told_hit` — what the picture says by itself makes no difference.
-/

namespace Chip8

/-- The sum of two words, if it is a word. -/
def Word.sum? (a b : UInt16) : Option UInt16 :=
  (Framebuffer.below? UInt16.size (a.toNat + b.toNat)).map UInt16.ofNat

/-- The program counter after an instruction at `address`, if there is one. -/
def Flow.target? (address : UInt16) : Flow → Option UInt16
  | next => Word.sum? address 2
  | skip => Word.sum? address 4
  | jump target => some target
  | stall => some address

/-- A machine of which nothing is promised. -/
structure LooseMachine where
  /-- Its memory. -/
  memory : LooseMemory
  /-- Where the next instruction lies. -/
  pc : UInt16
  /-- The general registers. -/
  v : List UInt8
  /-- The index register. -/
  i : UInt16
  /-- Cells for the addresses of calls, the oldest first. -/
  cells : List UInt16
  /-- How many of the cells are in use. -/
  depth : Nat
  /-- The delay timer. -/
  delay : UInt8
  /-- The sound timer. -/
  sound : UInt8
  /-- Where random bytes come from. -/
  random : RandomSource
  /-- The ticket of an instruction that waits for a key. -/
  ticket : Option Ticket
  deriving DecidableEq, Repr

namespace LooseMachine

/-- The value of a register, if there is one. -/
def register? (m : LooseMachine) (x : Register) : Option UInt8 :=
  m.v[x.val]?

/-- Sets a register, if there is one. -/
def setRegister? (m : LooseMachine) (x : Register) (value : UInt8) :
    Option LooseMachine :=
  if x.val < m.v.length then some { m with v := m.v.set x.val value } else none

/-- Combines two registers.  The flag is written after the result. -/
def combine? (m : LooseMachine) (op : Alu) (x y : Register) :
    Option LooseMachine := do
  let (result, flag?) := op.apply (← m.register? x) (← m.register? y)
  let m ← m.setRegister? x result
  match flag? with
  | some flag => m.setRegister? flagRegister flag
  | none => return m

/-- Writes bytes to memory from the index register on. -/
def store (m : LooseMachine) (k : Keypad) (data : List UInt8) :
    Except Trap (Flow × LooseMachine × Keypad) :=
  match m.memory.write m.i data with
  | (.ok (), memory) => .ok (.next, { m with memory }, k)
  | (.error e, _) => .error (.memory e)

/-- Whether the key that a register value names is held. -/
def keyHeld (k : Keypad) (value : UInt8) : Bool :=
  match Key.ofValue? value with
  | some key => k.isHeld key
  | none => false

/-- Carries out an instruction, where the display says `hit` to a drawing.
There is no answer if it breaks down. -/
def execute (m : LooseMachine) (k : Keypad) (hit : Bool) :
    Instruction → Option (Except Trap (Flow × LooseMachine × Keypad))
  | .clear => return .ok (.next, m, k)
  | .ret =>
    if m.depth = 0 then return .error .stackUnderflow
    else do
      let caller ← m.cells[m.depth - 1]?
      let target ← Word.sum? caller 2
      return .ok (.jump target, { m with depth := m.depth - 1 }, k)
  | .jump target => return .ok (.jump (UInt16.ofNat target.val), m, k)
  | .call target =>
    if m.depth = maxDepth then return .error .stackOverflow
    else do
      let cells ← Slice.put? m.cells m.depth [m.pc]
      return .ok (.jump (UInt16.ofNat target.val),
        { m with cells, depth := m.depth + 1 }, k)
  | .skipIfByte x nn => do
    let value ← m.register? x
    return .ok (.skipIf (value = nn), m, k)
  | .skipUnlessByte x nn => do
    let value ← m.register? x
    return .ok (.skipIf (value ≠ nn), m, k)
  | .skipIfSame x y => do
    let (a, b) := (← m.register? x, ← m.register? y)
    return .ok (.skipIf (a = b), m, k)
  | .skipUnlessSame x y => do
    let (a, b) := (← m.register? x, ← m.register? y)
    return .ok (.skipIf (a ≠ b), m, k)
  | .setByte x nn => do
    let m ← m.setRegister? x nn
    return .ok (.next, m, k)
  | .addByte x nn => do
    let m ← m.setRegister? x ((← m.register? x) + nn)
    return .ok (.next, m, k)
  | .alu op x y => do
    let m ← m.combine? op x y
    return .ok (.next, m, k)
  | .setIndex target =>
    return .ok (.next, { m with i := UInt16.ofNat target.val }, k)
  | .jumpBy base => do
    let value ← m.register? 0
    let target ← Word.sum? (UInt16.ofNat base.val) value.toUInt16
    return .ok (.jump target, m, k)
  | .random x nn => do
    let (byte, random) := m.random.next
    let m ← { m with random }.setRegister? x (byte &&& nn)
    return .ok (.next, m, k)
  | .draw x y n =>
    match m.memory.read m.i n.val with
    | .ok _ => do
      -- What is at these registers is all that the display gets to know.
      let _ ← m.register? x
      let _ ← m.register? y
      let m ← m.setRegister? flagRegister (Alu.flag hit)
      return .ok (.next, m, k)
    | .error e => return .error (.memory e)
  | .skipIfHeld x => do
    let value ← m.register? x
    return .ok (.skipIf (keyHeld k value), m, k)
  | .skipUnlessHeld x => do
    let value ← m.register? x
    return .ok (.skipIf !keyHeld k value, m, k)
  | .getDelay x => do
    let m ← m.setRegister? x m.delay
    return .ok (.next, m, k)
  | .awaitKey x =>
    match AwaitKey.attempt m.ticket k with
    | (some value, ticket, k) => do
      let m ← { m with ticket }.setRegister? x value
      return .ok (.next, m, k)
    | (none, ticket, k) => return .ok (.stall, { m with ticket }, k)
  | .setDelay x => do
    let delay ← m.register? x
    return .ok (.next, { m with delay }, k)
  | .setSound x => do
    let sound ← m.register? x
    return .ok (.next, { m with sound }, k)
  | .addIndex x => do
    let value ← m.register? x
    return .ok (.next, { m with i := m.i + value.toUInt16 }, k)
  | .glyph x => do
    let value ← m.register? x
    let offset ← Framebuffer.below? UInt16.size
      (Font.glyphHeight * value.toNat)
    let address ← Framebuffer.below? UInt16.size (Font.start.toNat + offset)
    return .ok (.next, { m with i := UInt16.ofNat address }, k)
  | .storeDecimal x => do
    let value ← m.register? x
    return m.store k (decimalDigits value)
  | .storeRegisters x => do
    let data ← Slice.get? m.v 0 (x.val + 1)
    return m.store k data
  | .loadRegisters x =>
    match m.memory.read m.i (x.val + 1) with
    | .ok values => do
      let v ← Slice.put? m.v 0 values
      return .ok (.next, { m with v }, k)
    | .error e => return .error (.memory e)

/-- Fetches the word at the program counter. -/
def fetch? (m : LooseMachine) : Option (Except OutOfRange UInt16) :=
  match m.memory.read m.pc 2 with
  | .error e => return .error e
  | .ok bytes => return .ok (Word.ofBytes (← bytes[0]?) (← bytes[1]?))

/-- Runs the instruction at the program counter. -/
def step (m : LooseMachine) (k : Keypad) (hit : Bool) :
    Option (Except Fault (LooseMachine × Keypad)) := do
  match ← m.fetch? with
  | .error e => return .error (.fetch m.pc e)
  | .ok opcode =>
    match Instruction.decode opcode with
    | none => return .error (.unknownInstruction m.pc opcode)
    | some i =>
      match ← m.execute k hit i with
      | .error cause => return .error (.trap m.pc opcode cause)
      | .ok (flow, after, k) =>
        let pc ← flow.target? m.pc
        return .ok ({ after with pc }, k)

/-- A frame has passed: both timers come one nearer to zero. -/
def countDown (m : LooseMachine) : LooseMachine :=
  { m with
    delay := UInt8.ofNat (m.delay.toNat - 1)
    sound := UInt8.ofNat (m.sound.toNat - 1) }

/-- A machine that is about to start the program of an image, unless that cannot
be loaded. -/
def start? (image : List Chunk) (seed : UInt64) :
    Option (Except LoadError LooseMachine) := do
  let fresh ← LooseMemory.fresh?
  let (outcome, memory) ← fresh.load image
  return outcome.map fun _ =>
    { memory
      pc := Memory.programStart
      v := List.replicate 16 0
      i := 0
      cells := List.replicate maxDepth 0
      depth := 0
      delay := 0
      sound := 0
      random := { seed }
      ticket := none }

end LooseMachine

/-! ## What there has to be -/

/-- Two words whose sum is in range have a sum. -/
theorem Word.sum?_of_lt {a b : UInt16} (h : a.toNat + b.toNat < UInt16.size) :
    sum? a b = some (a + b) := by
  rw [sum?, Framebuffer.below?, if_pos h, Option.map_some, UInt16.ofNat_add,
    UInt16.ofNat_toNat, UInt16.ofNat_toNat]

/-- Behind an instruction that could be fetched there is room for addresses. -/
theorem Flow.target?_of_le {address : UInt16}
    (h : address.toNat + 2 ≤ Memory.size) (flow : Flow) :
    flow.target? address = some (flow.target address) := by
  have hsize : Memory.size = 4096 := rfl
  have hlimit : UInt16.size = 65536 := rfl
  have htwo : (2 : UInt16).toNat = 2 := rfl
  have hfour : (4 : UInt16).toNat = 4 := rfl
  cases flow with
  | next => exact Word.sum?_of_lt (by omega)
  | skip => exact Word.sum?_of_lt (by omega)
  | jump target => rfl
  | stall => rfl

namespace Machine

variable {m : Machine} {k : Keypad} {unused : List UInt16}

/-- A machine without its promises.  Cells that are not in use hold what they
hold. -/
def loose (m : Machine) (unused : List UInt16) : LooseMachine where
  memory := m.memory.loose
  pc := m.pc
  v := m.v.toList
  i := m.i
  cells := m.stack.callers.reverse ++ unused
  depth := m.stack.depth
  delay := m.delay
  sound := m.sound
  random := m.random
  ticket := m.ticket

/-- Every register is there. -/
theorem lt_length_loose_v (m : Machine) (unused : List UInt16) (x : Register) :
    x.val < (m.loose unused).v.length := by
  show x.val < m.v.toList.length
  rw [Vector.length_toList]
  exact x.isLt

/-- Every register can be looked at. -/
theorem loose_register? (m : Machine) (unused : List UInt16) (x : Register) :
    (m.loose unused).register? x = some (m.register x) := by
  rw [LooseMachine.register?,
    List.getElem?_eq_getElem (m.lt_length_loose_v unused x)]
  exact congrArg some (Vector.getElem_toList _)

/-- Every register can be set. -/
theorem loose_setRegister? (m : Machine) (unused : List UInt16) (x : Register)
    (value : UInt8) :
    (m.loose unused).setRegister? x value =
      some ((m.setRegister x value).loose unused) := by
  rw [LooseMachine.setRegister?, if_pos (m.lt_length_loose_v unused x)]
  simp only [loose, setRegister, Vector.toList_set]

theorem loose_combine? (m : Machine) (unused : List UInt16) (op : Alu)
    (x y : Register) :
    (m.loose unused).combine? op x y =
      some ((m.combine op x y).loose unused) := by
  simp only [LooseMachine.combine?, loose_register?, loose_setRegister?,
    Option.bind_eq_bind, Option.bind_some, combine]
  cases (op.apply (m.register x) (m.register y)).2 <;> rfl

/-- The bytes at the index register are read as they are otherwise. -/
theorem loose_read (m : Machine) (unused : List UInt16) (length : Nat) :
    (m.loose unused).memory.read (m.loose unused).i length =
      m.memory.read m.i length :=
  m.memory.loose_read m.i length

theorem loose_store (m : Machine) (unused : List UInt16) (k : Keypad)
    (data : List UInt8) :
    (m.loose unused).store k data =
      match m.memory.write m.i data with
      | .ok memory => .ok (.next, { m with memory }.loose unused, k)
      | .error e => .error (.memory e) := by
  rw [LooseMachine.store]
  show (match m.memory.loose.write m.i data with
    | (.ok (), memory) => _
    | (.error e, _) => _) = _
  rw [Memory.loose_write]
  cases m.memory.write m.i data <;> rfl

/-- The first registers can be looked at. -/
theorem loose_get? (m : Machine) (unused : List UInt16) (x : Register) :
    Slice.get? (m.loose unused).v 0 (x.val + 1) =
      some (m.v.toList.take (x.val + 1)) := by
  have hx := m.lt_length_loose_v unused x
  rw [Slice.get?, if_pos (by omega), List.drop_zero]
  rfl

/-- The first registers can be set. -/
theorem loose_put? (m : Machine) (unused : List UInt16) {values : List UInt8}
    (h : values.length ≤ 16) :
    Slice.put? (m.loose unused).v 0 values =
      some ((m.setRegisters values).loose unused).v :=
  Memory.put?_toList m.v (by rwa [Nat.zero_add])

/-- Of two values for one register the later one stays. -/
theorem setRegister_setRegister (m : Machine) (x : Register)
    (first second : UInt8) :
    (m.setRegister x first).setRegister x second = m.setRegister x second := by
  simp only [setRegister, Vector.set_set]

/-- The machine after an instruction, where the display says `hit` to a
drawing. -/
def told (m : Machine) (hit : Bool) : Option Instruction → Machine
  | some (.draw _ _ _) => m.setRegister flagRegister (Alu.flag hit)
  | _ => m

/-- Where nothing is done to the open calls, an instruction does to a loose
machine what it does otherwise. -/
theorem loose_execute_of_kept (m : Machine) (k : Keypad) (hit : Bool)
    (unused : List UInt16) {i : Instruction} (hcall : i.isCall = false)
    (hret : i ≠ .ret) :
    (m.loose unused).execute k hit i =
      some ((m.execute k i).map fun (flow, after, k') =>
        (flow, (after.told hit (some i)).loose unused, k')) := by
  cases i with
  | clear => rfl
  | ret => exact absurd rfl hret
  | jump target => rfl
  | call target => cases hcall
  | skipIfByte x nn =>
      simp only [LooseMachine.execute, loose_register?]
      rfl
  | skipUnlessByte x nn =>
      simp only [LooseMachine.execute, loose_register?]
      rfl
  | skipIfSame x y =>
      simp only [LooseMachine.execute, loose_register?]
      rfl
  | skipUnlessSame x y =>
      simp only [LooseMachine.execute, loose_register?]
      rfl
  | setByte x nn =>
      simp only [LooseMachine.execute, loose_setRegister?]
      rfl
  | addByte x nn =>
      simp only [LooseMachine.execute, loose_register?, Option.bind_eq_bind,
        Option.bind_some, loose_setRegister?]
      rfl
  | alu op x y =>
      simp only [LooseMachine.execute, loose_combine?]
      rfl
  | setIndex target => rfl
  | jumpBy base =>
      have htarget : Word.sum? (UInt16.ofNat base.val)
          (m.register 0).toUInt16 =
          some (UInt16.ofNat base.val + (m.register 0).toUInt16) := by
        have hvalue := (m.register 0).toNat_lt
        have hbase := base.isLt
        apply Word.sum?_of_lt
        rw [UInt16.toNat_ofNat', UInt8.toNat_toUInt16]
        unfold UInt16.size
        omega
      simp only [LooseMachine.execute, loose_register?, Option.bind_eq_bind,
        Option.bind_some, htarget]
      rfl
  | random x nn =>
      show ({ m with random := m.random.next.2 }.loose unused).setRegister? x
        (m.random.next.1 &&& nn) >>= _ = _
      rw [loose_setRegister?]
      rfl
  | draw x y n =>
      simp only [LooseMachine.execute, loose_read, execute]
      cases m.memory.read m.i n.val with
      | error e => rfl
      | ok sprite =>
          simp only [loose_register?, loose_setRegister?, Option.bind_eq_bind,
            Option.bind_some, Except.map, told, setRegister_setRegister]
          rfl
  | skipIfHeld x =>
      simp only [LooseMachine.execute, loose_register?]
      rfl
  | skipUnlessHeld x =>
      simp only [LooseMachine.execute, loose_register?]
      rfl
  | getDelay x =>
      simp only [LooseMachine.execute, loose_setRegister?]
      rfl
  | awaitKey x =>
      show (match AwaitKey.attempt m.ticket k with
        | (some value, ticket, k) => _
        | (none, ticket, k) => _) = _
      simp only [execute]
      rcases AwaitKey.attempt m.ticket k with ⟨_ | value, ticket, k'⟩
      · rfl
      · show ({ m with ticket }.loose unused).setRegister? x value >>= _ = _
        rw [loose_setRegister?]
        rfl
  | setDelay x =>
      simp only [LooseMachine.execute, loose_register?]
      rfl
  | setSound x =>
      simp only [LooseMachine.execute, loose_register?]
      rfl
  | addIndex x =>
      simp only [LooseMachine.execute, loose_register?]
      rfl
  | glyph x =>
      obtain ⟨hoffset, haddress⟩ := InPlace.below_glyph (m.register x)
      simp only [LooseMachine.execute, loose_register?, Option.bind_eq_bind,
        Option.bind_some, hoffset, haddress, execute, InPlace.address_eq_ofNat]
      rfl
  | storeDecimal x =>
      simp only [LooseMachine.execute, loose_register?, Option.bind_eq_bind,
        Option.bind_some, loose_store, execute]
      cases m.memory.write m.i (decimalDigits (m.register x)) <;> rfl
  | storeRegisters x =>
      simp only [LooseMachine.execute, loose_get?, Option.bind_eq_bind,
        Option.bind_some, loose_store, execute]
      cases m.memory.write m.i (m.v.toList.take (x.val + 1)) <;> rfl
  | loadRegisters x =>
      simp only [LooseMachine.execute, loose_read, execute]
      cases hread : m.memory.read m.i (x.val + 1) with
      | error e => rfl
      | ok values =>
          have hfits : values.length ≤ 16 := by
            rw [Memory.length_of_read hread]
            exact x.isLt
          simp only [loose_put? m unused hfits]
          rfl

/-- A call finds its cell. -/
theorem loose_execute_call (k : Keypad) (hit : Bool) {target : Place}
    (hroom : m.stack.depth + unused.length = maxDepth) :
    (m.loose unused).execute k hit (.call target) =
      some ((m.execute k (.call target)).map fun (flow, after, k') =>
        (flow, after.loose unused.tail, k')) := by
  simp only [LooseMachine.execute, execute]
  cases hpush : m.stack.push? m.pc with
  | none =>
      have hfull : (m.loose unused).depth = maxDepth :=
        CallStack.push?_eq_none_iff.mp hpush
      rw [if_pos hfull]
      rfl
  | some stack =>
      have hcallers := CallStack.callers_of_push? hpush
      have hnot : ¬ (m.loose unused).depth = maxDepth := by
        intro hfull
        rw [CallStack.push?_eq_none_iff.mpr hfull] at hpush
        cases hpush
      rw [if_neg hnot]
      cases unused with
      | nil => exact absurd hroom hnot
      | cons cell rest =>
          have hcells : Slice.put? (m.loose (cell :: rest)).cells
              (m.loose (cell :: rest)).depth [m.pc] =
              some (stack.callers.reverse ++ rest) := by
            have hsplit : (m.loose (cell :: rest)).cells =
                m.stack.callers.reverse ++ [cell] ++ rest :=
              (List.append_cons _ _ _)
            rw [hsplit, hcallers, List.reverse_cons]
            exact Slice.put?_append List.length_reverse.symm rfl
          have hdepth : m.stack.depth + 1 = stack.depth := by
            rw [CallStack.depth, CallStack.depth, hcallers, List.length_cons]
          show (Slice.put? (m.loose (cell :: rest)).cells
            (m.loose (cell :: rest)).depth [m.pc] >>= _) = _
          rw [hcells]
          show some (Except.ok (_, { m.loose (cell :: rest) with
            cells := stack.callers.reverse ++ rest
            depth := m.stack.depth + 1 }, k)) = _
          rw [hdepth]
          rfl

/-- A return finds the newest call, and goes on behind it. -/
theorem loose_execute_ret (k : Keypad) (hit : Bool)
    (hcallers : ∀ caller ∈ m.stack.callers, caller.toNat + 2 < UInt16.size) :
    (m.loose unused).execute k hit .ret =
      some ((m.execute k .ret).map fun (flow, after, k') =>
        (flow, after.loose (m.stack.callers.head?.toList ++ unused), k')) := by
  simp only [LooseMachine.execute, execute]
  cases hpop : m.stack.pop? with
  | none =>
      have hempty : (m.loose unused).depth = 0 :=
        CallStack.pop?_eq_none_iff.mp hpop
      rw [if_pos hempty]
      rfl
  | some popped =>
      obtain ⟨caller, stack⟩ := popped
      have hstack := CallStack.callers_of_pop? hpop
      have hdepth : m.stack.depth = stack.depth + 1 := by
        rw [CallStack.depth, CallStack.depth, hstack, List.length_cons]
      have hcells : (m.loose unused).cells =
          stack.callers.reverse ++ caller :: unused := by
        show m.stack.callers.reverse ++ unused = _
        rw [hstack, List.reverse_cons, List.append_assoc]
        rfl
      have hcaller : (m.loose unused).cells[(m.loose unused).depth - 1]? =
          some caller := by
        show (m.loose unused).cells[m.stack.depth - 1]? = _
        rw [hcells, hdepth, Nat.add_sub_cancel, CallStack.depth,
          ← List.length_reverse, List.getElem?_append_right (Nat.le_refl _),
          Nat.sub_self, List.getElem?_cons_zero]
      have htarget : Word.sum? caller 2 = some (caller + 2) :=
        Word.sum?_of_lt (hcallers caller (hstack ▸ List.mem_cons_self))
      have hopen : ¬ (m.loose unused).depth = 0 := by
        show ¬ m.stack.depth = 0
        omega
      rw [if_neg hopen, hcaller, hstack]
      simp only [Option.bind_eq_bind, Option.bind_some, htarget]
      have hafter : { m.loose unused with depth := m.stack.depth - 1 } =
          { m with stack }.loose (caller :: unused) := by
        show { m.loose unused with
          cells := (m.loose unused).cells, depth := m.stack.depth - 1 } = _
        rw [hcells, hdepth]
        rfl
      exact congrArg
        (fun after => some (Except.ok (Flow.jump (caller + 2), after, k)))
        hafter

/-- An instruction does to a loose machine what it does otherwise, where there
is a cell for every call that can be open and an address behind every call that
is.  It leaves a cell for every call. -/
theorem loose_execute (m : Machine) (k : Keypad) (hit : Bool) (i : Instruction)
    (hcallers : ∀ caller ∈ m.stack.callers, caller.toNat + 2 < UInt16.size)
    (hroom : m.stack.depth + unused.length = maxDepth) :
    ∃ left,
      (m.loose unused).execute k hit i =
        some ((m.execute k i).map fun (flow, after, k') =>
          (flow, (after.told hit (some i)).loose left, k')) ∧
      ∀ flow after k', m.execute k i = .ok (flow, after, k') →
        after.stack.depth + left.length = maxDepth := by
  by_cases hret : i = .ret
  · subst hret
    refine ⟨_, loose_execute_ret k hit hcallers, fun flow after k' h => ?_⟩
    obtain ⟨caller, hstack, _⟩ := of_execute_ret h
    rw [CallStack.depth, hstack, List.length_cons] at hroom
    rw [CallStack.depth, hstack]
    show _ + (unused.length + 1) = maxDepth
    omega
  cases hcall : i.isCall with
  | true =>
      obtain ⟨target, rfl⟩ := Instruction.exists_of_isCall hcall
      refine ⟨_, loose_execute_call k hit hroom, fun flow after k' h => ?_⟩
      have hdepth := after.stack.depth_le
      rw [of_execute_call h, List.length_cons] at hdepth
      rw [CallStack.depth] at hroom
      rw [CallStack.depth, of_execute_call h, List.length_cons,
        List.length_tail]
      omega
  | false =>
      refine ⟨_, loose_execute_of_kept m k hit unused hcall hret,
        fun flow after k' h => ?_⟩
      rw [CallStack.depth, callers_of_execute hcall hret h]
      exact hroom

/-- A fetch finds both of its bytes. -/
theorem loose_fetch? (m : Machine) (unused : List UInt16) :
    (m.loose unused).fetch? = some (m.memory.word m.pc) := by
  have hread := m.memory.loose_read m.pc 2
  show (match m.memory.loose.read m.pc 2 with
    | .error e => _
    | .ok bytes => _) = _
  rw [hread]
  cases hword : m.memory.word m.pc with
  | error e =>
      obtain ⟨hroom, rfl⟩ := Memory.of_word_eq_error hword
      rw [Memory.read_eq_error hroom]
      rfl
  | ok opcode =>
      obtain ⟨data, hdata⟩ :=
        Memory.read_eq_ok_iff.mpr (Memory.le_of_word_eq_ok hword)
      obtain ⟨high, low, rfl⟩ :=
        List.length_eq_two.mp (Memory.length_of_read hdata)
      cases (Memory.word_of_read hdata).symm.trans hword
      rw [hdata]
      rfl

/-- Where the program counter is makes no difference to what the display
says. -/
theorem told_setPc (m : Machine) (hit : Bool) (i? : Option Instruction)
    (pc : UInt16) :
    { m with pc }.told hit i? = { m.told hit i? with pc } := by
  unfold told
  split <;> rfl

/-- A step does to a loose machine what it does otherwise. -/
theorem loose_step (m : Machine) (k : Keypad) (hit : Bool)
    (hcallers : ∀ caller ∈ m.stack.callers, caller.toNat + 2 < UInt16.size)
    (hroom : m.stack.depth + unused.length = maxDepth) :
    ∃ left,
      (m.loose unused).step k hit =
        some ((m.step k).map fun (after, k') =>
          ((after.told hit m.next?).loose left, k')) ∧
      ∀ after k', m.step k = .ok (after, k') →
        after.stack.depth + left.length = maxDepth := by
  have hfetch := m.loose_fetch? unused
  cases hword : m.memory.word m.pc with
  | error e =>
      have hstep : m.step k = .error (.fetch m.pc e) := by
        simp only [step, hword]
      refine ⟨unused, ?_, by simp [hstep]⟩
      rw [LooseMachine.step, hfetch, hword, hstep]
      rfl
  | ok opcode =>
      rw [hword] at hfetch
      cases hdecode : Instruction.decode opcode with
      | none =>
          have hstep : m.step k = .error (.unknownInstruction m.pc opcode) := by
            simp only [step, hword, hdecode]
          refine ⟨unused, ?_, by simp [hstep]⟩
          simp only [LooseMachine.step, hfetch, Option.bind_eq_bind,
            Option.bind_some, hdecode, hstep]
          rfl
      | some i =>
          obtain ⟨left, hexecute, hleft⟩ :=
            m.loose_execute k hit i hcallers hroom
          have hstep := step_of_decode k hword hdecode
          cases hresult : m.execute k i with
          | error cause =>
              rw [hresult] at hstep hexecute
              refine ⟨unused, ?_, by simp [hstep]⟩
              simp only [LooseMachine.step, hfetch, Option.bind_eq_bind,
                Option.bind_some, hdecode, hexecute, hstep]
              rfl
          | ok result =>
              obtain ⟨flow, after, k'⟩ := result
              rw [hresult] at hstep hexecute
              refine ⟨left, ?_, fun after' k'' h => ?_⟩
              · have htarget : flow.target? (m.loose unused).pc =
                    some (flow.target m.pc) :=
                  Flow.target?_of_le (Memory.le_of_word_eq_ok hword) flow
                simp only [LooseMachine.step, hfetch, Option.bind_eq_bind,
                  Option.bind_some, hdecode, hexecute, hstep, Except.map,
                  htarget, next?_of_decode hword hdecode, told_setPc]
                rfl
              · cases hstep.symm.trans h
                exact hleft flow after k' hresult

/-! ## What the picture says by itself -/

/-- What the picture says to the instruction that lies at the program
counter. -/
def hit (m : Machine) : Bool :=
  match m.next? with
  | some (.draw x y n) => (Table.drawn m x y n).1
  | _ => false

theorem setRegister_register (m : Machine) (x : Register) :
    m.setRegister x (m.register x) = m := by
  have hset : m.v.set x.val (m.register x) = m.v :=
    Vector.set_getElem_self x.isLt
  rw [setRegister, hset]

/-- A machine that is told what its picture says is the one that it is. -/
theorem told_hit {after : Machine} {k' : Keypad}
    (h : m.step k = .ok (after, k')) : after.told m.hit m.next? = after := by
  obtain ⟨i, hnext, _, heffect⟩ := effect_of_step h
  rw [hit, hnext]
  cases heffect with
  | table hkey htable =>
      cases i with
      | draw x y n =>
          have hflag : Alu.flag (Table.drawn m x y n).1 =
              after.register flagRegister := by
            have hvalue := htable.register flagRegister
            rw [Table.register, if_pos rfl, ← Alu.toNat_flag] at hvalue
            exact (UInt8.toNat_inj.mp hvalue).symm
          show after.setRegister flagRegister
            (Alu.flag (Table.drawn m x y n).1) = after
          rw [hflag, setRegister_register]
      | _ => rfl
  | gotKey x value ticket => rfl
  | stalled x ticket => rfl

end Machine

end Chip8
