import Chip8.Proofs.Console
import Chip8.Proofs.Drawing

/-!
# Instructions in place

`Machine.execute` answers the machine after an instruction, or a trap and no
machine at all.  Here an instruction is work on one machine and one keypad: it
overwrites them part by part and byte by byte, in the order in which it goes
about, and what it has written stays written if it then fails.  Whatever has
no result is a crash: a position that is not there, a number that is too large
for its type, or copying between places of different sizes.

The two agree, so an instruction that fails has not begun to write, and none
crashes, unless it draws on a picture without pixels.

## Main results

* `Work.on_copy` — bytes that are copied one at a time are stored.
* `InPlace.on_carryOut`, `InPlace.on_step` — what an instruction, and a step,
  come to in place.
* `InPlace.on_step_of_error` — a step that fails in place has changed nothing.
-/

namespace Chip8

/-- Why work was not done. -/
inductive Halt (ε : Type) where
  /-- It could not be done, and says why. -/
  | failed (e : ε)
  /-- It broke down on the way. -/
  | crashed
  deriving DecidableEq, Repr

/-- The same halt, with another reason. -/
def Halt.map {δ ε : Type} (f : δ → ε) : Halt δ → Halt ε
  | failed e => failed (f e)
  | crashed => crashed

/-- Work on a machine and its keypad.  What it does to them stays done however
it ends. -/
abbrev Work (ε α : Type) :=
  ExceptT (Halt ε) (StateM (Machine × Keypad)) α

namespace Work

variable {δ ε α : Type}

/-- How work on a machine and a keypad ends, and what it leaves of them. -/
def on (work : Work ε α) (m : Machine) (k : Keypad) :
    Except (Halt ε) α × Machine × Keypad :=
  work.run.run (m, k)

/-- The machine as it is by now. -/
def machine : Work ε Machine :=
  return (← get).1

/-- Overwrites the machine. -/
def change (f : Machine → Machine) : Work ε Unit :=
  modify fun (m, k) => (f m, k)

/-- Gives up, for a reason. -/
def fail (e : ε) : Work ε α :=
  throw (.failed e)

/-- Breaks down. -/
def crash : Work ε α :=
  throw .crashed

/-- Goes on with what there has to be. -/
def demand : Option α → Work ε α
  | some a => pure a
  | none => crash

/-- Goes on with a result, or gives up. -/
def accept (reason : δ → ε) : Except δ α → Work ε α
  | .ok a => pure a
  | .error e => fail (reason e)

/-- The same work, giving up for another reason. -/
def because (f : δ → ε) (work : Work δ α) : Work ε α :=
  ExceptT.adapt (Halt.map f) work

/-- The value of a register. -/
def register (x : Register) : Work ε UInt8 :=
  return (← machine).register x

/-- Sets a register. -/
def setRegister (x : Register) (value : UInt8) : Work ε Unit :=
  change (·.setRegister x value)

/-- Sets the register with a number. -/
def putRegister (j : Nat) (value : UInt8) : Work ε Unit :=
  if j < 16 then change fun m => { m with v := m.v.setIfInBounds j value }
  else crash

/-- Sets the byte at an address. -/
def putByte (a : Nat) (value : UInt8) : Work ε Unit :=
  if a < Memory.size then
    change fun m =>
      { m with memory := { m.memory with
          bytes := m.memory.bytes.setIfInBounds a value } }
  else crash

/-- Copies bytes, one at a time, to places from `start` on. -/
def copy (put : Nat → UInt8 → Work ε Unit) (start : Nat) :
    List UInt8 → Work ε Unit
  | [] => pure ()
  | value :: rest => do
    put start value
    copy put (start + 1) rest

/-- Copies bytes to as many places. -/
def copyAll (put : Nat → UInt8 → Work ε Unit) (start length : Nat)
    (data : List UInt8) : Work ε Unit :=
  if data.length = length then copy put start data else crash

end Work

namespace InPlace

open Work Framebuffer

/-- Numbers that count pixels and bytes are below this. -/
def sizeLimit : Nat := 2 ^ 64

/-- The bytes at the index register. -/
def load (length : Nat) : Work Trap (List UInt8) := do
  let m ← machine
  accept .memory (m.memory.read m.i length)

/-- Writes bytes to memory from the index register on, once it is known that
there is room for them. -/
def store (data : List UInt8) : Work Trap Unit := do
  let m ← machine
  if m.i.toNat + data.length ≤ Memory.size then
    copyAll putByte m.i.toNat data.length data
  else fail (.memory ⟨m.i, data.length⟩)

/-- Looks for a key, and leaves the ticket for the next attempt. -/
def attempt : Work Trap (Option UInt8) := do
  let (m, k) ← get
  let (answer, ticket, k) := AwaitKey.attempt m.ticket k
  set ({ m with ticket }, k)
  return answer

/-- Carries out an instruction.  Answers where to go on. -/
def carryOut : Instruction → Work Trap Flow
  | .clear => do
    change fun m => { m with framebuffer := m.framebuffer.clear }
    return .next
  | .ret => do
    match (← machine).stack.pop? with
    | none => fail .stackUnderflow
    | some (caller, stack) =>
      change ({ · with stack })
      return .jump (caller + 2)
  | .jump target => return .jump (UInt16.ofNat target.val)
  | .call target => do
    let m ← machine
    match m.stack.push? m.pc with
    | none => fail .stackOverflow
    | some stack =>
      change ({ · with stack })
      return .jump (UInt16.ofNat target.val)
  | .skipIfByte x nn => return .skipIf ((← register x) = nn)
  | .skipUnlessByte x nn => return .skipIf ((← register x) ≠ nn)
  | .skipIfSame x y => return .skipIf ((← register x) = (← register y))
  | .skipUnlessSame x y => return .skipIf ((← register x) ≠ (← register y))
  | .setByte x nn => do
    setRegister x nn
    return .next
  | .addByte x nn => do
    setRegister x ((← register x) + nn)
    return .next
  | .alu op x y => do
    let (result, flag?) := op.apply (← register x) (← register y)
    setRegister x result
    match flag? with
    | some flag => setRegister flagRegister flag
    | none => pure ()
    return .next
  | .setIndex target => do
    change ({ · with i := UInt16.ofNat target.val })
    return .next
  | .jumpBy base =>
    return .jump (UInt16.ofNat base.val + (← register 0).toUInt16)
  | .random x nn => do
    let (byte, random) := (← machine).random.next
    change ({ · with random })
    setRegister x (byte &&& nn)
    return .next
  | .draw x y n => do
    let sprite ← load n.val
    let m ← machine
    let (hit, framebuffer) ← demand <|
      m.framebuffer.draw? sizeLimit (m.register x).toNat (m.register y).toNat
        sprite
    change ({ · with framebuffer })
    setRegister flagRegister (Alu.flag hit)
    return .next
  | .skipIfHeld x => do
    let (m, k) ← get
    return .skipIf (m.keyHeld k x)
  | .skipUnlessHeld x => do
    let (m, k) ← get
    return .skipIf !m.keyHeld k x
  | .getDelay x => do
    setRegister x (← machine).delay
    return .next
  | .awaitKey x => do
    match ← attempt with
    | some value =>
      setRegister x value
      return .next
    | none => return .stall
  | .setDelay x => do
    let delay ← register x
    change ({ · with delay })
    return .next
  | .setSound x => do
    let sound ← register x
    change ({ · with sound })
    return .next
  | .addIndex x => do
    let value ← register x
    change fun m => { m with i := m.i + value.toUInt16 }
    return .next
  | .glyph x => do
    let offset ← demand <|
      below? UInt16.size (Font.glyphHeight * (← register x).toNat)
    let address ← demand (below? UInt16.size (Font.start.toNat + offset))
    change ({ · with i := UInt16.ofNat address })
    return .next
  | .storeDecimal x => do
    store (decimalDigits (← register x))
    return .next
  | .storeRegisters x => do
    store ((← machine).v.toList.take (x.val + 1))
    return .next
  | .loadRegisters x => do
    copyAll putRegister 0 (x.val + 1) (← load (x.val + 1))
    return .next

/-- Fetches the word at the program counter. -/
def fetch : Work Fault UInt16 := do
  let m ← machine
  let bytes ← accept (.fetch m.pc) (m.memory.read m.pc 2)
  return Word.ofBytes (← demand bytes[0]?) (← demand bytes[1]?)

/-- Runs the instruction at the program counter. -/
def step : Work Fault Unit := do
  let pc := (← machine).pc
  let opcode ← fetch
  match Instruction.decode opcode with
  | none => fail (.unknownInstruction pc opcode)
  | some instruction =>
    let flow ← because (.trap pc opcode) (carryOut instruction)
    change ({ · with pc := flow.target pc })

end InPlace

/-! ## How work goes on -/

namespace Work

variable {ε α β : Type} {m m' : Machine} {k k' : Keypad}

theorem on_bind_of_ok {work : Work ε α} {a : α} (next : α → Work ε β)
    (h : work.on m k = (.ok a, m', k')) :
    (work >>= next).on m k = (next a).on m' k' := by
  show (ExceptT.bindCont next (work.on m k).1).run (work.on m k).2 = _
  rw [h]
  rfl

theorem on_bind_of_error {work : Work ε α} {e : Halt ε} (next : α → Work ε β)
    (h : work.on m k = (.error e, m', k')) :
    (work >>= next).on m k = (.error e, m', k') := by
  show (ExceptT.bindCont next (work.on m k).1).run (work.on m k).2 = _
  rw [h]
  rfl

theorem on_machine_bind (next : Machine → Work ε β) :
    (machine >>= next).on m k = (next m).on m k := rfl

theorem on_register_bind (x : Register) (next : UInt8 → Work ε β) :
    (register x >>= next).on m k = (next (m.register x)).on m k := rfl

theorem on_because_of_ok {δ : Type} {work : Work δ α} {a : α} (f : δ → ε)
    (h : work.on m k = (.ok a, m', k')) :
    (work.because f).on m k = (.ok a, m', k') := by
  show ((work.on m k).1.mapError (Halt.map f), (work.on m k).2) = _
  rw [h]
  rfl

theorem on_because_of_failed {δ : Type} {work : Work δ α} {e : δ} (f : δ → ε)
    (h : work.on m k = (.error (.failed e), m', k')) :
    (work.because f).on m k = (.error (.failed (f e)), m', k') := by
  show ((work.on m k).1.mapError (Halt.map f), (work.on m k).2) = _
  rw [h]
  rfl

/-- Bytes that are copied one at a time are stored, if each has a place. -/
theorem on_copy {n : Nat} {put : Nat → UInt8 → Work ε Unit}
    (holding : Vector UInt8 n → Machine)
    (hput : ∀ cells j value, j < n → (put j value).on (holding cells) k =
      (.ok (), holding (cells.setIfInBounds j value), k))
    (data : List UInt8) {start : Nat} (h : start + data.length ≤ n)
    (cells : Vector UInt8 n) :
    (copy put start data).on (holding cells) k =
      (.ok (), holding (Memory.store cells start data), k) := by
  induction data generalizing start cells with
  | nil => rfl
  | cons value rest ih =>
      rw [List.length_cons] at h
      rw [copy, on_bind_of_ok _ (hput cells start value (by omega))]
      exact ih (by omega) _

end Work

namespace InPlace

open Work Framebuffer

variable {m : Machine} {k : Keypad}

theorem load_of_ok {length : Nat} {data : List UInt8}
    (h : m.memory.read m.i length = .ok data) :
    (load length).on m k = (.ok data, m, k) := by
  show (accept Trap.memory (m.memory.read m.i length)).on m k = _
  rw [h]
  rfl

theorem load_of_error {length : Nat} {e : OutOfRange}
    (h : m.memory.read m.i length = .error e) :
    (load length).on m k = (.error (.failed (.memory e)), m, k) := by
  show (accept Trap.memory (m.memory.read m.i length)).on m k = _
  rw [h]
  rfl

/-- Bytes for which there is room are written. -/
theorem store_of_ok {data : List UInt8} {memory : Memory}
    (h : m.memory.write m.i data = .ok memory) :
    (store data).on m k = (.ok (), { m with memory }, k) := by
  have hroom := Memory.write_eq_ok_iff.mp ⟨memory, h⟩
  have hput (bytes : Vector UInt8 Memory.size) (a : Nat) (value : UInt8)
      (ha : a < Memory.size) :
      (putByte (ε := Trap) a value).on
          { m with memory := { m.memory with bytes } } k =
        (.ok (),
          { m with memory := { m.memory with
              bytes := bytes.setIfInBounds a value } }, k) := by
    rw [putByte, if_pos ha]
    rfl
  have hcopy := on_copy
    (fun bytes => { m with memory := { m.memory with bytes } }) hput data
    hroom m.memory.bytes
  rw [Memory.write, if_pos hroom] at h
  cases h
  rw [store, on_machine_bind, if_pos hroom, copyAll, if_pos rfl]
  exact hcopy

/-- Bytes for which there is none are refused before the first is written. -/
theorem store_of_error {data : List UInt8} {e : OutOfRange}
    (h : m.memory.write m.i data = .error e) :
    (store data).on m k = (.error (.failed (.memory e)), m, k) := by
  obtain ⟨hroom, rfl⟩ := Memory.of_write_eq_error h
  rw [store, on_machine_bind, if_neg (Nat.not_le_of_lt hroom)]
  rfl

/-- Registers are set one at a time. -/
theorem copyAll_putRegister {values : List UInt8} {length : Nat}
    (hlength : values.length = length) (hfits : length ≤ 16) :
    (copyAll putRegister 0 length values : Work Trap Unit).on m k =
      (.ok (), m.setRegisters values, k) := by
  have hput (v : Vector UInt8 16) (j : Nat) (value : UInt8) (hj : j < 16) :
      (putRegister (ε := Trap) j value).on { m with v } k =
        (.ok (), { m with v := v.setIfInBounds j value }, k) := by
    rw [putRegister, if_pos hj]
    rfl
  rw [copyAll, if_pos hlength]
  exact on_copy (fun v => { m with v }) hput values (by omega) m.v

/-- Every register value names a glyph whose address can be reckoned. -/
theorem below_glyph (value : UInt8) :
    below? UInt16.size (Font.glyphHeight * value.toNat) =
        some (Font.glyphHeight * value.toNat) ∧
      below? UInt16.size (Font.start.toNat + Font.glyphHeight * value.toNat) =
        some (Font.start.toNat + Font.glyphHeight * value.toNat) := by
  have hvalue := value.toNat_lt
  have hstart : Font.start.toNat = 0 := rfl
  have hrows : Font.glyphHeight * value.toNat < UInt16.size := by
    unfold Font.glyphHeight UInt16.size
    omega
  exact ⟨if_pos hrows, if_pos (by omega)⟩

theorem address_eq_ofNat (value : UInt8) :
    Font.address value =
      UInt16.ofNat (Font.start.toNat + Font.glyphHeight * value.toNat) := by
  rw [Font.address, UInt16.ofNat_add, UInt16.ofNat_toNat]

/-- What an instruction can draw stays within the picture. -/
theorem draw?_of_read (hw : 0 < m.framebuffer.resolution.width)
    (hh : 0 < m.framebuffer.resolution.height) (x y : Register) {n : Nibble}
    {sprite : List UInt8} (h : m.memory.read m.i n.val = .ok sprite) :
    m.framebuffer.draw? sizeLimit (m.register x).toNat (m.register y).toNat
        sprite =
      some (m.framebuffer.draw (m.register x).toNat (m.register y).toNat
        sprite) := by
  have hlength := Memory.length_of_read h
  have hx := (m.register x).toNat_lt
  have hy := (m.register y).toNat_lt
  have hn := n.isLt
  apply draw?_eq_some m.framebuffer hw hh <;> unfold sizeLimit <;> omega

/-- An instruction ends in place as it ends otherwise, and leaves the machine
and the keypad as they were if it fails.  Drawing needs a picture that has any
pixels. -/
theorem on_carryOut (m : Machine) (k : Keypad) (i : Instruction)
    (hpixels : ∀ x y n, i = .draw x y n →
      (∃ result, m.execute k i = .ok result) →
        0 < m.framebuffer.resolution.width ∧
          0 < m.framebuffer.resolution.height) :
    (carryOut i).on m k =
      match m.execute k i with
      | .ok (flow, after, k') => (.ok flow, after, k')
      | .error cause => (.error (.failed cause), m, k) := by
  cases i with
  | clear => rfl
  | ret =>
      rw [carryOut, on_machine_bind]
      cases hpop : m.stack.pop? <;> simp only [Machine.execute, hpop] <;> rfl
  | jump target => rfl
  | call target =>
      rw [carryOut, on_machine_bind]
      cases hpush : m.stack.push? m.pc <;>
        simp only [Machine.execute, hpush] <;> rfl
  | skipIfByte x nn => rfl
  | skipUnlessByte x nn => rfl
  | skipIfSame x y => rfl
  | skipUnlessSame x y => rfl
  | setByte x nn => rfl
  | addByte x nn => rfl
  | alu op x y => cases op <;> rfl
  | setIndex target => rfl
  | jumpBy base => rfl
  | random x nn => rfl
  | draw x y n =>
      rw [carryOut]
      cases hread : m.memory.read m.i n.val with
      | error e =>
          rw [on_bind_of_error _ (load_of_error hread)]
          simp only [Machine.execute, hread]
      | ok sprite =>
          simp only [Machine.execute, hread] at hpixels ⊢
          obtain ⟨hw, hh⟩ := hpixels x y n rfl ⟨_, rfl⟩
          rw [on_bind_of_ok _ (load_of_ok hread), on_machine_bind,
            draw?_of_read hw hh x y hread]
          rfl
  | skipIfHeld x => rfl
  | skipUnlessHeld x => rfl
  | getDelay x => rfl
  | awaitKey x =>
      cases hattempt : AwaitKey.attempt m.ticket k with
      | mk answer left =>
          have hon : attempt.on m k =
              (.ok answer, { m with ticket := left.1 }, left.2) := by
            show (Except.ok (AwaitKey.attempt m.ticket k).1,
              { m with ticket := (AwaitKey.attempt m.ticket k).2.1 },
              (AwaitKey.attempt m.ticket k).2.2) = _
            rw [hattempt]
          rw [carryOut, on_bind_of_ok _ hon]
          cases answer <;> simp only [Machine.execute, hattempt] <;> rfl
  | setDelay x => rfl
  | setSound x => rfl
  | addIndex x => rfl
  | glyph x =>
      obtain ⟨hoffset, haddress⟩ := below_glyph (m.register x)
      rw [carryOut, on_register_bind, hoffset]
      show (demand (below? UInt16.size _) >>= _).on m k = _
      rw [haddress]
      simp only [Machine.execute, address_eq_ofNat]
      rfl
  | storeDecimal x =>
      rw [carryOut, on_register_bind]
      cases hwrite : m.memory.write m.i (decimalDigits (m.register x)) with
      | error e =>
          rw [on_bind_of_error _ (store_of_error hwrite)]
          simp only [Machine.execute, hwrite]
      | ok memory =>
          rw [on_bind_of_ok _ (store_of_ok hwrite)]
          simp only [Machine.execute, hwrite]
          rfl
  | storeRegisters x =>
      rw [carryOut, on_machine_bind]
      cases hwrite : m.memory.write m.i (m.v.toList.take (x.val + 1)) with
      | error e =>
          rw [on_bind_of_error _ (store_of_error hwrite)]
          simp only [Machine.execute, hwrite]
      | ok memory =>
          rw [on_bind_of_ok _ (store_of_ok hwrite)]
          simp only [Machine.execute, hwrite]
          rfl
  | loadRegisters x =>
      rw [carryOut]
      cases hread : m.memory.read m.i (x.val + 1) with
      | error e =>
          rw [on_bind_of_error _ (load_of_error hread)]
          simp only [Machine.execute, hread]
      | ok values =>
          have hcopy := copyAll_putRegister (m := m) (k := k)
            (Memory.length_of_read hread) x.isLt
          rw [on_bind_of_ok _ (load_of_ok hread), on_bind_of_ok _ hcopy]
          simp only [Machine.execute, hread]
          rfl

/-! ## Steps -/

theorem fetch_of_ok {opcode : UInt16} (h : m.memory.word m.pc = .ok opcode) :
    fetch.on m k = (.ok opcode, m, k) := by
  obtain ⟨data, hread⟩ :=
    Memory.read_eq_ok_iff.mpr (Memory.le_of_word_eq_ok h)
  obtain ⟨high, low, rfl⟩ := List.length_eq_two.mp (Memory.length_of_read hread)
  cases (Memory.word_of_read hread).symm.trans h
  rw [fetch, on_machine_bind, hread]
  rfl

theorem fetch_of_error {e : OutOfRange} (h : m.memory.word m.pc = .error e) :
    fetch.on m k = (.error (.failed (.fetch m.pc e)), m, k) := by
  obtain ⟨hroom, rfl⟩ := Memory.of_word_eq_error h
  rw [fetch, on_machine_bind, Memory.read_eq_error hroom]
  rfl

/-- A step ends in place as it ends otherwise, and leaves the machine and the
keypad as they were if it fails. -/
theorem on_step (m : Machine) (k : Keypad)
    (hpixels : ∀ x y n, m.next? = some (.draw x y n) →
      (∃ result, m.step k = .ok result) →
        0 < m.framebuffer.resolution.width ∧
          0 < m.framebuffer.resolution.height) :
    step.on m k =
      match m.step k with
      | .ok (after, k') => (.ok (), after, k')
      | .error f => (.error (.failed f), m, k) := by
  rw [step, on_machine_bind]
  cases hword : m.memory.word m.pc with
  | error e =>
      rw [on_bind_of_error _ (fetch_of_error hword)]
      simp only [Machine.step, hword]
  | ok opcode =>
      rw [on_bind_of_ok _ (fetch_of_ok hword)]
      cases hdecode : Instruction.decode opcode with
      | none =>
          simp only [Machine.step, hword, hdecode]
          rfl
      | some i =>
          rw [Machine.step_of_decode k hword hdecode] at hpixels ⊢
          rw [Machine.next?_of_decode hword hdecode] at hpixels
          have hcarry := on_carryOut m k i (by
            rintro x y n hi ⟨result, hresult⟩
            apply hpixels x y n (congrArg some hi)
            rw [hresult]
            exact ⟨_, rfl⟩)
          cases hexecute : m.execute k i with
          | error cause =>
              rw [hexecute] at hcarry
              exact on_bind_of_error _ (on_because_of_failed _ hcarry)
          | ok result =>
              rw [hexecute] at hcarry
              exact on_bind_of_ok _ (on_because_of_ok _ hcarry)

/-- A step that fails has changed nothing. -/
theorem on_step_of_error {f : Fault} (h : m.step k = .error f) :
    step.on m k = (.error (.failed f), m, k) := by
  have hnot : ¬ ∃ result, m.step k = .ok result := by
    rintro ⟨result, hok⟩
    rw [h] at hok
    cases hok
  rw [on_step m k fun _ _ _ _ hok => absurd hok hnot, h]

end InPlace

end Chip8
