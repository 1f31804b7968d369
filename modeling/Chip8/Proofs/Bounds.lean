import Chip8.Proofs.LooseMachine

/-!
# Machines stay within bounds

An instruction that could be fetched lies at `0xFFE` at most.  So that is the
highest address that a call puts on the stack, and a return goes on at `0x1000`
at most.  Further up one gets only by skipping, or by a jump with an offset,
which reaches `0x10FE`; and from there nothing can be fetched.  The two bounds
keep each other up, whatever the program does to memory and to the index
register.

A loose machine that starts a program therefore never breaks down: not in any
surroundings, be it with any keypads and whatever the display says.

## Main results

* `Machine.Bounded.afterEvent`, `Machine.Bounded.afterEvents` — an event, and a
  run, keeps the bounds up.
* `Machine.loose_event?`, `Machine.loose_events?` — in a run a loose machine does
  what a machine does otherwise.
* `Console.machine_acts` — the runs of a console are among these.
* `LooseMachine.never_breaks_down` — what holds at any time in any run.
-/

namespace Chip8

/-! ## What befalls a machine -/

/-- What befalls a machine from its surroundings. -/
inductive Event where
  /-- A frame is gone through. -/
  | frame
  /-- An instruction runs, with the keypad as it is then.  If it draws, the
  display says whether something was hit. -/
  | step (k : Keypad) (hit : Bool)

/-- A loose machine after an event.  A step that fails leaves it as it was. -/
def LooseMachine.event? (m : LooseMachine) : Event → Option LooseMachine
  | .frame => some m.countDown
  | .step k hit =>
    match m.step k hit with
    | none => none
    | some (.ok (after, _)) => some after
    | some (.error _) => some m

/-- A loose machine after some events, one after the other. -/
def LooseMachine.events? (m : LooseMachine) (events : List Event) :
    Option LooseMachine :=
  events.foldlM event? m

namespace Machine

/-- A machine after an event. -/
def afterEvent (m : Machine) : Event → Machine
  | .frame => m.countDown
  | .step k hit =>
    match m.step k with
    | .ok (after, _) => after.told hit m.next?
    | .error _ => m

/-- A machine after some events, one after the other. -/
def afterEvents (m : Machine) (events : List Event) : Machine :=
  events.foldl afterEvent m

end Machine

namespace Console

variable {σ : Type}

/-- What an action is to the machine, if it is anything to it. -/
def event? (c : Console σ) : Action → Option Event
  | .frame => some .frame
  | .step => some (.step c.keypad c.machine.hit)
  | _ => none

/-- What some actions are to the machine, one after the other. -/
def events [Screen σ] (c : Console σ) : List Action → List Event
  | [] => []
  | action :: rest =>
    (c.event? action).toList ++ (c.act action).events rest

end Console

/-! ## The bounds -/

/-- Within this the program counter and the open calls stay. -/
structure Machine.Bounded (m : Machine) : Prop where
  pc : m.pc.toNat ≤ 0x10FE
  callers : ∀ caller ∈ m.stack.callers, caller.toNat ≤ 0xFFE

namespace Table

variable {m : Machine}

/-- No instruction goes on beyond the bound. -/
theorem pc_le (h : m.Bounded) (hfetched : m.pc.toNat ≤ 0xFFE) (k : Keypad)
    (i : Instruction) : pc m k i ≤ 0x10FE := by
  have hnext : (m.pc.toNat + if skips m k i then 4 else 2) % 65536 ≤
      0x10FE := by
    split <;> omega
  cases i with
  | ret =>
      have hcaller : (m.stack.callers.headD 0).toNat ≤ 0xFFE := by
        cases hstack : m.stack.callers with
        | nil => exact Nat.zero_le _
        | cons caller rest =>
            exact h.callers caller (hstack ▸ List.mem_cons_self)
      show ((m.stack.callers.headD 0).toNat + 2) % 65536 ≤ _
      omega
  | jump target =>
      have htarget := target.isLt
      show target.val ≤ _
      omega
  | call target =>
      have htarget := target.isLt
      show target.val ≤ _
      omega
  | jumpBy base =>
      have hbase := base.isLt
      have hoffset := (m.register 0).toNat_lt
      show base.val + (m.register 0).toNat ≤ _
      omega
  | _ => exact hnext

/-- No instruction leaves a call open that lies beyond the bound. -/
theorem callers_le (h : m.Bounded) (hfetched : m.pc.toNat ≤ 0xFFE)
    (i : Instruction) : ∀ caller ∈ callers m i, caller.toNat ≤ 0xFFE := by
  cases i with
  | ret => exact fun caller hmem => h.callers caller (List.mem_of_mem_tail hmem)
  | call target =>
      intro caller hmem
      rcases List.mem_cons.mp hmem with rfl | hmem
      · exact hfetched
      · exact h.callers caller hmem
  | _ => exact h.callers

end Table

namespace Machine

variable {m : Machine}

/-- A step succeeds only where a word can be fetched. -/
theorem pc_le_of_step {k : Keypad} {result : Machine × Keypad}
    (h : m.step k = .ok result) : m.pc.toNat ≤ 0xFFE := by
  obtain ⟨_, _, hfetch, _⟩ := effect_of_step h
  have hsize : Memory.size = 4096 := rfl
  omega

theorem bounded_start (memory : Memory) (resolution : Resolution)
    (seed : UInt64) : (start memory resolution seed).Bounded where
  pc := by
    show (0x200 : UInt16).toNat ≤ 0x10FE
    decide
  callers := nofun

/-- A step that succeeds keeps the bounds up. -/
theorem Bounded.step (h : m.Bounded) {k k' : Keypad} {after : Machine}
    (hstep : m.step k = .ok (after, k')) : after.Bounded := by
  have hfetched := pc_le_of_step hstep
  obtain ⟨i, _, _, heffect⟩ := effect_of_step hstep
  cases heffect with
  | table hkey htable =>
      refine ⟨?_, ?_⟩
      · rw [htable.pc]
        exact Table.pc_le h hfetched k i
      · rw [htable.callers]
        exact Table.callers_le h hfetched i
  | gotKey x value ticket =>
      refine ⟨?_, h.callers⟩
      show (m.pc + 2).toNat ≤ _
      rw [UInt16.toNat_add]
      show (m.pc.toNat + 2) % 65536 ≤ _
      omega
  | stalled x ticket => exact ⟨h.pc, h.callers⟩

/-- What the display says is no matter of the bounds, nor of the calls. -/
theorem of_told (m : Machine) (hit : Bool) (i? : Option Instruction) :
    (m.told hit i?).pc = m.pc ∧ (m.told hit i?).stack = m.stack := by
  unfold told
  split <;> exact ⟨rfl, rfl⟩

/-- An event keeps the bounds up. -/
theorem Bounded.afterEvent (h : m.Bounded) (e : Event) :
    (m.afterEvent e).Bounded := by
  cases e with
  | frame => exact ⟨h.pc, h.callers⟩
  | step k hit =>
      rw [Machine.afterEvent]
      cases hstep : m.step k with
      | error f => exact h
      | ok result =>
          obtain ⟨after, k'⟩ := result
          have hafter := h.step hstep
          obtain ⟨hpc, hstack⟩ := after.of_told hit m.next?
          refine ⟨?_, ?_⟩
          · show (after.told hit m.next?).pc.toNat ≤ _
            rw [hpc]
            exact hafter.pc
          · show ∀ caller ∈ (after.told hit m.next?).stack.callers, _
            rw [hstack]
            exact hafter.callers

/-- So does a run. -/
theorem Bounded.afterEvents (h : m.Bounded) (events : List Event) :
    (m.afterEvents events).Bounded := by
  induction events generalizing m with
  | nil => exact h
  | cons e rest ih => exact ih (h.afterEvent e)

/-- Where calls are open that are within bounds, there are addresses behind
them. -/
theorem Bounded.behind (h : m.Bounded) :
    ∀ caller ∈ m.stack.callers, caller.toNat + 2 < UInt16.size := by
  intro caller hmem
  have hle := h.callers caller hmem
  have hlimit : UInt16.size = 65536 := rfl
  omega

/-! ## Loose machines in runs -/

/-- An event does to a loose machine what it does otherwise. -/
theorem loose_event? (h : m.Bounded) {unused : List UInt16}
    (hroom : m.stack.depth + unused.length = maxDepth) (e : Event) :
    ∃ left, (m.loose unused).event? e = some ((m.afterEvent e).loose left) ∧
      (m.afterEvent e).stack.depth + left.length = maxDepth := by
  cases e with
  | frame => exact ⟨unused, rfl, hroom⟩
  | step k hit =>
      obtain ⟨left, hloose, hleft⟩ := m.loose_step k hit h.behind hroom
      rw [LooseMachine.event?, Machine.afterEvent, hloose]
      cases hstep : m.step k with
      | error f => exact ⟨unused, rfl, hroom⟩
      | ok result =>
          obtain ⟨after, k'⟩ := result
          refine ⟨left, rfl, ?_⟩
          show (after.told hit m.next?).stack.depth + _ = _
          rw [(after.of_told hit m.next?).2]
          exact hleft after k' hstep

/-- So does a run. -/
theorem loose_events? (h : m.Bounded) {unused : List UInt16}
    (hroom : m.stack.depth + unused.length = maxDepth) (events : List Event) :
    ∃ left,
      (m.loose unused).events? events =
        some ((m.afterEvents events).loose left) ∧
      (m.afterEvents events).stack.depth + left.length = maxDepth := by
  induction events generalizing m unused with
  | nil => exact ⟨unused, rfl, hroom⟩
  | cons e rest ih =>
      obtain ⟨left, hloose, hleft⟩ := loose_event? h hroom e
      rw [LooseMachine.events?, List.foldlM_cons, hloose]
      exact ih (h.afterEvent e) hleft

end Machine

/-! ## Consoles in runs -/

namespace Console

variable {σ : Type} [Screen σ]

/-- What an action does to the machine is what it is to it. -/
theorem machine_act (c : Console σ) (action : Action) :
    (c.act action).machine =
      c.machine.afterEvents (c.event? action).toList := by
  cases action with
  | step =>
      show _ = c.machine.afterEvent (.step c.keypad c.machine.hit)
      rw [Machine.afterEvent]
      cases hmachine : c.machine.step c.keypad with
      | error f =>
          have hstep : c.step = .error f := by
            simp only [Console.step, hmachine]
          rw [act_step_of_error hstep]
      | ok result =>
          obtain ⟨after, k'⟩ := result
          rw [act_step_of_ok (step_eq_ok hmachine)]
          exact (Machine.told_hit hmachine).symm
  | frame =>
      show c.frame.2.machine = _
      rw [c.of_frame.1]
      rfl
  | _ => rfl

/-- What a run does to the machine is what its actions are to it. -/
theorem machine_acts (c : Console σ) (actions : List Action) :
    (c.acts actions).machine = c.machine.afterEvents (c.events actions) := by
  induction actions generalizing c with
  | nil => rfl
  | cons action rest ih =>
      show ((c.act action).acts rest).machine = _
      rw [ih, machine_act, events]
      exact List.foldl_append.symm

end Console

/-! ## Within bounds -/

/-- Where a loose machine is at any time.  Its memory and its registers are as
many as they should be, no more calls are open than there is room for, and they
and the program counter lie where they should.  A step has an answer in any
surroundings, and succeeds only where a word can be fetched. -/
structure LooseMachine.WithinBounds (m : LooseMachine) : Prop where
  memory : m.memory.bytes.length = 4096
  registers : m.v.length = 16
  depth : m.depth ≤ 16
  callers : ∀ j < m.depth,
    ∃ caller, m.cells[j]? = some caller ∧ caller.toNat ≤ 0xFFE
  pc : m.pc.toNat ≤ 0x10FE
  answers : ∀ k hit, m.step k hit ≠ none
  fetched : ∀ k hit result, m.step k hit = some (.ok result) →
    m.pc.toNat ≤ 0xFFE

/-- Where the bounds are kept up, a loose machine is within them. -/
theorem Machine.Bounded.withinBounds {m : Machine} (h : m.Bounded)
    {unused : List UInt16}
    (hroom : m.stack.depth + unused.length = maxDepth) :
    (m.loose unused).WithinBounds where
  memory := Vector.length_toList
  registers := Vector.length_toList
  depth := m.stack.depth_le
  callers := by
    intro j hj
    have hlength : j < m.stack.callers.reverse.length := by
      rw [List.length_reverse]
      exact hj
    refine ⟨m.stack.callers.reverse[j], ?_, ?_⟩
    · show (m.stack.callers.reverse ++ unused)[j]? = _
      rw [List.getElem?_append_left hlength, List.getElem?_eq_getElem hlength]
    · exact h.callers _ (List.mem_reverse.mp (List.getElem_mem hlength))
  pc := h.pc
  answers := by
    intro k hit hnone
    obtain ⟨left, hloose, _⟩ := m.loose_step k hit h.behind hroom
    cases hloose.symm.trans hnone
  fetched := by
    intro k hit result hok
    obtain ⟨left, hloose, _⟩ := m.loose_step k hit h.behind hroom
    cases hstep : m.step k with
    | error f =>
        rw [hstep] at hloose
        cases hloose.symm.trans hok
    | ok stepped => exact pc_le_of_step hstep

/-- Starting a loose machine comes to what starting a machine comes to. -/
theorem LooseMachine.start?_eq {image : List Chunk} {memory : Memory}
    (hload : Memory.fresh.load image = .ok memory) (resolution : Resolution)
    (seed : UInt64) :
    start? image seed =
      some (.ok ((Machine.start memory resolution seed).loose
        (List.replicate maxDepth 0))) := by
  rw [start?, LooseMemory.fresh?_eq]
  show (Memory.fresh.loose.load image >>= _) = _
  rw [Memory.loose_load, hload]
  rfl

/-- **Machines never break down.**  A loose machine that starts a program is
within its bounds after every run, with whatever keypads its steps find and
whatever the display says to its drawings.  So a step never looks for a
register, a cell or a byte that is not there, and never reckons an address that
is too large for a word.  What a console goes through is such a run, its machine
is then where the loose machine is, and it is within the same bounds. -/
theorem LooseMachine.never_breaks_down {σ : Type} [Screen σ]
    {image : List Chunk} {memory : Memory}
    (hload : Memory.fresh.load image = .ok memory) (seed : UInt64) :
    ∃ first, start? image seed = some (.ok first) ∧
      (∀ events, ∃ m, first.events? events = some m ∧ m.WithinBounds) ∧
      ∀ (resolution : Resolution) (screen : σ) (actions : List Action)
        (c : Console σ),
        c = (Console.start memory resolution seed screen).acts actions →
        (∃ unused,
          first.events?
            ((Console.start memory resolution seed screen).events actions) =
            some (c.machine.loose unused)) ∧
          c.machine.Bounded ∧ c.depth ≤ 16 ∧
          ∀ c', c.step = .ok c' → c.machine.pc.toNat ≤ 0xFFE := by
  have hroom (resolution : Resolution) :
      (Machine.start memory resolution seed).stack.depth +
        (List.replicate maxDepth (0 : UInt16)).length = maxDepth := by
    rw [List.length_replicate]
    exact Nat.zero_add maxDepth
  have hstart (resolution : Resolution) :=
    Machine.bounded_start memory resolution seed
  refine ⟨_, start?_eq hload .standard seed, fun events => ?_, ?_⟩
  · obtain ⟨left, hrun, hleft⟩ :=
      Machine.loose_events? (hstart .standard) (hroom .standard) events
    exact ⟨_, hrun, ((hstart .standard).afterEvents events).withinBounds hleft⟩
  · rintro resolution screen actions c rfl
    have hmachine :=
      (Console.start memory resolution seed screen).machine_acts actions
    have hbounded : ((Console.start memory resolution seed screen).acts
        actions).machine.Bounded := by
      rw [hmachine]
      exact (hstart resolution).afterEvents _
    refine ⟨?_, hbounded, CallStack.depth_le_maxDepth _, fun c' hstep => ?_⟩
    · obtain ⟨left, hrun, _⟩ := Machine.loose_events? (hstart resolution)
        (hroom resolution)
        ((Console.start memory resolution seed screen).events actions)
      rw [hmachine]
      exact ⟨left, hrun⟩
    · exact Machine.pc_le_of_step (Console.of_step_eq_ok hstep).1

/-- A program that calls itself and never returns. -/
def recursing : List Chunk :=
  [.data [0x22, 0x00]]

/-- However often it is run, no more than sixteen of its calls are open. -/
theorem LooseMachine.never_breaks_down_recursing :
    ∃ memory first, Memory.fresh.load recursing = .ok memory ∧
      start? recursing 0 = some (.ok first) ∧
      ∀ n, ∃ m, first.events? (List.replicate n (.step {} false)) = some m ∧
        m.depth ≤ 16 := by
  have hload : Memory.fresh.load recursing =
      .ok (.loaded [0x22, 0x00] (by decide)) :=
    Memory.loadBytes_fresh (by decide)
  obtain ⟨first, hfirst, hrun, _⟩ :=
    never_breaks_down (σ := Headless) hload 0
  refine ⟨_, first, hload, hfirst, fun n => ?_⟩
  obtain ⟨m, hm, hbounds⟩ := hrun (List.replicate n (.step {} false))
  exact ⟨m, hm, hbounds.depth⟩

end Chip8
