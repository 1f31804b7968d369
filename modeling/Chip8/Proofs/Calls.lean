import Chip8.Proofs.Action

/-!
# Calls and returns

Only calls and returns touch the stack.  A call puts its own address on top,
and a return takes the top away and goes on behind it.  So what lies on the
stack when a call is made lies there untouched, with the call on top, until a
return takes that call away: nothing in between can reach below it.

## Main results

* `Console.act_stack` — an action calls, returns, or leaves the stack alone.
* `Console.depth_acts` — the depth is the calls less the returns.
* `Console.suffix_acts` — what is on the stack stays there while the stack is
  no lower.
* `Console.calls_bracketed` — returns undo calls in reverse order.
-/

namespace Chip8

namespace CallStack

/-- The caller at a position of the stack, the oldest call being at 0. -/
def callerAt? (s : CallStack) (j : Nat) : Option UInt16 :=
  s.callers.reverse[j]?

/-- Callers are counted from the bottom, so what lies above makes no
difference. -/
theorem callerAt?_of_suffix {s : CallStack} {base : List UInt16} {j : Nat}
    (h : base <:+ s.callers) (hj : j < base.length) :
    s.callerAt? j = base.reverse[j]? := by
  obtain ⟨above, habove⟩ := h
  rw [callerAt?, ← habove, List.reverse_append,
    List.getElem?_append_left (by rwa [List.length_reverse])]

/-- Where a call was made on top of a stack, the callers of that stack are
found, and the new one next to them. -/
theorem callerAt?_of_cons_suffix {s t : CallStack} {caller : UInt16}
    (h : caller :: s.callers <:+ t.callers) :
    (∀ j < s.depth, t.callerAt? j = s.callerAt? j) ∧
      t.callerAt? s.depth = some caller := by
  constructor
  · intro j hj
    rw [callerAt?_of_suffix h (Nat.lt_succ_of_lt hj), List.reverse_cons,
      List.getElem?_append_left (by rwa [List.length_reverse])]
    rfl
  · rw [depth, callerAt?_of_suffix h (Nat.lt_succ_self _), List.reverse_cons,
      ← List.length_reverse, List.getElem?_concat_length]

theorem eq_of_callers {s t : CallStack} (h : s.callers = t.callers) :
    s = t := by
  cases s
  cases t
  cases h
  rfl

end CallStack

/-- Whether an instruction is a call. -/
def Instruction.isCall : Instruction → Bool
  | call _ => true
  | _ => false

theorem Instruction.exists_of_isCall {i : Instruction} (h : i.isCall = true) :
    ∃ target, i = .call target := by
  cases i with
  | call target => exact ⟨target, rfl⟩
  | _ => cases h

/-! ## Instructions -/

namespace Machine

variable {m after : Machine} {k k' : Keypad} {i : Instruction} {flow : Flow}

theorem of_execute_call {target : Place}
    (h : m.execute k (.call target) = .ok (flow, after, k')) :
    after.stack.callers = m.pc :: m.stack.callers := by
  simp only [execute] at h
  split at h
  · next stack hpush =>
      cases h
      exact CallStack.callers_of_push? hpush
  · cases h

theorem of_execute_ret (h : m.execute k .ret = .ok (flow, after, k')) :
    ∃ caller, m.stack.callers = caller :: after.stack.callers ∧
      flow = .jump (caller + 2) := by
  simp only [execute] at h
  split at h
  · next caller stack hpop =>
      cases h
      exact ⟨caller, CallStack.callers_of_pop? hpop, rfl⟩
  · cases h

/-- All other instructions leave the stack alone. -/
theorem callers_of_execute (hcall : i.isCall = false) (hret : i ≠ .ret)
    (h : m.execute k i = .ok (flow, after, k')) :
    after.stack.callers = m.stack.callers := by
  by_cases hkey : ∃ x, i = .awaitKey x
  · obtain ⟨x, rfl⟩ := hkey
    simp only [execute] at h
    split at h <;> cases h <;> rfl
  · have hkey' : ∀ x, i ≠ .awaitKey x := fun x hx => hkey ⟨x, hx⟩
    cases htrap : Table.trap? m i with
    | some cause =>
        rw [Table.execute_of_trap?_eq_some k htrap] at h
        cases h
    | none =>
        obtain ⟨flow', after', hexecute, hcarried, _⟩ :=
          Table.execute_of_trap?_eq_none k hkey' htrap
        cases hexecute.symm.trans h
        rw [hcarried.callers]
        cases i with
        | call target => cases hcall
        | ret => exact absurd rfl hret
        | _ => rfl

end Machine

namespace Console

variable {σ : Type}

/-- A console at the start of a run. -/
def start (memory : Memory) (resolution : Resolution) (seed : UInt64)
    (screen : σ) : Console σ where
  machine := .start memory resolution seed
  screen := screen

/-- How many calls are open. -/
def depth (c : Console σ) : Nat :=
  c.machine.stack.depth

/-- The instruction that an action carries out, if it is a step and
succeeds. -/
def executed? (c : Console σ) : Action → Option Instruction
  | .step =>
    match c.step with
    | .ok _ => c.machine.next?
    | .error _ => none
  | _ => none

/-- The instructions that some actions carry out, one after the other. -/
def executed [Screen σ] (c : Console σ) : List Action → List Instruction
  | [] => []
  | action :: rest =>
    (c.executed? action).toList ++ (c.act action).executed rest

/-- A step that carries an instruction out is seen as that instruction. -/
theorem act_step_of_execute [Screen σ] {c : Console σ} {opcode : UInt16}
    {i : Instruction} {flow : Flow} {after : Machine} {k : Keypad}
    (hword : c.machine.memory.word c.machine.pc = .ok opcode)
    (hdecode : Instruction.decode opcode = some i)
    (hexecute : c.machine.execute c.keypad i = .ok (flow, after, k)) :
    c.executed? .step = some i ∧
      c.act .step =
        { c with
          machine := { after with pc := flow.target c.machine.pc }
          keypad := k } := by
  have hnext := Machine.next?_of_decode hword hdecode
  have hstep := step_of_execute hnext hexecute
  refine ⟨?_, act_step_of_ok hstep⟩
  simp only [executed?, hstep]
  exact hnext

/-- What an action did to the stack, by the instruction that it carried out. -/
inductive StackCase (c c' : Console σ) : Option Instruction → Prop
  | called {target : Place}
    (h : c'.machine.stack.callers = c.machine.pc :: c.machine.stack.callers) :
    StackCase c c' (some (.call target))
  | returned {caller : UInt16}
    (h : c.machine.stack.callers = caller :: c'.machine.stack.callers)
    (hpc : c'.machine.pc = caller + 2) :
    StackCase c c' (some .ret)
  | kept {instruction? : Option Instruction}
    (hother : ∀ i ∈ instruction?, i.isCall = false ∧ i ≠ .ret)
    (h : c'.machine.stack.callers = c.machine.stack.callers) :
    StackCase c c' instruction?

/-- A step that succeeds calls, returns, or leaves the stack alone. -/
theorem stackCase_of_step {c c' : Console σ} (h : c.step = .ok c') :
    StackCase c c' c.machine.next? := by
  obtain ⟨opcode, i, flow, after, hword, hdecode, hexecute, hafter⟩ :=
    Machine.of_step_eq_ok (of_step_eq_ok h).1
  have hstack : c'.machine.stack = after.stack := by rw [hafter]
  rw [Machine.next?_of_decode hword hdecode]
  by_cases hret : i = .ret
  · subst hret
    obtain ⟨caller, hcallers, rfl⟩ := Machine.of_execute_ret hexecute
    exact .returned (by rw [hstack]; exact hcallers) (by rw [hafter]; rfl)
  · cases hcall : i.isCall with
    | true =>
        obtain ⟨target, rfl⟩ := Instruction.exists_of_isCall hcall
        exact .called (by rw [hstack]; exact Machine.of_execute_call hexecute)
    | false =>
        refine .kept (fun j hj => ?_) ?_
        · cases hj
          exact ⟨hcall, hret⟩
        · rw [hstack]
          exact Machine.callers_of_execute hcall hret hexecute

section Runs

variable [Screen σ]

/-- Every action calls, returns, or leaves the stack alone. -/
theorem act_stack (c : Console σ) (action : Action) :
    StackCase c (c.act action) (c.executed? action) := by
  cases action with
  | step =>
      cases hstep : c.step with
      | error f =>
          rw [act_step_of_error hstep]
          simp only [executed?, hstep]
          exact .kept nofun rfl
      | ok c' =>
          rw [act_step_of_ok hstep]
          simp only [executed?, hstep]
          exact stackCase_of_step hstep
  | frame =>
      refine .kept nofun ?_
      show c.frame.2.machine.stack.callers = _
      rw [c.of_frame.1]
      rfl
  | _ => exact .kept nofun rfl

/-- A call puts its address on top. -/
theorem callers_of_executed_call {c : Console σ} {action : Action}
    {target : Place} (h : c.executed? action = some (.call target)) :
    (c.act action).machine.stack.callers =
      c.machine.pc :: c.machine.stack.callers := by
  have hcase := c.act_stack action
  rw [h] at hcase
  cases hcase with
  | called hcallers => exact hcallers
  | kept hother _ => cases (hother _ rfl).1

/-! ## Counting -/

/-- A call adds one to the depth, and a return takes one away. -/
theorem depth_act (c : Console σ) (action : Action) :
    (c.act action).depth + (c.executed? action).toList.count .ret =
      c.depth + (c.executed? action).toList.countP Instruction.isCall := by
  have hcase := c.act_stack action
  generalize c.executed? action = instruction? at hcase
  cases hcase with
  | called h =>
      simp [depth, CallStack.depth, h, Instruction.isCall]
  | returned h hpc =>
      simp [depth, CallStack.depth, h, Instruction.isCall]
  | kept hother h =>
      cases instruction? with
      | none => simp [depth, CallStack.depth, h]
      | some i =>
          obtain ⟨hcall, hret⟩ := hother i rfl
          simp [depth, CallStack.depth, h, hcall, hret]

/-- The depth is what it was, and the calls since, less the returns. -/
theorem depth_acts (c : Console σ) (actions : List Action) :
    (c.acts actions).depth + (c.executed actions).count .ret =
      c.depth + (c.executed actions).countP Instruction.isCall := by
  induction actions generalizing c with
  | nil => rfl
  | cons action rest ih =>
      have hact := c.depth_act action
      have hrest := ih (c.act action)
      show ((c.act action).acts rest).depth + _ = _
      rw [executed, List.count_append, List.countP_append]
      omega

/-! ## What lies on the stack -/

/-- What lies on the stack stays there, unless the stack gets lower. -/
theorem suffix_act {base : List UInt16} {c : Console σ} {action : Action}
    (h : base <:+ c.machine.stack.callers)
    (hdepth : base.length ≤ (c.act action).depth) :
    base <:+ (c.act action).machine.stack.callers := by
  have hcase := c.act_stack action
  generalize c.executed? action = instruction? at hcase
  cases hcase with
  | called hcallers =>
      rw [hcallers]
      exact h.trans (List.suffix_cons _ _)
  | returned hcallers hpc =>
      rw [hcallers] at h
      rcases List.suffix_cons_iff.mp h with rfl | h
      · -- Had the return taken the topmost of these away, it would be lower.
        exact absurd hdepth (Nat.not_succ_le_self _)
      · exact h
  | kept hother hcallers =>
      rw [hcallers]
      exact h

/-- What lies on the stack stays there while the stack is no lower. -/
theorem suffix_acts {base : List UInt16} {c : Console σ}
    (h : base <:+ c.machine.stack.callers) (actions : List Action)
    (hdepth : ∀ n ≤ actions.length,
      base.length ≤ (c.acts (actions.take n)).depth) :
    base <:+ (c.acts actions).machine.stack.callers := by
  induction actions generalizing c with
  | nil => exact h
  | cons action rest ih =>
      have hfirst := hdepth 1 (Nat.succ_le_succ (Nat.zero_le _))
      refine ih (suffix_act h hfirst) fun n hn => ?_
      exact hdepth (n + 1) (Nat.succ_le_succ hn)

/-- The action that makes the stack lower is the return of the topmost call. -/
theorem returned_of_depth_le {caller : UInt16} {callers : List UInt16}
    {c : Console σ} {action : Action}
    (h : caller :: callers <:+ c.machine.stack.callers)
    (hdepth : (c.act action).depth ≤ callers.length) :
    c.executed? action = some .ret ∧
      (c.act action).machine.stack.callers = callers ∧
      (c.act action).machine.pc = caller + 2 := by
  have hlength := h.length_le
  have hcase := c.act_stack action
  generalize c.executed? action = instruction? at hcase
  unfold depth CallStack.depth at hdepth
  rw [List.length_cons] at hlength
  cases hcase with
  | called hcallers =>
      rw [hcallers, List.length_cons] at hdepth
      omega
  | returned hcallers hpc =>
      rw [hcallers] at h
      rcases List.suffix_cons_iff.mp h with heq | h
      · cases heq
        exact ⟨rfl, rfl, hpc⟩
      · have hlonger := h.length_le
        rw [List.length_cons] at hlonger
        omega
  | kept hother hcallers =>
      rw [hcallers] at hdepth
      omega

/-- **Calls are bracketed.**  At any time in a run, the depth is the number of
calls less the number of returns that have been carried out, and no more than
sixteen.  Where a call is made, then for as long as the stack is higher than
before it, the callers below it are the same and the next one is the call's
address; and the action that ends this is a step that returns, goes on behind
the call, and leaves the stack as it was before it. -/
theorem calls_bracketed (memory : Memory) (resolution : Resolution)
    (seed : UInt64) (screen : σ) (actions : List Action) {c : Console σ}
    (hc : c = (start memory resolution seed screen).acts actions) :
    c.depth + ((start memory resolution seed screen).executed actions).count
        .ret =
      ((start memory resolution seed screen).executed actions).countP
        Instruction.isCall ∧
    c.depth ≤ 16 ∧
    ∀ target, c.executed? .step = some (.call target) →
      ∀ (between : List Action) (later : Console σ),
        (∀ n ≤ between.length,
          c.depth < ((c.act .step).acts (between.take n)).depth) →
        later = (c.act .step).acts between →
        (∀ j < c.depth,
          later.machine.stack.callerAt? j = c.machine.stack.callerAt? j) ∧
        later.machine.stack.callerAt? c.depth = some c.machine.pc ∧
        ∀ action, (later.act action).depth ≤ c.depth →
          action = .step ∧ later.executed? .step = some .ret ∧
            (later.act action).machine.pc = c.machine.pc + 2 ∧
            (later.act action).machine.stack = c.machine.stack := by
  subst hc
  have hcount := (start memory resolution seed screen).depth_acts actions
  rw [show (start memory resolution seed screen).depth = 0 from rfl,
    Nat.zero_add] at hcount
  refine ⟨hcount, CallStack.depth_le_maxDepth _, ?_⟩
  generalize (start memory resolution seed screen).acts actions = c
  intro target hcall between later hdepth hlater
  have hpushed := callers_of_executed_call hcall
  have hsuffix : c.machine.pc :: c.machine.stack.callers <:+
      later.machine.stack.callers := by
    rw [hlater]
    exact suffix_acts (hpushed ▸ List.suffix_rfl) between hdepth
  obtain ⟨hbelow, hcaller⟩ := CallStack.callerAt?_of_cons_suffix hsuffix
  refine ⟨hbelow, hcaller, fun action hlow => ?_⟩
  obtain ⟨hret, hcallers, hpc⟩ := returned_of_depth_le hsuffix hlow
  have hstep : action = .step := by
    cases action with
    | step => rfl
    | _ => cases hret
  subst hstep
  exact ⟨rfl, hret, hpc, CallStack.eq_of_callers hcallers⟩

end Runs

/-- A program that calls a routine, which calls another that returns at once.
The machine is at an address, with some calls open. -/
def nesting (pc : UInt16) (stack : CallStack) : Console Headless where
  machine :=
    { Machine.start
        (.loaded [0x22, 0x04, 0x12, 0x02, 0x22, 0x08, 0x00, 0xEE, 0x00, 0xEE]
          (by decide)) .standard 0 with
      pc, stack }
  screen := {}

theorem step_nesting (pc pc' : UInt16) (stack stack' : CallStack)
    {opcode : UInt16} {i : Instruction} {flow : Flow}
    (hword : (nesting pc stack).machine.memory.word pc = .ok opcode)
    (hdecode : Instruction.decode opcode = some i)
    (hexecute : (nesting pc stack).machine.execute {} i =
      .ok (flow, (nesting pc stack').machine, {}))
    (hpc : flow.target pc = pc') :
    (nesting pc stack).executed? .step = some i ∧
      (nesting pc stack).act .step = nesting pc' stack' := by
  obtain ⟨hexecuted, hact⟩ := act_step_of_execute hword hdecode hexecute
  rw [show (nesting pc stack).machine.pc = pc from rfl, hpc] at hact
  exact ⟨hexecuted, hact⟩

/-- While the inner call is made and returns, the outer one stays open; its
return then goes on behind it. -/
theorem calls_bracketed_nesting :
    ∃ later,
      (nesting 0x200 .empty).executed? .step = some (.call 0x204) ∧
        (∀ n ≤ 2, (nesting 0x200 .empty).depth <
          (((nesting 0x200 .empty).act .step).acts
            ([.step, .step].take n)).depth) ∧
        later = ((nesting 0x200 .empty).act .step).acts [.step, .step] ∧
        (later.act .step).depth ≤ (nesting 0x200 .empty).depth ∧
        (later.act .step).machine.pc = 0x202 := by
  obtain ⟨hcall, houter⟩ := step_nesting 0x200 0x204 .empty
    ⟨[0x200], by decide⟩
    (Memory.word_loaded (j := 0) (by decide) (by decide) rfl)
    (i := .call 0x204) (by decide) rfl rfl
  obtain ⟨_, hinner⟩ := step_nesting 0x204 0x208 ⟨[0x200], by decide⟩
    ⟨[0x204, 0x200], by decide⟩
    (Memory.word_loaded (j := 4) (by decide) (by decide) rfl)
    (i := .call 0x208) (by decide) rfl rfl
  obtain ⟨_, hback⟩ := step_nesting 0x208 0x206 ⟨[0x204, 0x200], by decide⟩
    ⟨[0x200], by decide⟩
    (Memory.word_loaded (j := 8) (by decide) (by decide) rfl)
    (i := .ret) (by decide) rfl rfl
  obtain ⟨_, hret⟩ := step_nesting 0x206 0x202 ⟨[0x200], by decide⟩ .empty
    (Memory.word_loaded (j := 6) (by decide) (by decide) rfl)
    (i := .ret) (by decide) rfl rfl
  have hone (c : Console Headless) : c.acts [.step] = c.act .step := rfl
  have htwo (c : Console Headless) :
      c.acts [.step, .step] = (c.act .step).act .step := rfl
  have hdepth (n : Nat) (hn : n ≤ 2) : (nesting 0x200 .empty).depth <
      (((nesting 0x200 .empty).act .step).acts
        ([.step, .step].take n)).depth := by
    obtain rfl | rfl | rfl : n = 0 ∨ n = 1 ∨ n = 2 := by omega
    · rw [houter]
      exact Nat.zero_lt_one
    · rw [houter, List.take_succ_cons, List.take_zero, hone, hinner]
      exact Nat.zero_lt_two
    · rw [houter, List.take_succ_cons, List.take_succ_cons, List.take_zero,
        htwo, hinner, hback]
      exact Nat.zero_lt_one
  have hlow : ((((nesting 0x200 .empty).act .step).acts
      [.step, .step]).act .step).depth ≤ (nesting 0x200 .empty).depth := by
    rw [houter, htwo, hinner, hback, hret]
    exact Nat.le_refl 0
  obtain ⟨_, _, hcalls⟩ := calls_bracketed (c := nesting 0x200 .empty)
    (nesting 0x200 .empty).machine.memory .standard 0 {} [] rfl
  obtain ⟨_, _, hreturn⟩ := hcalls 0x204 hcall [.step, .step] _ hdepth rfl
  obtain ⟨_, _, hbehind, _⟩ := hreturn .step hlow
  have hnext : (nesting 0x200 .empty).machine.pc + 2 = 0x202 := by decide
  exact ⟨_, hcall, hdepth, rfl, hlow, hbehind.trans hnext⟩

end Console

end Chip8
