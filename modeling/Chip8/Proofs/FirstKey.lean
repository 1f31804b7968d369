import Chip8.Proofs.Action

/-!
# The first key

An instruction that waits for a key and finds none stalls: it takes a ticket
and runs again.  From then on it stalls each time, until a hex key goes down,
and the first one that does is the one it gets.  Whether that key is still
held, and which others are, makes no difference.

The machine stands still meanwhile, but for its timers.  The keypad goes
through two states: the ticket is `Keypad.Pending` until a hex key goes down,
and `Keypad.Answered` from then on.  Each is preserved by whatever else
happens, so a whole row of actions preserves it.

## Main results

* `Machine.step_of_pending`, `Machine.step_of_answered` — what the instruction
  does in either state.
* `Console.Stalled.acts_pending`, `Console.Stalled.acts_answered` — the states
  along a row of actions.
* `Console.first_key` — what happens after a stall.
-/

namespace Chip8

/-! ## The ticket -/

namespace Keypad

/-- A ticket waits, and no hex key is down. -/
structure Pending (t : Ticket) (k : Keypad) : Prop where
  waiting : k.waiting = some t
  lookup : k.putAside.lookup t = none
  up : ∀ value, k.framesLeft (.hex value) = 0

/-- A key was put aside for a ticket, and no other ticket waits. -/
structure Answered (t : Ticket) (value : UInt8) (k : Keypad) : Prop where
  waiting : k.waiting = none
  lookup : k.putAside.lookup t = some value

variable {k : Keypad} {t : Ticket} {value : UInt8}

/-- Neither frames, nor failures of the device, nor the exit key make a
difference to a pending ticket. -/
theorem Pending.tick (h : Pending t k) : Pending t k.tick where
  waiting := by rw [waiting_tick, h.waiting]
  lookup := by rw [putAside_tick, h.lookup]
  up := fun value => by rw [framesLeft_tick, h.up value]

theorem Pending.fail (h : Pending t k) (e : IoError) :
    Pending t (k.fail e) where
  waiting := by rw [waiting_fail, h.waiting]
  lookup := by rw [putAside_fail, h.lookup]
  up := fun value => by rw [framesLeft_fail, h.up value]

theorem Pending.press_exit (h : Pending t k) : Pending t (k.press .exit) where
  waiting := by rw [waiting_press_exit, h.waiting]
  lookup := by rw [putAside_press_exit, h.lookup]
  up := fun value => by
    have hne : Key.exit ≠ .hex value := nofun
    rw [framesLeft_press_of_ne k hne, h.up value]

/-- A hex key answers it. -/
theorem Pending.press_hex (h : Pending t k) (value : UInt8) :
    Answered t value (k.press (.hex value)) where
  waiting := waiting_press_hex k value
  lookup := by
    rw [putAside_press_hex_of_waiting value h.waiting, List.lookup_cons_self]

/-- Nor do frames, failures or any key make a difference to the answer. -/
theorem Answered.tick (h : Answered t value k) : Answered t value k.tick where
  waiting := by rw [waiting_tick, h.waiting]
  lookup := by rw [putAside_tick, h.lookup]

theorem Answered.fail (h : Answered t value k) (e : IoError) :
    Answered t value (k.fail e) where
  waiting := by rw [waiting_fail, h.waiting]
  lookup := by rw [putAside_fail, h.lookup]

theorem Answered.press (h : Answered t value k) (key : Key) :
    Answered t value (k.press key) := by
  cases key with
  | exit =>
      constructor
      · rw [waiting_press_exit, h.waiting]
      · rw [putAside_press_exit, h.lookup]
  | hex other =>
      constructor
      · exact waiting_press_hex k other
      · rw [putAside_press_hex_of_none other h.waiting, h.lookup]

end Keypad

/-! ## The instruction -/

namespace Machine

/-- The machine is about to wait for a key. -/
def AwaitsKey (m : Machine) (x : Register) : Prop :=
  ∃ opcode, m.memory.word m.pc = .ok opcode ∧
    Instruction.decode opcode = some (.awaitKey x)

/-- One machine is the other, but for the timers. -/
def SameButTimers (m m' : Machine) : Prop :=
  ∃ delay sound, m' = { m with delay, sound }

variable {m m' : Machine} {k k' : Keypad} {x : Register} {t : Ticket}
  {value : UInt8}

/-- An attempt that gets a key stores it and goes on. -/
theorem step_of_attempt_some (h : m.AwaitsKey x) {ticket : Option Ticket}
    (hattempt : AwaitKey.attempt m.ticket k = (some value, ticket, k')) :
    m.step k =
      .ok ({ m.setRegister x value with pc := m.pc + 2, ticket }, k') := by
  obtain ⟨opcode, hword, hdecode⟩ := h
  have hexecute : m.execute k (.awaitKey x) =
      .ok (.next, { m with ticket }.setRegister x value, k') := by
    simp only [execute, hattempt]
  rw [step_of_decode k hword hdecode, hexecute]
  rfl

/-- An attempt that gets none leaves the machine where it is. -/
theorem step_of_attempt_none (h : m.AwaitsKey x) {ticket : Option Ticket}
    (hattempt : AwaitKey.attempt m.ticket k = (none, ticket, k')) :
    m.step k = .ok ({ m with ticket }, k') := by
  obtain ⟨opcode, hword, hdecode⟩ := h
  have hexecute : m.execute k (.awaitKey x) =
      .ok (.stall, { m with ticket }, k') := by
    simp only [execute, hattempt]
  rw [step_of_decode k hword hdecode, hexecute]
  rfl

/-- While the ticket is pending, the instruction changes nothing. -/
theorem step_of_pending (h : m.AwaitsKey x) (hticket : m.ticket = some t)
    (hk : k.Pending t) : m.step k = .ok (m, k) := by
  have hheld : k.heldButton = none := Keypad.heldButton_eq_none_iff.mpr hk.up
  have hattempt : AwaitKey.attempt m.ticket k = (none, some t, k) := by
    rw [hticket]
    exact AwaitKey.attempt_of_waiting hk.lookup hk.waiting hheld
  rw [step_of_attempt_none h hattempt, ← hticket]

/-- Once it is answered, the instruction takes the key that was put aside. -/
theorem step_of_answered (h : m.AwaitsKey x) (hticket : m.ticket = some t)
    (hk : k.Answered t value) :
    m.step k =
      .ok ({ m.setRegister x value with pc := m.pc + 2, ticket := none },
        k.giveUp t) := by
  apply step_of_attempt_some h
  rw [hticket]
  exact AwaitKey.attempt_of_lookup hk.lookup

/-- An instruction that has stalled has left a ticket pending. -/
theorem pending_of_stalled (h : m.AwaitsKey x) (hk : k.Numbered)
    (hstep : m.step k = .ok (m', k')) (hpc : m'.pc = m.pc) :
    ∃ t, m' = { m with ticket := some t } ∧ k'.Pending t := by
  have hmoved : m.pc + 2 ≠ m.pc := by
    intro heq
    have hnat := congrArg UInt16.toNat heq
    have hlt := m.pc.toNat_lt
    rw [UInt16.toNat_add] at hnat
    have htwo : (2 : UInt16).toNat = 2 := rfl
    omega
  -- Of the four ways an attempt can end, two go on and are ruled out by the
  -- program counter.
  have hcase := AwaitKey.attempt_cases m.ticket k
  cases hattempt : AwaitKey.attempt m.ticket k with
  | mk answer rest =>
      obtain ⟨ticket, after⟩ := rest
      rw [hattempt] at hcase
      cases answer with
      | some value =>
          rw [step_of_attempt_some h hattempt] at hstep
          cases hstep
          exact absurd hpc hmoved
      | none =>
          rw [step_of_attempt_none h hattempt] at hstep
          cases hstep
          cases hcase with
          | waits hticket hlookup hwaiting hheld =>
              have hup := Keypad.heldButton_eq_none_iff.mp hheld
              exact ⟨_, rfl, hwaiting, hlookup, hup⟩
          | subscribes hheld =>
              have hup := Keypad.heldButton_eq_none_iff.mp hheld
              refine ⟨_, rfl, rfl, hk.lookup_issued, fun value => ?_⟩
              rw [Keypad.framesLeft_subscribe]
              exact hup value

/-- Frames change the timers only. -/
theorem SameButTimers.countDown (h : m.SameButTimers m') :
    m.SameButTimers m'.countDown := by
  obtain ⟨delay, sound, rfl⟩ := h
  exact ⟨_, _, rfl⟩

theorem SameButTimers.awaitsKey (h : m.SameButTimers m')
    (hawaits : m.AwaitsKey x) : m'.AwaitsKey x := by
  obtain ⟨delay, sound, rfl⟩ := h
  exact hawaits

end Machine

/-! ## The console -/

namespace Console

variable {σ : Type} {c : Console σ} {m : Machine} {x : Register} {t : Ticket}
  {value : UInt8}

/-- A machine has stalled, and since then only its timers have gone on, while
the keypad is in some state. -/
structure Stalled (m : Machine) (P : Keypad → Prop) (c : Console σ) :
    Prop where
  machine : m.SameButTimers c.machine
  keypad : P c.keypad

namespace Stalled

/-- While the ticket is pending, a step changes nothing. -/
theorem step_of_pending (h : Stalled m (Keypad.Pending t) c)
    (hawaits : m.AwaitsKey x) (hticket : m.ticket = some t) :
    c.step = .ok c := by
  have hheld : c.machine.ticket = some t := by
    obtain ⟨delay, sound, hm⟩ := h.machine
    rw [hm]
    exact hticket
  exact step_eq_ok (Machine.step_of_pending (h.machine.awaitsKey hawaits)
    hheld h.keypad)

/-- Once it is answered, a step takes the key. -/
theorem step_of_answered (h : Stalled m (Keypad.Answered t value) c)
    (hawaits : m.AwaitsKey x) (hticket : m.ticket = some t) :
    ∃ c', c.step = .ok c' ∧
      c'.machine =
        { c.machine.setRegister x value with
          pc := m.pc + 2
          ticket := none } := by
  have hheld : c.machine.ticket = some t ∧ c.machine.pc = m.pc := by
    obtain ⟨delay, sound, hm⟩ := h.machine
    rw [hm]
    exact ⟨hticket, rfl⟩
  have hstep := Machine.step_of_answered (h.machine.awaitsKey hawaits) hheld.1
    h.keypad
  rw [hheld.2] at hstep
  exact ⟨_, step_eq_ok hstep, rfl⟩

section Actions

variable [Screen σ] {P : Keypad → Prop}

/-- A frame leaves the machine stalled, if the keypad may age. -/
theorem frame (h : Stalled m P c) (htick : P c.keypad.tick) :
    Stalled m P c.frame.2 := by
  obtain ⟨hmachine, hkeypad⟩ := c.of_frame
  constructor
  · rw [hmachine]
    exact h.machine.countDown
  · rcases hkeypad with heq | heq
    · rw [heq]
      exact h.keypad
    · rw [heq]
      exact htick

/-- Whatever is done by the machine and the keyboard, but for steps, leaves the
machine stalled, if the keypad may age, fail and hear what it hears. -/
theorem act_of_keypad (h : Stalled m P c) {action : Action}
    (hothers : action.isOthers = false) (hstep : action ≠ .step)
    (htick : P c.keypad.tick) (hfail : ∀ e, P (c.keypad.fail e))
    (hpress : ∀ key, action = .press key → P (c.keypad.press key)) :
    Stalled m P (c.act action) := by
  cases action with
  | press key => exact ⟨h.machine, hpress key rfl⟩
  | fail e => exact ⟨h.machine, hfail e⟩
  | age => exact ⟨h.machine, htick⟩
  | frame => exact h.frame htick
  | step => exact absurd rfl hstep
  | subscribe => cases hothers
  | receive t => cases hothers
  | giveUp t => cases hothers

/-- The ticket stays pending, whatever the machine and the keyboard do, but for
a hex key. -/
theorem act_pending (h : Stalled m (Keypad.Pending t) c)
    (hawaits : m.AwaitsKey x) (hticket : m.ticket = some t) {action : Action}
    (hothers : action.isOthers = false) (hkey : action.hexKey? = none) :
    Stalled m (Keypad.Pending t) (c.act action) := by
  by_cases hstep : action = .step
  · rw [hstep, act_step_of_ok (h.step_of_pending hawaits hticket)]
    exact h
  · refine h.act_of_keypad hothers hstep h.keypad.tick h.keypad.fail ?_
    rintro key rfl
    cases key with
    | hex value => cases hkey
    | exit => exact h.keypad.press_exit

theorem acts_pending (h : Stalled m (Keypad.Pending t) c)
    (hawaits : m.AwaitsKey x) (hticket : m.ticket = some t)
    (actions : List Action)
    (hactions : ∀ a ∈ actions, a.isOthers = false ∧ a.hexKey? = none) :
    Stalled m (Keypad.Pending t) (c.acts actions) := by
  induction actions generalizing c with
  | nil => exact h
  | cons action rest ih =>
      obtain ⟨hothers, hkey⟩ := hactions action List.mem_cons_self
      exact ih (h.act_pending hawaits hticket hothers hkey) fun a ha =>
        hactions a (List.mem_cons_of_mem _ ha)

/-- The answer stays, whatever happens, but for a step. -/
theorem act_answered (h : Stalled m (Keypad.Answered t value) c)
    {action : Action} (hothers : action.isOthers = false)
    (hstep : action ≠ .step) :
    Stalled m (Keypad.Answered t value) (c.act action) :=
  h.act_of_keypad hothers hstep h.keypad.tick h.keypad.fail fun key _ =>
    h.keypad.press key

theorem acts_answered (h : Stalled m (Keypad.Answered t value) c)
    (actions : List Action)
    (hactions : ∀ a ∈ actions, a.isOthers = false ∧ a ≠ .step) :
    Stalled m (Keypad.Answered t value) (c.acts actions) := by
  induction actions generalizing c with
  | nil => exact h
  | cons action rest ih =>
      obtain ⟨hothers, hstep⟩ := hactions action List.mem_cons_self
      exact ih (h.act_answered hothers hstep) fun a ha =>
        hactions a (List.mem_cons_of_mem _ ha)

end Actions

end Stalled

/-- **The first key.**  Where an instruction that waits for a key has stalled,
and nobody else uses the keypad, each step before a hex key goes down changes
nothing at all.  The first step after that stores the first hex key that went
down, goes on to the next instruction and drops the ticket; it changes nothing
else of the machine. -/
theorem first_key [Screen σ] {c₁ : Console σ} {opcode : UInt16}
    (hc : c.Reachable)
    (hword : c.machine.memory.word c.machine.pc = .ok opcode)
    (hdecode : Instruction.decode opcode = some (.awaitKey x))
    (hstep : c.step = .ok c₁) (hstall : c₁.machine.pc = c.machine.pc)
    (before : List Action)
    (hbefore : ∀ a ∈ before, a.isOthers = false ∧ a.hexKey? = none) :
    (c₁.acts before).step = .ok (c₁.acts before) ∧
      ∀ (value : UInt8) (between : List Action) (c₂ : Console σ),
        (∀ a ∈ between, a.isOthers = false ∧ a ≠ .step) →
        c₂ = c₁.acts (before ++ .press (.hex value) :: between) →
        ∃ c₃, c₂.step = .ok c₃ ∧
          c₃.machine =
            { c₂.machine.setRegister x value with
              pc := c.machine.pc + 2
              ticket := none } := by
  have hawaits : c.machine.AwaitsKey x := ⟨opcode, hword, hdecode⟩
  obtain ⟨t, hm, hpending⟩ := Machine.pending_of_stalled hawaits hc.numbered
    (of_step_eq_ok hstep).1 hstall
  have hawaits₁ : c₁.machine.AwaitsKey x := by
    rw [hm]
    exact hawaits
  have hticket : c₁.machine.ticket = some t := by rw [hm]
  have hstalled : Stalled c₁.machine (Keypad.Pending t) c₁ :=
    ⟨⟨_, _, rfl⟩, hpending⟩
  have hwaits := hstalled.acts_pending hawaits₁ hticket before hbefore
  refine ⟨hwaits.step_of_pending hawaits₁ hticket, ?_⟩
  intro value between c₂ hbetween hc₂
  have hpressed : Stalled c₁.machine (Keypad.Answered t value)
      ((c₁.acts before).act (.press (.hex value))) :=
    ⟨hwaits.machine, hwaits.keypad.press_hex value⟩
  have hanswered := hpressed.acts_answered between hbetween
  rw [hc₂, acts_append, ← hstall]
  exact hanswered.step_of_answered hawaits₁ hticket

/-- A console whose program waits for a key, to be stored in `V3`. -/
def attentive : Console Headless where
  machine := .start (.loaded [0xF3, 0x0A] (by decide)) .standard 0
  screen := {}

/-- The exit key goes down, and the program goes on waiting.  Then 9 goes down,
a frame has it forgotten, and 2 goes down: the program gets 9. -/
theorem first_key_attentive :
    ∃ c₁, attentive.step = .ok c₁ ∧
      ∃ c₃,
        (c₁.acts [.press .exit, .step, .press (.hex 9), .frame,
          .press (.hex 2)]).step = .ok c₃ ∧
        c₃.machine.register 3 = 9 ∧ c₃.machine.pc = 0x202 ∧
        c₃.machine.ticket = none := by
  have hword : attentive.machine.memory.word attentive.machine.pc =
      .ok 0xF30A :=
    Memory.word_loaded (j := 0) (by decide) (by decide) rfl
  have hdecode : Instruction.decode 0xF30A = some (.awaitKey 3) := by decide
  have hheld : ({} : Keypad).heldButton = none :=
    Keypad.heldButton_eq_none_iff.mpr fun value => by simp [Keypad.framesLeft]
  have hattempt : AwaitKey.attempt attentive.machine.ticket {} =
      (none, some 0, ({} : Keypad).subscribe.2) := by
    show AwaitKey.attempt none {} = _
    rw [AwaitKey.attempt_of_present rfl, hheld]
    rfl
  have hmachine := Machine.step_of_attempt_none ⟨_, hword, hdecode⟩ hattempt
  obtain ⟨c₁, hstep, hstall⟩ : ∃ c₁, attentive.step = .ok c₁ ∧
      c₁.machine.pc = attentive.machine.pc := ⟨_, step_eq_ok hmachine, rfl⟩
  have hreached : attentive.Reachable := .start _ _ _ _
  obtain ⟨_, hanswer⟩ := first_key hreached hword hdecode hstep hstall
    [.press .exit, .step] (by decide)
  obtain ⟨c₃, hdone, hafter⟩ :=
    hanswer 9 [.frame, .press (.hex 2)] _ (by decide) rfl
  refine ⟨c₁, hstep, c₃, hdone, ?_, ?_, ?_⟩
  · rw [hafter]
    exact Machine.register_setRegister _ 3 3 9
  · rw [hafter]
    rfl
  · rw [hafter]

end Console

end Chip8
