import Chip8.Proofs.Effects
import Chip8.Proofs.HeldKeys
import Chip8.Proofs.Stints
import Mathlib.Data.List.Induction

/-!
# Who holds a ticket

The machine takes a ticket when its instruction waits for a key and finds none.
The instruction runs again until it gets one, and the machine stands still
meanwhile, but for its timers and for the ticket, which is taken anew if someone
else has made it void.  When the instruction gets its key, the ticket is dropped.

So whenever the machine holds a ticket, the instruction that took it lies at the
program counter, and the key that is put aside for the ticket is stored by that
instruction or by nobody.  Tickets are never issued again, so a key that was put
aside for one that was dropped stays where it is.

## Main results

* `Machine.waitCase_of_step` — what a step does that waits for a key.
* `Console.act_of_awaitsKey`, `Console.acts_of_awaitsKey` — what an action, and a
  run, does to a machine that waits.
* `Console.exists_waitedThrough` — how a machine came by its ticket.
* `Console.exists_event` — what the keypad hears of an action.
* `Console.le_ticket_acts` — a machine without one holds new ones later on.
* `Console.no_stale_ticket` — all of this at any time in a run.
-/

namespace Chip8

/-! ## Steps -/

namespace Machine

variable {m m' m'' : Machine} {k : Keypad} {x : Register}

/-- The machine after its instruction has got a key for `Vx`. -/
def gotKey (m : Machine) (x : Register) (value : UInt8) : Machine :=
  { m.setRegister x value with pc := m.pc + 2, ticket := none }

/-- What a step has done that waited for a key. -/
inductive WaitCase (m : Machine) (k : Keypad) (x : Register) :
    Machine → Keypad → Prop
  | delivered {t : Ticket} {value : UInt8} (hticket : m.ticket = some t)
    (h : k.putAside.lookup t = some value) :
    WaitCase m k x (m.gotKey x value) (k.giveUp t)
  | held {value : UInt8} (h : k.heldButton = some value) :
    WaitCase m k x (m.gotKey x value) k
  | waits {t : Ticket} (hticket : m.ticket = some t) :
    WaitCase m k x { m with ticket := some t } k
  | subscribes :
    WaitCase m k x { m with ticket := some k.issued } k.subscribe.2

/-- A step that waits for a key does not fail, and has done one of these. -/
theorem waitCase_of_step (h : m.AwaitsKey x) (k : Keypad) :
    ∃ after k', m.step k = .ok (after, k') ∧ WaitCase m k x after k' := by
  have hcase := AwaitKey.attempt_cases m.ticket k
  cases hattempt : AwaitKey.attempt m.ticket k with
  | mk answer rest =>
      obtain ⟨ticket, k'⟩ := rest
      rw [hattempt] at hcase
      cases hcase with
      | delivered hticket hlookup =>
          exact ⟨_, _, step_of_attempt_some h hattempt,
            .delivered hticket hlookup⟩
      | held hheld =>
          exact ⟨_, _, step_of_attempt_some h hattempt, .held hheld⟩
      | waits hticket _ _ _ =>
          exact ⟨_, _, step_of_attempt_none h hattempt, .waits hticket⟩
      | subscribes _ =>
          exact ⟨_, _, step_of_attempt_none h hattempt, .subscribes⟩

/-- One machine is the other, but for the timers and the ticket. -/
def StoodStill (m m' : Machine) : Prop :=
  ∃ delay sound ticket, m' = { m with delay, sound, ticket }

protected theorem StoodStill.refl (m : Machine) : m.StoodStill m :=
  ⟨_, _, _, rfl⟩

theorem StoodStill.trans (h : m.StoodStill m') (h' : m'.StoodStill m'') :
    m.StoodStill m'' := by
  obtain ⟨delay, sound, ticket, rfl⟩ := h
  obtain ⟨delay', sound', ticket', rfl⟩ := h'
  exact ⟨delay', sound', ticket', rfl⟩

theorem StoodStill.awaitsKey (h : m.StoodStill m') (hawaits : m.AwaitsKey x) :
    m'.AwaitsKey x := by
  obtain ⟨delay, sound, ticket, rfl⟩ := h
  exact hawaits

end Machine

namespace Console

variable {σ : Type} {c : Console σ} {x : Register} {t : Ticket}

/-- A step that waits for a key is always carried out. -/
theorem executed?_eq_awaitKey_iff :
    c.executed? .step = some (.awaitKey x) ↔ c.machine.AwaitsKey x := by
  constructor
  · intro h
    simp only [executed?] at h
    split at h
    · exact Machine.next?_eq_some_iff.mp h
    · cases h
  · intro h
    obtain ⟨after, k, hstep, _⟩ := Machine.waitCase_of_step h c.keypad
    simp only [executed?, step_eq_ok hstep]
    exact Machine.next?_eq_some_iff.mpr h

/-- Who waits with a ticket that is worth nothing, or with none, takes a new one
if no key is held. -/
theorem step_of_void (h : c.machine.AwaitsKey x)
    (hpresent : AwaitKey.present c.machine.ticket c.keypad =
      (none, none, c.keypad)) (hup : c.keypad.heldButton = none) :
    c.step =
      .ok { c with
        machine := { c.machine with ticket := some c.keypad.issued }
        keypad := c.keypad.subscribe.2 } := by
  apply step_eq_ok
  apply Machine.step_of_attempt_none h
  rw [AwaitKey.attempt_of_present hpresent, hup]
  rfl

variable [Screen σ]

/-! ## What becomes of a machine that waits -/

/-- What is no step leaves the ticket alone, and the machine where it is. -/
theorem machine_act_of_ne_step {action : Action} (h : action ≠ .step) :
    c.machine.StoodStill (c.act action).machine ∧
      (c.act action).machine.ticket = c.machine.ticket := by
  cases action with
  | step => exact absurd rfl h
  | frame =>
      show c.machine.StoodStill c.frame.2.machine ∧
        c.frame.2.machine.ticket = c.machine.ticket
      rw [c.of_frame.1]
      exact ⟨⟨_, _, _, rfl⟩, rfl⟩
  | _ => exact ⟨.refl _, rfl⟩

/-- A step that waits for a key, as an action. -/
theorem waitCase_act (h : c.machine.AwaitsKey x) :
    c.machine.WaitCase c.keypad x (c.act .step).machine
      (c.act .step).keypad := by
  obtain ⟨after, k, hstep, hcase⟩ := Machine.waitCase_of_step h c.keypad
  rw [act_step_of_ok (step_eq_ok hstep)]
  exact hcase

/-- A step that waits for a key gets one that was put aside for its ticket, or
one that is held, or leaves the machine where it is with a ticket. -/
theorem act_step_of_awaitsKey (h : c.machine.AwaitsKey x) :
    (c.machine.StoodStill (c.act .step).machine ∧
        (c.act .step).machine.ticket ≠ none) ∨
      ∃ value, (c.act .step).machine = c.machine.gotKey x value ∧
        ((∃ t, c.machine.ticket = some t ∧
            c.keypad.putAside.lookup t = some value) ∨
          c.keypad.heldButton = some value) := by
  have hcase := waitCase_act h
  generalize (c.act .step).machine = after, (c.act .step).keypad = k at hcase
  cases hcase with
  | delivered hticket hlookup =>
      exact .inr ⟨_, rfl, .inl ⟨_, hticket, hlookup⟩⟩
  | held hheld => exact .inr ⟨_, rfl, .inr hheld⟩
  | waits _ => exact .inl ⟨⟨_, _, _, rfl⟩, nofun⟩
  | subscribes => exact .inl ⟨⟨_, _, _, rfl⟩, nofun⟩

/-- Whatever is done, a machine that waits stays where it is, or its instruction
gets a key. -/
theorem act_of_awaitsKey (h : c.machine.AwaitsKey x) (action : Action) :
    c.machine.StoodStill (c.act action).machine ∨
      action = .step ∧
        ∃ value, (c.act .step).machine = c.machine.gotKey x value := by
  by_cases hstep : action = .step
  · subst hstep
    rcases act_step_of_awaitsKey h with ⟨hstill, _⟩ | ⟨value, hgot, _⟩
    · exact .inl hstill
    · exact .inr ⟨rfl, value, hgot⟩
  · exact .inl (machine_act_of_ne_step hstep).1

/-- In a run as well it stays where it is, until its instruction gets a key. -/
theorem acts_of_awaitsKey (h : c.machine.AwaitsKey x) (later : List Action) :
    c.machine.StoodStill (c.acts later).machine ∨
      ∃ waiting rest value, later = waiting ++ .step :: rest ∧
        c.machine.StoodStill (c.acts waiting).machine ∧
        ((c.acts waiting).act .step).machine =
          (c.acts waiting).machine.gotKey x value := by
  induction later generalizing c with
  | nil => exact .inl (.refl _)
  | cons action rest ih =>
      rcases act_of_awaitsKey h action with hstill | ⟨rfl, value, hgot⟩
      · rcases ih (hstill.awaitsKey h) with hlater | hlater
        · exact .inl (hstill.trans hlater)
        · obtain ⟨waiting, rest', value, rfl, hwaiting, hgot⟩ := hlater
          exact .inr ⟨action :: waiting, rest', value, rfl,
            hstill.trans hwaiting, hgot⟩
      · exact .inr ⟨[], rest, value, rfl, .refl _, hgot⟩

/-! ## How a machine came by its ticket -/

/-- Only an instruction that waits for a key has to do with the ticket. -/
theorem awaitsKey_of_ticket_act_ne {action : Action}
    (h : (c.act action).machine.ticket ≠ c.machine.ticket) :
    action = .step ∧ ∃ x, c.machine.AwaitsKey x := by
  by_cases hstep : action = .step
  · subst hstep
    refine ⟨rfl, ?_⟩
    cases hresult : c.step with
    | error f =>
        rw [act_step_of_error hresult] at h
        exact absurd rfl h
    | ok c' =>
        rw [act_step_of_ok hresult] at h
        obtain ⟨i, hnext, _, heffect⟩ :=
          Machine.effect_of_step (of_step_eq_ok hresult).1
        generalize c'.machine = after at h heffect
        cases heffect with
        | table _ htable => exact absurd htable.ticket h
        | gotKey x => exact ⟨x, Machine.next?_eq_some_iff.mp hnext⟩
        | stalled x => exact ⟨x, Machine.next?_eq_some_iff.mp hnext⟩
  · exact absurd (machine_act_of_ne_step hstep).2 h

/-- A machine that waits for a key has taken a ticket, which it had none of
before, and has held one and stood still since, through some actions. -/
structure WaitedThrough (c : Console σ) (x : Register) (actions : List Action) :
    Prop where
  awaits : c.machine.AwaitsKey x
  free : c.machine.ticket = none
  still : ∀ part, part <+: actions →
    c.machine.StoodStill ((c.act .step).acts part).machine ∧
      ((c.act .step).acts part).machine.ticket ≠ none

/-- One more action, after which there still is a ticket. -/
theorem WaitedThrough.concat {actions : List Action}
    (h : WaitedThrough c x actions) {action : Action}
    (hticket : ((c.act .step).acts (actions ++ [action])).machine.ticket ≠
      none) : WaitedThrough c x (actions ++ [action]) where
  awaits := h.awaits
  free := h.free
  still part hpart := by
    rcases List.prefix_concat_iff.mp hpart with rfl | hearlier
    · rw [acts_append] at hticket ⊢
      obtain ⟨hstill, _⟩ := h.still actions List.prefix_rfl
      rcases act_of_awaitsKey (hstill.awaitsKey h.awaits) action with
        hnext | ⟨rfl, value, hgot⟩
      · exact ⟨hstill.trans hnext, hticket⟩
      · exact absurd (congrArg Machine.ticket hgot) hticket
    · exact h.still part hearlier

/-- Whoever holds a ticket, and held none at first, has waited for a key since
it took its ticket. -/
theorem exists_waitedThrough (hfree : c.machine.ticket = none)
    {actions : List Action} (h : (c.acts actions).machine.ticket ≠ none) :
    ∃ before between x, actions = before ++ .step :: between ∧
      WaitedThrough (c.acts before) x between := by
  induction actions using List.reverseRecOn with
  | nil => exact absurd hfree h
  | append_singleton actions action ih =>
      by_cases hearlier : (c.acts actions).machine.ticket = none
      · rw [acts_append] at h
        obtain ⟨rfl, x, hawaits⟩ :=
          awaitsKey_of_ticket_act_ne (hearlier.symm ▸ h)
        refine ⟨actions, [], x, rfl, hawaits, hearlier, ?_⟩
        intro part hpart
        obtain rfl := List.prefix_nil.mp hpart
        rcases act_step_of_awaitsKey hawaits with hstill | ⟨value, hgot, _⟩
        · exact hstill
        · exact absurd (congrArg Machine.ticket hgot) h
      · obtain ⟨before, between, x, rfl, hwaited⟩ := ih hearlier
        refine ⟨before, between ++ [action], x, ?_, hwaited.concat ?_⟩
        · rw [List.append_assoc, List.cons_append]
        · rwa [List.append_assoc, acts_append, List.cons_append] at h

/-- Who has waited through some actions waits at the end of them. -/
theorem WaitedThrough.awaitsKey_acts {actions : List Action}
    (h : WaitedThrough c x actions) :
    ((c.act .step).acts actions).machine.AwaitsKey x :=
  (h.still actions List.prefix_rfl).1.awaitsKey h.awaits

/-! ## What the keypad hears of a console -/

/-- Whether an action makes key presses age.  A frame does, unless the keyboard
is dead. -/
def ages (c : Console σ) : Action → Bool
  | .age => true
  | .frame => c.keypad.failure.isNone
  | _ => false

/-- The keypad hears of one event at most, which is a press only if a key goes
down, and a frame only if key presses are to age. -/
theorem exists_event (c : Console σ) (action : Action) :
    ∃ event, (c.act action).keypad = c.keypad.hear event ∧
      (∀ key, event = .call (.press key) → action = .press key) ∧
      (event = .call .tick → c.ages action = true) := by
  cases action with
  | press key =>
      refine ⟨.call (.press key), rfl, fun pressed h => ?_, nofun⟩
      cases h
      rfl
  | fail e => exact ⟨.fail e, rfl, nofun, nofun⟩
  | age => exact ⟨.call .tick, rfl, nofun, fun _ => rfl⟩
  | subscribe => exact ⟨.call .subscribe, rfl, nofun, nofun⟩
  | receive t => exact ⟨.call (.receive t), rfl, nofun, nofun⟩
  | giveUp t => exact ⟨.call (.giveUp t), rfl, nofun, nofun⟩
  | frame =>
      show ∃ event, c.frame.2.keypad = c.keypad.hear event ∧ _
      cases hfailure : c.keypad.failure with
      | some e =>
          rw [frame_of_failure hfailure]
          exact ⟨.check, rfl, nofun, nofun⟩
      | none =>
          rw [keypad_frame (Keypad.check_eq_ok_iff.mpr hfailure)]
          refine ⟨.call .tick, rfl, nofun, fun _ => ?_⟩
          simp only [ages, hfailure, Option.isNone_none]
  | step =>
      cases hstep : c.step with
      | error f =>
          rw [act_step_of_error hstep]
          exact ⟨.check, rfl, nofun, nofun⟩
      | ok c' =>
          rw [act_step_of_ok hstep]
          rcases Machine.keypad_of_step (of_step_eq_ok hstep).1 with
            heq | ⟨t, heq⟩ | heq
          · exact ⟨.check, heq, nofun, nofun⟩
          · exact ⟨.call (.giveUp t), heq, nofun, nofun⟩
          · exact ⟨.call .subscribe, heq, nofun, nofun⟩

/-! ## Tickets are not issued again -/

theorem issued_le_act (c : Console σ) (action : Action) :
    c.keypad.issued ≤ (c.act action).keypad.issued := by
  obtain ⟨event, hevent, _⟩ := c.exists_event action
  rw [hevent]
  cases event with
  | call call => exact Keypad.issued_le_call c.keypad call
  | fail e => exact Nat.le_refl _
  | check => exact Nat.le_refl _

theorem issued_le_acts (c : Console σ) (later : List Action) :
    c.keypad.issued ≤ (c.acts later).keypad.issued := by
  induction later generalizing c with
  | nil => exact Nat.le_refl _
  | cons action rest ih =>
      exact Nat.le_trans (c.issued_le_act action) (ih (c.act action))

/-- The machine's ticket, if it has one, is one of those that were issued from a
number on. -/
structure HoldsFrom (n : Ticket) (c : Console σ) : Prop where
  issued : n ≤ c.keypad.issued
  ticket : ∀ t, c.machine.ticket = some t → n ≤ t ∧ t < c.keypad.issued

/-- An action leaves the machine with the ticket that it had, or with a new one,
or with none. -/
theorem HoldsFrom.act {n : Ticket} (h : HoldsFrom n c) (action : Action) :
    HoldsFrom n (c.act action) where
  issued := Nat.le_trans h.issued (c.issued_le_act action)
  ticket t ht := by
    by_cases hsame : (c.act action).machine.ticket = c.machine.ticket
    · obtain ⟨hfrom, hlt⟩ := h.ticket t (hsame ▸ ht)
      exact ⟨hfrom, Nat.lt_of_lt_of_le hlt (c.issued_le_act action)⟩
    · obtain ⟨rfl, x, hawaits⟩ := awaitsKey_of_ticket_act_ne hsame
      have hcase := waitCase_act hawaits
      generalize (c.act .step).machine = after, (c.act .step).keypad = k
        at ht hcase ⊢
      cases hcase with
      | delivered _ _ => cases ht
      | held _ => cases ht
      | waits hticket =>
          cases ht
          exact h.ticket t hticket
      | subscribes =>
          cases ht
          exact ⟨h.issued, Nat.lt_succ_self _⟩

theorem HoldsFrom.acts {n : Ticket} (h : HoldsFrom n c) (later : List Action) :
    HoldsFrom n (c.acts later) := by
  induction later generalizing c with
  | nil => exact h
  | cons action rest ih => exact ih (h.act action)

/-- A machine without a ticket holds none later on but new ones. -/
theorem le_ticket_acts (hfree : c.machine.ticket = none) {later : List Action}
    (h : (c.acts later).machine.ticket = some t) : c.keypad.issued ≤ t := by
  have hholds : HoldsFrom c.keypad.issued c :=
    ⟨Nat.le_refl _, fun u hu => by rw [hfree] at hu; cases hu⟩
  exact ((hholds.acts later).ticket t h).1

/-- While the machine holds a ticket, it stays where it is. -/
theorem stoodStill_of_same_ticket (h : c.machine.AwaitsKey x)
    (hissued : t < c.keypad.issued) {later : List Action}
    (hsame : (c.acts later).machine.ticket = some t) :
    c.machine.StoodStill (c.acts later).machine := by
  rcases acts_of_awaitsKey h later with hstill | hgot
  · exact hstill
  · -- The ticket would be one that was issued after it had been dropped.
    obtain ⟨waiting, rest, value, rfl, _, hgot⟩ := hgot
    rw [acts_append] at hsame
    have hnew : ((c.acts waiting).act .step).keypad.issued ≤ t :=
      le_ticket_acts (congrArg Machine.ticket hgot) hsame
    have hissued' := Nat.le_trans (c.issued_le_acts waiting)
      ((c.acts waiting).issued_le_act .step)
    exact absurd (Nat.le_trans hissued' hnew) (Nat.not_le.mpr hissued)

/-- **No ticket is stale.**  At any time in a run, whatever it did and whoever
else took tickets:

* If the machine holds a ticket, the word at the program counter is that of an
  instruction that waits for a key.  It is the one that took the ticket: the
  machine found no key and held no ticket when it came there, and has held one
  and stood still since.  A key that is put aside for the ticket is stored by
  its next step, and by then the machine drops the ticket.  As long as it holds
  that very ticket, it stands still.
* A step that waits for a key leaves the machine where it is with a ticket, or
  gets a key, and then no ticket is left.
* A machine that holds no ticket takes none later on but new ones, which nobody
  waits with so far, and for which no key is put aside. -/
theorem no_stale_ticket (memory : Memory) (resolution : Resolution)
    (seed : UInt64) (screen : σ) (actions : List Action) {c : Console σ}
    (hc : c = (start memory resolution seed screen).acts actions) :
    (∀ t, c.machine.ticket = some t → ∃ x opcode,
      c.machine.memory.word c.machine.pc = .ok opcode ∧
      Instruction.decode opcode = some (.awaitKey x) ∧
      (∃ before between, actions = before ++ .step :: between ∧
        WaitedThrough ((start memory resolution seed screen).acts before) x
          between) ∧
      (∀ value, c.keypad.putAside.lookup t = some value →
        (c.act .step).machine = c.machine.gotKey x value ∧
          (c.act .step).keypad.putAside.lookup t = none) ∧
      ∀ later, (c.acts later).machine.ticket = some t →
        c.machine.StoodStill (c.acts later).machine) ∧
    (∀ x, c.executed? .step = some (.awaitKey x) →
      c.machine.StoodStill (c.act .step).machine ∧
          (c.act .step).machine.ticket ≠ none ∨
        ∃ value, (c.act .step).machine = c.machine.gotKey x value) ∧
    (c.machine.ticket = none →
      ∀ later t, (c.acts later).machine.ticket = some t →
        c.keypad.issued ≤ t ∧ c.keypad.waiting ≠ some t ∧
          c.keypad.putAside.lookup t = none) := by
  have hissued : ∀ t, c.machine.ticket = some t → t < c.keypad.issued := by
    have hstart : HoldsFrom 0 (start memory resolution seed screen) :=
      ⟨Nat.zero_le _, nofun⟩
    rw [hc]
    exact fun t ht => ((hstart.acts actions).ticket t ht).2
  refine ⟨fun t ht => ?_, fun x hx => ?_, fun hfree later t ht => ?_⟩
  · have hholds : ((start memory resolution seed screen).acts
        actions).machine.ticket ≠ none := by
      rw [← hc, ht]
      exact nofun
    obtain ⟨before, between, x, hactions, hwaited⟩ :=
      exists_waitedThrough rfl hholds
    have hawaits : c.machine.AwaitsKey x := by
      rw [hc, hactions, acts_append]
      exact hwaited.awaitsKey_acts
    obtain ⟨opcode, hword, hdecode⟩ := hawaits
    refine ⟨x, opcode, hword, hdecode, ⟨before, between, hactions, hwaited⟩,
      fun value hvalue => ?_, fun later => ?_⟩
    · have hattempt := AwaitKey.attempt_of_lookup hvalue
      rw [← ht] at hattempt
      have hstep := step_eq_ok
        (Machine.step_of_attempt_some ⟨opcode, hword, hdecode⟩ hattempt)
      rw [act_step_of_ok hstep]
      exact ⟨rfl, Keypad.lookup_giveUp_self _ _⟩
    · exact stoodStill_of_same_ticket ⟨opcode, hword, hdecode⟩ (hissued t ht)
  · rcases act_step_of_awaitsKey (executed?_eq_awaitKey_iff.mp hx) with
      hstill | ⟨value, hgot, _⟩
    · exact .inl hstill
    · exact .inr ⟨value, hgot⟩
  · have hnew := le_ticket_acts hfree ht
    have hnumbered : c.keypad.Numbered := by
      rw [hc]
      exact ((Reachable.start memory resolution seed screen).acts
        actions).numbered
    refine ⟨hnew, fun hwaiting => ?_, hnumbered.lookup_of_issued_le hnew⟩
    exact Nat.not_lt.mpr hnew (hnumbered.waiting t hwaiting)

/-- Someone else takes a ticket while the program waits for a key, so the program
takes a third one.  The key that goes down then is the program's, though a frame
has it forgotten, and no ticket is left of it. -/
theorem no_stale_ticket_attentive :
    ∃ c, c = attentive.acts
        [.step, .subscribe, .step, .press (.hex 9), .frame] ∧
      c.machine.ticket = some 2 ∧ c.keypad.putAside.lookup 2 = some 9 ∧
      c.machine.AwaitsKey 3 ∧
      (c.act .step).machine.register 3 = 9 ∧
      (c.act .step).machine.ticket = none := by
  have hawaits : attentive.machine.AwaitsKey 3 :=
    ⟨0xF30A, Memory.word_loaded (j := 0) (by decide) (by decide) rfl, by decide⟩
  have hup (k : Keypad) (h : k.hexFrames = Vector.replicate UInt8.size 0) :
      k.heldButton = none :=
    Keypad.heldButton_eq_none_iff.mpr fun value => by
      simp [Keypad.framesLeft, h]
  obtain ⟨c₁, hfirst, hmachine₁, hkeypad₁⟩ : ∃ c₁,
      (attentive.act .step).act .subscribe = c₁ ∧
      c₁.machine = { attentive.machine with ticket := some 0 } ∧
      c₁.keypad = { issued := 2, waiting := some 1 } := by
    rw [act_step_of_ok (step_of_void hawaits rfl (hup _ rfl))]
    exact ⟨_, rfl, rfl, rfl⟩
  have hawaits₁ : c₁.machine.AwaitsKey 3 := by
    rw [hmachine₁]
    exact hawaits
  obtain ⟨c₂, hsecond, hmachine₂, hkeypad₂⟩ : ∃ c₂,
      (c₁.act .step).act (.press (.hex 9)) = c₂ ∧
      c₂.machine = { attentive.machine with ticket := some 2 } ∧
      c₂.keypad.putAside = [(2, 9)] := by
    have hpresent : AwaitKey.present c₁.machine.ticket c₁.keypad =
        (none, none, c₁.keypad) := by
      rw [hmachine₁, hkeypad₁]
      rfl
    rw [act_step_of_ok
      (step_of_void hawaits₁ hpresent (hup _ (by rw [hkeypad₁]))),
      hmachine₁, hkeypad₁]
    exact ⟨_, rfl, rfl, rfl⟩
  have hrow (c : Console Headless) :
      c.acts [.step, .subscribe, .step, .press (.hex 9), .frame] =
        ((((c.act .step).act .subscribe).act .step).act
          (.press (.hex 9))).act .frame := rfl
  have hacts : attentive.acts
      [.step, .subscribe, .step, .press (.hex 9), .frame] = c₂.act .frame := by
    rw [hrow, hfirst, hsecond]
  have hmachine : (c₂.act .frame).machine =
      { attentive.machine with ticket := some 2 }.countDown :=
    c₂.of_frame.1.trans (congrArg Machine.countDown hmachine₂)
  have hlookup : (c₂.act .frame).keypad.putAside.lookup 2 = some 9 := by
    show c₂.frame.2.keypad.putAside.lookup 2 = some 9
    rcases c₂.of_frame.2 with heq | heq
    · rw [heq, hkeypad₂]
      rfl
    · rw [heq, Keypad.putAside_tick, hkeypad₂]
      rfl
  have hticket : (c₂.act .frame).machine.ticket = some 2 :=
    congrArg Machine.ticket hmachine
  have hwaits : (c₂.act .frame).machine.AwaitsKey 3 := by
    rw [hmachine]
    exact hawaits
  obtain ⟨hheld, _⟩ := no_stale_ticket _ _ _ _ _ hacts.symm
  obtain ⟨x, opcode, hword, hdecode, _, hstored, _⟩ := hheld 2 hticket
  obtain ⟨opcode', hword', hdecode'⟩ := hwaits
  cases hword.symm.trans hword'
  cases hdecode.symm.trans hdecode'
  obtain ⟨hgot, _⟩ := hstored 9 hlookup
  refine ⟨_, hacts.symm, hticket, hlookup, ⟨opcode, hword, hdecode⟩, ?_, ?_⟩
  · rw [hgot]
    exact Machine.register_setRegister _ 3 3 9
  · rw [hgot]
    rfl

end Console

end Chip8
