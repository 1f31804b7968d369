import Chip8.Proofs.Effects
import Mathlib.Data.List.Induction

/-!
# What the timers show

The machine has two timers, and an instruction that sets each of them.  A frame
counts both down, also if the keyboard turns out to be dead or the picture cannot
be shown, and nothing else changes them.  So a timer shows the value that it was
set to last, less one for every frame since then, and never less than zero.

When a timer was set and how many frames there have been since then is read off
what was done, walking back from the end (`Entry.lastSet?`, `Entry.framesSince`).

## Main results

* `Machine.Effect.timer` — what an instruction does to a timer.
* `Console.timer_act`, `Console.timer_acts` — what an action does to it, and what
  a run does.
* `Console.timers_count_frames` — what the timers show, and what is read from
  them.
-/

namespace Chip8

/-- The timers of the machine. -/
inductive Timer where
  | delay
  | sound
  deriving DecidableEq, Repr

namespace Timer

/-- The instruction that sets a timer to the value of a register. -/
def setter : Timer → Register → Instruction
  | delay => .setDelay
  | sound => .setSound

/-- The register whose value an instruction sets a timer to. -/
def source? : Timer → Instruction → Option Register
  | delay, .setDelay x => some x
  | sound, .setSound x => some x
  | _, _ => none

theorem source?_eq_some_iff {t : Timer} {i : Instruction} {x : Register} :
    t.source? i = some x ↔ i = t.setter x := by
  cases t <;> cases i <;> simp [source?, setter]

end Timer

namespace Machine

/-- What a timer shows. -/
def timer (m : Machine) : Timer → UInt8
  | .delay => m.delay
  | .sound => m.sound

/-- A frame takes one from a timer, unless it shows zero. -/
theorem timer_countDown (m : Machine) (t : Timer) :
    (m.countDown.timer t).toNat = (m.timer t).toNat - 1 := by
  have hlt (value : UInt8) : value.toNat - 1 < 2 ^ 8 :=
    Nat.lt_of_le_of_lt (Nat.sub_le _ _) value.toNat_lt
  cases t with
  | delay => exact UInt8.toNat_ofNat_of_lt' (hlt m.delay)
  | sound => exact UInt8.toNat_ofNat_of_lt' (hlt m.sound)

/-- An instruction changes a timer only if it is the one that sets it. -/
theorem Effect.timer {m after : Machine} {k : Keypad} {i : Instruction}
    (h : m.Effect k i after) (t : Timer) :
    after.timer t = ((t.source? i).map m.register).getD (m.timer t) := by
  cases h with
  | table hkey htable =>
      apply UInt8.toNat_inj.mp
      cases t with
      | delay =>
          have hdelay := htable.delay
          cases i with
          | setDelay x => exact hdelay
          | _ => exact hdelay
      | sound =>
          have hsound := htable.sound
          cases i with
          | setSound x => exact hsound
          | _ => exact hsound
  | gotKey x value ticket => cases t <;> rfl
  | stalled x ticket => cases t <;> rfl

end Machine

/-! ## What was done -/

/-- An action that was done, and the value that it set a timer to, if it did. -/
structure Entry where
  action : Action
  set? : Option UInt8

namespace Entry

/-- The value that the timer was set to last, if it was. -/
def lastSet? (entries : List Entry) : Option UInt8 :=
  entries.reverse.findSome? set?

/-- How many frames there have been since then. -/
def framesSince (entries : List Entry) : Nat :=
  (entries.reverse.takeWhile (·.set?.isNone)).countP (·.action = .frame)

variable (entries : List Entry) (entry : Entry)

theorem lastSet?_concat :
    lastSet? (entries ++ [entry]) = entry.set?.or (lastSet? entries) := by
  rw [lastSet?, List.reverse_append, List.reverse_singleton,
    List.singleton_append, List.findSome?_cons]
  cases entry.set? <;> rfl

theorem framesSince_concat :
    framesSince (entries ++ [entry]) =
      if entry.set?.isSome then 0
      else framesSince entries + if entry.action = .frame then 1 else 0 := by
  rw [framesSince, List.reverse_append, List.reverse_singleton,
    List.singleton_append, List.takeWhile_cons]
  cases entry.set? with
  | some value => rfl
  | none =>
      show List.countP _ (entry :: _) = _
      rw [List.countP_cons]
      simp [framesSince]

end Entry

namespace Console

variable {σ : Type}

/-- The value that an action sets a timer to, if it carries out the instruction
for that. -/
def set? (c : Console σ) (t : Timer) (action : Action) : Option UInt8 :=
  ((c.executed? action).bind t.source?).map c.machine.register

variable [Screen σ]

/-- What some actions do to a timer, one after the other. -/
def entries (c : Console σ) (t : Timer) : List Action → List Entry
  | [] => []
  | action :: rest => ⟨action, c.set? t action⟩ :: (c.act action).entries t rest

theorem entries_concat (c : Console σ) (t : Timer) (actions : List Action)
    (action : Action) :
    c.entries t (actions ++ [action]) =
      c.entries t actions ++ [⟨action, (c.acts actions).set? t action⟩] := by
  induction actions generalizing c with
  | nil => rfl
  | cons first rest ih => exact congrArg _ (ih (c.act first))

/-! ## What the timers show -/

/-- An action sets a timer, or counts it down if it is a frame, or leaves it as
it is. -/
theorem timer_act (c : Console σ) (t : Timer) (action : Action) :
    ((c.act action).machine.timer t).toNat =
      match c.set? t action with
      | some value => value.toNat
      | none => (c.machine.timer t).toNat - if action = .frame then 1 else 0 := by
  cases action with
  | step =>
      cases hstep : c.step with
      | error f =>
          rw [act_step_of_error hstep]
          simp only [set?, executed?, hstep]
          rfl
      | ok c' =>
          obtain ⟨i, hnext, _, heffect⟩ :=
            Machine.effect_of_step (of_step_eq_ok hstep).1
          rw [act_step_of_ok hstep, heffect.timer t]
          simp only [set?, executed?, hstep, hnext, Option.bind_some]
          cases t.source? i <;> rfl
  | frame =>
      show (c.frame.2.machine.timer t).toNat = _
      rw [c.of_frame.1, Machine.timer_countDown]
      rfl
  | _ => rfl

/-- A timer shows what it was set to last, or what it showed at first, less one
for every frame since then. -/
theorem timer_acts (c : Console σ) (t : Timer) (actions : List Action) :
    ((c.acts actions).machine.timer t).toNat =
      ((Entry.lastSet? (c.entries t actions)).getD (c.machine.timer t)).toNat -
        Entry.framesSince (c.entries t actions) := by
  induction actions using List.reverseRecOn with
  | nil => rfl
  | append_singleton actions action ih =>
      have hacts : c.acts (actions ++ [action]) = (c.acts actions).act action :=
        acts_append c actions [action]
      rw [hacts, timer_act, entries_concat, Entry.lastSet?_concat,
        Entry.framesSince_concat]
      cases (c.acts actions).set? t action with
      | some value => rfl
      | none =>
          dsimp only
          rw [ih, Nat.sub_sub]
          rfl

/-- What is read from the delay timer is what it shows. -/
theorem register_of_executed_getDelay {c : Console σ} {x : Register}
    (h : c.executed? .step = some (.getDelay x)) :
    (c.act .step).machine.register x = c.machine.timer .delay := by
  have hvalue := (after_of_executed h nofun).register x
  rw [Table.register, if_pos rfl] at hvalue
  exact UInt8.toNat_inj.mp hvalue

/-- **Timers count frames.**  After any run, whatever it did and whether or not
its steps and frames succeeded:

* Either timer shows what it was set to last, which is zero if it never was,
  less one for every frame since then, and zero if there were more frames.
* That is what is read from the delay timer.
* A frame takes one from a timer that does not show zero, and nothing from one
  that does.
* Nothing else changes a timer but the instruction that sets it, which sets it
  to the value of its register. -/
theorem timers_count_frames (memory : Memory) (resolution : Resolution)
    (seed : UInt64) (screen : σ) (actions : List Action) {c : Console σ}
    (hc : c = (start memory resolution seed screen).acts actions)
    {entries : Timer → List Entry}
    (hentries : ∀ t,
      entries t = (start memory resolution seed screen).entries t actions) :
    (∀ t, (c.machine.timer t).toNat =
        ((Entry.lastSet? (entries t)).getD 0).toNat -
          Entry.framesSince (entries t)) ∧
      (∀ x, c.executed? .step = some (.getDelay x) →
        ((c.act .step).machine.register x).toNat =
          ((Entry.lastSet? (entries .delay)).getD 0).toNat -
            Entry.framesSince (entries .delay)) ∧
      (∀ t, ((c.act .frame).machine.timer t).toNat =
        (c.machine.timer t).toNat - 1) ∧
      (∀ t x, c.executed? .step = some (t.setter x) →
        (c.act .step).machine.timer t = c.machine.register x) ∧
      ∀ t action, action ≠ .frame →
        (∀ x, c.executed? action ≠ some (t.setter x)) →
        (c.act action).machine.timer t = c.machine.timer t := by
  have hshown (t : Timer) : (c.machine.timer t).toNat =
      ((Entry.lastSet? (entries t)).getD 0).toNat -
        Entry.framesSince (entries t) := by
    have hzero : (start memory resolution seed screen).machine.timer t = 0 := by
      cases t <;> rfl
    rw [hc, hentries, timer_acts, hzero]
  refine ⟨hshown, fun x hread => ?_, fun t => ?_, fun t x hset => ?_,
    fun t action hframe hother => ?_⟩
  · rw [register_of_executed_getDelay hread, hshown]
  · exact c.timer_act t .frame
  · have hvalue : c.set? t .step = some (c.machine.register x) := by
      rw [set?, hset, Option.bind_some, Timer.source?_eq_some_iff.mpr rfl]
      rfl
    have htimer := c.timer_act t .step
    rw [hvalue] at htimer
    exact UInt8.toNat_inj.mp htimer
  · have hnone : c.set? t action = none := by
      cases hexecuted : c.executed? action with
      | none => rw [set?, hexecuted]; rfl
      | some i =>
          have hsource : t.source? i = none := by
            rw [Option.eq_none_iff_forall_ne_some]
            intro x hx
            rw [Timer.source?_eq_some_iff.mp hx] at hexecuted
            exact hother x hexecuted
          rw [set?, hexecuted, Option.bind_some, hsource]
          rfl
    have htimer := c.timer_act t action
    rw [hnone, if_neg hframe] at htimer
    exact UInt8.toNat_inj.mp htimer

/-- A program that sets the delay timer to three and reads it later on. -/
def timing : Memory :=
  .loaded [0x65, 0x03, 0xF5, 0x15, 0xF6, 0x07] (by decide)

/-- The keyboard dies between two frames, of which the second one fails.  Both
are counted. -/
theorem timers_count_frames_dead_keyboard :
    ∃ c, c = (start timing .standard 0 ({} : Headless)).acts
        [.step, .step, .frame, .fail ⟨.other, "gone"⟩, .frame] ∧
      (c.machine.timer .delay).toNat = 3 - 2 ∧
      c.executed? .step = some (.getDelay 6) ∧
      ((c.act .step).machine.register 6).toNat = 3 - 2 := by
  have hacts (c : Console Headless) (e : IoError) :
      c.acts [.step, .step, .frame, .fail e, .frame] =
        ((c.act .step).act .step).acts [.frame, .fail e, .frame] := rfl
  have hentries (c : Console Headless) (t : Timer) (e : IoError) :
      c.entries t [.step, .step, .frame, .fail e, .frame] =
        [⟨.step, c.set? t .step⟩, ⟨.step, (c.act .step).set? t .step⟩,
          ⟨.frame, none⟩, ⟨.fail e, none⟩, ⟨.frame, none⟩] := rfl
  have hframes (c : Console Headless) (e : IoError) :
      (c.acts [.frame, .fail e, .frame]).machine =
        c.machine.countDown.countDown := by
    show (((c.act .frame).act (.fail e)).frame.2).machine = _
    rw [(of_frame _).1]
    show c.frame.2.machine.countDown = _
    rw [(of_frame _).1]
  obtain ⟨hfirst, hloaded⟩ := act_step_of_execute
    (c := start timing .standard 0 ({} : Headless)) (i := .setByte 5 3)
    (Memory.word_loaded (j := 0) (by decide) (by decide) rfl) (by decide) rfl
  let c₁ := (start timing .standard 0 ({} : Headless)).act .step
  have hword₁ : c₁.machine.memory.word c₁.machine.pc = .ok 0xF515 := by
    rw [show c₁ = _ from hloaded]
    exact Memory.word_loaded (j := 2) (by decide) (by decide) rfl
  obtain ⟨hsecond, hset⟩ := act_step_of_execute (i := .setDelay 5) hword₁
    (by decide) rfl
  let c := (c₁.act .step).acts [.frame, .fail ⟨.other, "gone"⟩, .frame]
  have hmachine : c.machine = (c₁.act .step).machine.countDown.countDown :=
    hframes _ _
  have hword : c.machine.memory.word c.machine.pc = .ok 0xF607 := by
    rw [hmachine, hset, show c₁ = _ from hloaded]
    exact Memory.word_loaded (j := 4) (by decide) (by decide) rfl
  obtain ⟨hread, _⟩ := act_step_of_execute (i := .getDelay 6) hword
    (by decide) rfl
  have hnothing :
      (start timing .standard 0 ({} : Headless)).set? .delay .step = none := by
    rw [set?, hfirst]
    rfl
  have hthree : c₁.set? .delay .step = some 3 := by
    rw [set?, hsecond, show c₁ = _ from hloaded]
    rfl
  obtain ⟨hshown, hvalue, _⟩ := timers_count_frames timing .standard 0
    ({} : Headless) [.step, .step, .frame, .fail ⟨.other, "gone"⟩, .frame]
    (hacts _ _).symm fun _ => rfl
  refine ⟨c, (hacts _ _).symm, ?_, hread, ?_⟩
  · rw [hshown, hentries, hnothing, hthree]
    rfl
  · rw [hvalue 6 hread, hentries, hnothing, hthree]
    rfl

end Console

end Chip8
