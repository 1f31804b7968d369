import Chip8.Proofs.Console

/-!
# What can be done to a console

Instructions and frames of the machine, keys and failures of the keyboard, and
tickets of others who listen to the same keypad: an `Action` is any of these,
as a whole.  What holds at the start and survives every action holds of every
console that can be reached.

## Main results

* `Console.numbered_act` — no action makes a ticket appear that was not issued.
* `Console.Reachable.numbered` — so no console holds one.
-/

namespace Chip8

/-- What can be done to a console. -/
inductive Action where
  /-- A key goes down. -/
  | press (key : Key)
  /-- The keyboard fails. -/
  | fail (e : IoError)
  /-- Key presses age, without a frame. -/
  | age
  /-- A frame is gone through. -/
  | frame
  /-- An instruction runs, unless it fails. -/
  | step
  /-- Someone else takes a ticket. -/
  | subscribe
  /-- Someone else presents a ticket. -/
  | receive (t : Ticket)
  /-- Someone else gives a ticket up. -/
  | giveUp (t : Ticket)
  deriving DecidableEq, Repr

namespace Action

/-- Whether it is done by someone else who listens to the keypad. -/
def isOthers : Action → Bool
  | subscribe | receive _ | giveUp _ => true
  | _ => false

/-- The hex key that goes down, if one does. -/
def hexKey? : Action → Option UInt8
  | press (.hex value) => some value
  | _ => none

end Action

namespace Console

variable {σ : Type} [Screen σ]

/-- The console after an action.  A step that fails leaves it as it was. -/
def act (c : Console σ) : Action → Console σ
  | .press key => c.press key
  | .fail e => { c with keypad := c.keypad.fail e }
  | .age => { c with keypad := c.keypad.tick }
  | .frame => c.frame.2
  | .step =>
    match c.step with
    | .ok c => c
    | .error _ => c
  | .subscribe => { c with keypad := c.keypad.subscribe.2 }
  | .receive t => { c with keypad := (c.keypad.receive t).2 }
  | .giveUp t => { c with keypad := c.keypad.giveUp t }

/-- A step that succeeds is taken. -/
theorem act_step_of_ok {c c' : Console σ} (h : c.step = .ok c') :
    c.act .step = c' := by
  simp only [act, h]

theorem act_step_of_error {c : Console σ} {f : Fault} (h : c.step = .error f) :
    c.act .step = c := by
  simp only [act, h]

/-- The console after some actions, one after the other. -/
def acts (c : Console σ) (actions : List Action) : Console σ :=
  actions.foldl act c

theorem acts_append (c : Console σ) (before after : List Action) :
    c.acts (before ++ after) = (c.acts before).acts after :=
  List.foldl_append

/-- The consoles that a program can bring about, whatever it is and whatever
else happens meanwhile. -/
inductive Reachable : Console σ → Prop
  | start (memory : Memory) (resolution : Resolution) (seed : UInt64)
    (screen : σ) :
    Reachable { machine := .start memory resolution seed, screen }
  | act {c : Console σ} (action : Action) :
    Reachable c → Reachable (c.act action)

end Console

/-! ## Tickets are numbered as they are issued -/

namespace Keypad

/-- Every ticket that waits, or for which a key was put aside, was issued. -/
structure Numbered (k : Keypad) : Prop where
  waiting : ∀ t, k.waiting = some t → t < k.issued
  putAside : ∀ p ∈ k.putAside, p.1 < k.issued

namespace Numbered

variable {k : Keypad}

/-- A ticket that is still to be issued has no key yet. -/
theorem lookup_of_issued_le (h : Numbered k) {t : Ticket} (ht : k.issued ≤ t) :
    k.putAside.lookup t = none := by
  rw [List.lookup_eq_none_iff]
  intro p hp
  have hlt := Nat.lt_of_lt_of_le (h.putAside p hp) ht
  simpa using Nat.ne_of_gt hlt

theorem lookup_issued (h : Numbered k) :
    k.putAside.lookup k.issued = none :=
  h.lookup_of_issued_le (Nat.le_refl _)

/-- A press hands its key to a ticket that was issued. -/
theorem press (h : Numbered k) (key : Key) : Numbered (k.press key) := by
  cases key with
  | exit => exact ⟨h.waiting, h.putAside⟩
  | hex value =>
      have hissued : (k.press (.hex value)).issued = k.issued := by
        unfold Keypad.press deliver
        cases k.waiting <;> rfl
      refine ⟨fun t ht => ?_, fun p hp => ?_⟩
      · rw [waiting_press_hex] at ht
        cases ht
      · rw [hissued]
        cases hwaiting : k.waiting with
        | none =>
            rw [putAside_press_hex_of_none value hwaiting] at hp
            exact h.putAside p hp
        | some t =>
            rw [putAside_press_hex_of_waiting value hwaiting] at hp
            rcases List.mem_cons.mp hp with rfl | hp
            · exact h.waiting t hwaiting
            · exact h.putAside p hp

theorem subscribe (h : Numbered k) : Numbered k.subscribe.2 := by
  refine ⟨fun t ht => ?_, fun p hp => ?_⟩
  · cases ht
    exact Nat.lt_succ_self k.issued
  · exact Nat.lt_succ_of_lt (h.putAside p hp)

theorem giveUp (h : Numbered k) (t : Ticket) : Numbered (k.giveUp t) :=
  ⟨h.waiting, fun p hp => h.putAside p (List.mem_filter.mp hp).1⟩

/-- A ticket that is presented is given up, or only looked at. -/
theorem receive (h : Numbered k) (t : Ticket) :
    Numbered (k.receive t).2 := by
  cases hlookup : k.putAside.lookup t with
  | some value =>
      rw [receive_of_lookup hlookup]
      exact h.giveUp t
  | none =>
      rw [receive_of_lookup_eq_none hlookup]
      exact h

end Numbered

end Keypad

namespace Console

variable {σ : Type} [Screen σ] {c : Console σ}

/-- No action makes a ticket appear that was not issued. -/
theorem numbered_act (h : c.keypad.Numbered) (action : Action) :
    (c.act action).keypad.Numbered := by
  cases action with
  | press key => exact h.press key
  | fail e => exact ⟨h.waiting, h.putAside⟩
  | age => exact ⟨h.waiting, h.putAside⟩
  | frame =>
      show c.frame.2.keypad.Numbered
      rcases c.of_frame.2 with heq | heq
      · rw [heq]
        exact h
      · rw [heq]
        exact ⟨h.waiting, h.putAside⟩
  | step =>
      cases hstep : c.step with
      | error f =>
          rw [act_step_of_error hstep]
          exact h
      | ok c' =>
          rw [act_step_of_ok hstep]
          have hkeypad := Machine.keypad_of_step (of_step_eq_ok hstep).1
          rcases hkeypad with heq | ⟨t, heq⟩ | heq
          · rw [heq]
            exact h
          · rw [heq]
            exact h.giveUp t
          · rw [heq]
            exact h.subscribe
  | subscribe => exact h.subscribe
  | receive t => exact h.receive t
  | giveUp t => exact h.giveUp t

/-- Whatever is done to a console that can be reached, what comes of it can be. -/
theorem Reachable.acts (h : c.Reachable) (actions : List Action) :
    (c.acts actions).Reachable := by
  induction actions generalizing c with
  | nil => exact h
  | cons action rest ih => exact ih (h.act action)

/-- A console that can be reached holds no ticket that was not issued. -/
theorem Reachable.numbered (h : c.Reachable) : c.keypad.Numbered := by
  induction h with
  | start memory resolution seed screen =>
      exact ⟨fun t ht => (by cases ht), fun p hp => (by cases hp)⟩
  | act action _ ih => exact numbered_act ih action

end Console

end Chip8
