import Chip8.Keypad.Lemmas
import Chip8.Machine.AwaitKey

/-!
# What an attempt to get a key does

An attempt ends in one of four ways.  The key that was put aside for the ticket
comes first, then a key that is held; otherwise the ticket goes on waiting, or
a new one is taken.

## Main results

* `AwaitKey.attempt_cases` — an attempt is one of the four.
* `AwaitKey.attempt_of_lookup`, `AwaitKey.attempt_of_waiting` — when it is the
  first, and the third.
-/

namespace Chip8.AwaitKey

/-- How an attempt ended. -/
inductive AttemptCase (ticket : Option Ticket) (k : Keypad) :
    Option UInt8 × Option Ticket × Keypad → Prop
  | delivered {t : Ticket} {value : UInt8} (hticket : ticket = some t)
    (h : k.putAside.lookup t = some value) :
    AttemptCase ticket k (some value, none, k.giveUp t)
  | held {value : UInt8} (h : k.heldButton = some value) :
    AttemptCase ticket k (some value, none, k)
  | waits {t : Ticket} (hticket : ticket = some t)
    (hlookup : k.putAside.lookup t = none) (hwaiting : k.waiting = some t)
    (hheld : k.heldButton = none) :
    AttemptCase ticket k (none, some t, k)
  | subscribes (hheld : k.heldButton = none) :
    AttemptCase ticket k (none, some k.issued, k.subscribe.2)

variable {ticket : Option Ticket} {k : Keypad} {t : Ticket}

/-- Without a key that is handed out, an attempt looks for one that is held. -/
theorem attempt_of_present {left : Option Ticket}
    (h : present ticket k = (none, left, k)) :
    attempt ticket k =
      match k.heldButton with
      | some value => (some value, none, k)
      | none => (none, some (arrange left k).1, (arrange left k).2) := by
  cases hheld : k.heldButton with
  | some value => simp only [attempt, h, hheld]
  | none =>
      cases harrange : arrange left k with
      | mk t after => simp only [attempt, h, hheld, harrange]

/-- The key that was put aside for the ticket is taken. -/
theorem attempt_of_lookup {value : UInt8}
    (h : k.putAside.lookup t = some value) :
    attempt (some t) k = (some value, none, k.giveUp t) := by
  simp only [attempt, present, Keypad.receive_of_lookup h]

/-- A ticket that waits goes on waiting if no key is held. -/
theorem attempt_of_waiting (hlookup : k.putAside.lookup t = none)
    (hwaiting : k.waiting = some t) (hheld : k.heldButton = none) :
    attempt (some t) k = (none, some t, k) := by
  have hpresent : present (some t) k = (none, some t, k) := by
    simp only [present, Keypad.receive_of_lookup_eq_none hlookup, hwaiting,
      if_true]
  rw [attempt_of_present hpresent, hheld]
  rfl

/-- Every attempt ends in one of the four ways. -/
theorem attempt_cases (ticket : Option Ticket) (k : Keypad) :
    AttemptCase ticket k (attempt ticket k) := by
  -- Whoever has no ticket left is served alike, whether it was void or not.
  have hnew (h : present ticket k = (none, none, k)) :
      AttemptCase ticket k (attempt ticket k) := by
    rw [attempt_of_present h]
    cases hheld : k.heldButton with
    | some value => exact .held hheld
    | none => exact .subscribes hheld
  cases ticket with
  | none => exact hnew rfl
  | some t =>
      cases hlookup : k.putAside.lookup t with
      | some value =>
          rw [attempt_of_lookup hlookup]
          exact .delivered rfl hlookup
      | none =>
          have hreceive := Keypad.receive_of_lookup_eq_none hlookup
          by_cases hwaiting : k.waiting = some t
          · cases hheld : k.heldButton with
            | some value =>
                have hpresent : present (some t) k = (none, some t, k) := by
                  simp only [present, hreceive, hwaiting, if_true]
                rw [attempt_of_present hpresent, hheld]
                exact .held hheld
            | none =>
                rw [attempt_of_waiting hlookup hwaiting hheld]
                exact .waits rfl hlookup hwaiting hheld
          · apply hnew
            simp only [present, hreceive, hwaiting, if_false]

end Chip8.AwaitKey
