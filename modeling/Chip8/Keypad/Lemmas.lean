import Chip8.Keypad.Basic

/-!
# What the operations of the keypad do

Held keys are seen through `Keypad.framesLeft`, tickets through
`Keypad.waiting` and `Keypad.putAside`, and the device through `Keypad.check`.
Each operation is described by what it does to these, so that none has to be
unfolded.

## Main results

* `framesLeft_press_self`, `framesLeft_press_of_ne` — a press sets the frames
  of its own key and leaves every other key alone.
* `framesLeft_tick` — a frame takes one from each key.
* `heldButton_eq_none_iff` — no hex key is found exactly if none is held.
* `waiting_press_hex`, `waiting_press_exit` — a hex key answers the ticket that
  waits, and the exit key does not.
* `putAside_press_hex_of_waiting`, `putAside_press_hex_of_none` — a hex key is
  put aside for the ticket that waits, and for nobody else.
* `check_eq_ok_iff` — a device is well exactly if it has not failed.
-/

namespace Chip8.Keypad

/-! ## Held keys -/

/-- Handing a key to a ticket does not touch the held keys. -/
@[simp] theorem framesLeft_deliver (k : Keypad) (value : UInt8) (key : Key) :
    (k.deliver value).framesLeft key = k.framesLeft key := by
  unfold deliver
  cases k.waiting <;> cases key <;> rfl

/-- A key that went down is held for the frames of a press. -/
@[simp] theorem framesLeft_press_self (k : Keypad) (key : Key) :
    (k.press key).framesLeft key = Key.pressFrames := by
  cases key with
  | hex value =>
    rw [press, framesLeft_deliver]
    exact Vector.getElem_set_self _
  | exit => rfl

/-- A press leaves every other key alone. -/
theorem framesLeft_press_of_ne (k : Keypad) {pressed key : Key}
    (h : pressed ≠ key) :
    (k.press pressed).framesLeft key = k.framesLeft key := by
  cases pressed with
  | hex value =>
    rw [press, framesLeft_deliver]
    cases key with
    | hex other =>
      have hne : value.toFin.val ≠ other.toFin.val := fun he =>
        h (congrArg Key.hex (UInt8.toFin_inj.mp (Fin.ext he)))
      exact Vector.getElem_set_ne value.toFin.isLt other.toFin.isLt hne
    | exit => rfl
  | exit =>
    cases key with
    | hex _ => rfl
    | exit => exact absurd rfl h

/-- A frame takes one from each key that is held. -/
@[simp] theorem framesLeft_tick (k : Keypad) (key : Key) :
    k.tick.framesLeft key = k.framesLeft key - 1 := by
  cases key <;> simp [tick, framesLeft]

@[simp] theorem framesLeft_subscribe (k : Keypad) (key : Key) :
    k.subscribe.2.framesLeft key = k.framesLeft key := by
  cases key <;> rfl

@[simp] theorem framesLeft_fail (k : Keypad) (e : IoError) (key : Key) :
    (k.fail e).framesLeft key = k.framesLeft key := by
  cases key <;> rfl

@[simp] theorem framesLeft_giveUp (k : Keypad) (t : Ticket) (key : Key) :
    (k.giveUp t).framesLeft key = k.framesLeft key := by
  cases key <;> rfl

/-- No hex key is found exactly if none is held. -/
theorem heldButton_eq_none_iff {k : Keypad} :
    k.heldButton = none ↔ ∀ value, k.framesLeft (.hex value) = 0 := by
  unfold heldButton
  rw [Option.map_eq_none_iff, List.find?_eq_none]
  constructor
  · intro h value
    have hvalue := h value.toFin (List.mem_finRange _)
    simpa [framesLeft] using hvalue
  · intro h i _
    have hi : k.hexFrames[i] = 0 := h (UInt8.ofFin i)
    simp [hi]

@[simp] theorem isHeld_press_self (k : Keypad) (key : Key) :
    (k.press key).isHeld key = true := by
  simp [isHeld, Key.pressFrames]

/-! ## Tickets -/

/-- The exit key answers no ticket. -/
@[simp] theorem waiting_press_exit (k : Keypad) :
    (k.press .exit).waiting = k.waiting := rfl

/-- A hex key answers the ticket that waits, so none waits behind it. -/
@[simp] theorem waiting_press_hex (k : Keypad) (value : UInt8) :
    (k.press (.hex value)).waiting = none := by
  unfold press deliver
  cases k.waiting <;> rfl

@[simp] theorem waiting_subscribe (k : Keypad) :
    k.subscribe.2.waiting = some k.subscribe.1 := rfl

@[simp] theorem waiting_tick (k : Keypad) : k.tick.waiting = k.waiting := rfl

@[simp] theorem waiting_fail (k : Keypad) (e : IoError) :
    (k.fail e).waiting = k.waiting := rfl

@[simp] theorem putAside_press_exit (k : Keypad) :
    (k.press .exit).putAside = k.putAside := rfl

/-- A hex key is put aside for the ticket that waits. -/
theorem putAside_press_hex_of_waiting {k : Keypad} {t : Ticket}
    (value : UInt8) (h : k.waiting = some t) :
    (k.press (.hex value)).putAside = (t, value) :: k.putAside := by
  simp only [press, deliver, h]

/-- If no ticket waits, a hex key is put aside for nobody. -/
theorem putAside_press_hex_of_none {k : Keypad} (value : UInt8)
    (h : k.waiting = none) :
    (k.press (.hex value)).putAside = k.putAside := by
  simp only [press, deliver, h]

@[simp] theorem putAside_tick (k : Keypad) :
    k.tick.putAside = k.putAside := rfl

@[simp] theorem putAside_fail (k : Keypad) (e : IoError) :
    (k.fail e).putAside = k.putAside := rfl

/-- A ticket for which a key was put aside is exchanged for it. -/
theorem receive_of_lookup {k : Keypad} {t : Ticket} {value : UInt8}
    (h : k.putAside.lookup t = some value) :
    k.receive t = (.key value, k.giveUp t) := by
  simp only [receive, giveUp, h]

/-- A ticket for which none was put aside is only looked at. -/
theorem receive_of_lookup_eq_none {k : Keypad} {t : Ticket}
    (h : k.putAside.lookup t = none) :
    k.receive t =
      (if k.waiting = some t then .pending else .void, k) := by
  simp only [receive, h]

/-! ## The device -/

/-- A device that has died tells its failure. -/
theorem check_of_failure {k : Keypad} {e : IoError} (h : k.failure = some e) :
    k.check = .error e := by
  simp only [check, h]

/-- A device is well exactly if it has not failed. -/
theorem check_eq_ok_iff {k : Keypad} :
    k.check = .ok () ↔ k.failure = none := by
  unfold check
  cases k.failure <;> simp

/-- Presses do not mend a device, nor break one. -/
@[simp] theorem failure_press (k : Keypad) (key : Key) :
    (k.press key).failure = k.failure := by
  cases key with
  | hex value =>
    unfold press deliver
    cases k.waiting <;> rfl
  | exit => rfl

/-- Nor does a ticket that is presented. -/
@[simp] theorem failure_receive (k : Keypad) (t : Ticket) :
    (k.receive t).2.failure = k.failure := by
  unfold receive
  cases k.putAside.lookup t <;> rfl

end Chip8.Keypad
