import Chip8.IoError

/-!
# The keypad

A `Keypad` is what has been heard from the keyboard: which keys are held, who
waits for the next key, and whether the device has died.

The device tells of key-downs only.  A press therefore counts as held for a
number of frames (`Key.pressFrames`) and is then forgotten, unless the key
goes down again.

Someone who needs the very next key takes a *ticket*.  The first press of a
hex key after that is put aside for the ticket, once, and is handed out when
the holder asks.  Only the newest ticket waits: taking one makes every older
one that has not been answered void.
-/

namespace Chip8

/-- A key: one of the keypad's, or the one that ends the program. -/
inductive Key where
  /-- A key of the keypad.  Values above 15 name keys that no keypad has. -/
  | hex (value : UInt8)
  /-- The user wants to stop. -/
  | exit
  deriving DecidableEq, Repr

namespace Key

/-- The keypad's key for a register value, if there is one. -/
def ofValue? (value : UInt8) : Option Key :=
  if value < 16 then some (hex value) else none

/-- How many frames a single press counts as held. -/
def pressFrames : Nat := 1

end Key

/-- A right to the next key.  Tickets are numbered as they are issued. -/
abbrev Ticket := Nat

/-- What a ticket is worth when it is presented. -/
inductive Delivery where
  /-- The key that was put aside for it. -/
  | key (value : UInt8)
  /-- Nothing yet; the ticket waits. -/
  | pending
  /-- Nothing, ever: it has been answered, or a newer ticket made it void. -/
  | void
  deriving DecidableEq, Repr

/-- What has been heard from the keyboard. -/
structure Keypad where
  /-- For how many more frames each hex key is held. -/
  hexFrames : Vector Nat UInt8.size := Vector.replicate UInt8.size 0
  /-- For how many more frames the exit key is held. -/
  exitFrames : Nat := 0
  /-- How many tickets have been issued. -/
  issued : Nat := 0
  /-- The ticket that waits for the next hex key. -/
  waiting : Option Ticket := none
  /-- Keys put aside for tickets that have not been presented since. -/
  putAside : List (Ticket × UInt8) := []
  /-- The first failure of the device. -/
  failure : Option IoError := none
  deriving DecidableEq, Repr

namespace Keypad

/-! ## Held keys -/

/-- For how many more frames a key is held. -/
def framesLeft (k : Keypad) : Key → Nat
  | .hex value => k.hexFrames[value.toFin]
  | .exit => k.exitFrames

/-- Whether a key is held. -/
def isHeld (k : Keypad) (key : Key) : Bool :=
  0 < k.framesLeft key

/-- The hex keys that are held, the smallest first. -/
def heldHex (k : Keypad) : List UInt8 :=
  ((List.finRange UInt8.size).filter fun i => 0 < k.hexFrames[i]).map UInt8.ofFin

/-- The keys that are held: hex keys, the smallest first, then the exit key. -/
def held (k : Keypad) : List Key :=
  k.heldHex.map Key.hex ++ if 0 < k.exitFrames then [Key.exit] else []

/-- The smallest hex key that is held.  The exit key does not count. -/
def heldButton (k : Keypad) : Option UInt8 :=
  ((List.finRange UInt8.size).find? fun i => 0 < k.hexFrames[i]).map UInt8.ofFin

/-- A frame has passed. -/
def tick (k : Keypad) : Keypad :=
  { k with
    hexFrames := k.hexFrames.map (· - 1)
    exitFrames := k.exitFrames - 1 }

/-! ## Presses and tickets -/

/-- Gives a hex key to the ticket that waits for one, if any. -/
def deliver (k : Keypad) (value : UInt8) : Keypad :=
  match k.waiting with
  | some t => { k with waiting := none, putAside := (t, value) :: k.putAside }
  | none => k

/-- A key went down. -/
def press (k : Keypad) : Key → Keypad
  | .hex value =>
    { k with hexFrames := k.hexFrames.set value.toFin.val Key.pressFrames }.deliver
      value
  | .exit => { k with exitFrames := Key.pressFrames }

/-- Takes a ticket for the next hex key. -/
def subscribe (k : Keypad) : Ticket × Keypad :=
  (k.issued, { k with issued := k.issued + 1, waiting := some k.issued })

/-- Presents a ticket.  A key that was put aside for it is handed out. -/
def receive (k : Keypad) (t : Ticket) : Delivery × Keypad :=
  match k.putAside.lookup t with
  | some value =>
    (.key value, { k with putAside := k.putAside.filter fun p => p.1 ≠ t })
  | none => (if k.waiting = some t then .pending else .void, k)

/-- Gives a ticket up.  A key that was put aside for it is lost.  If it waits,
it goes on doing so, and the next hex key is spent on it. -/
def giveUp (k : Keypad) (t : Ticket) : Keypad :=
  { k with putAside := k.putAside.filter fun p => p.1 ≠ t }

/-! ## The device -/

/-- The device failed.  Only its first failure is remembered. -/
def fail (k : Keypad) (e : IoError) : Keypad :=
  { k with failure := k.failure.or (some e) }

/-- Fails as the device did, if it has. -/
def check (k : Keypad) : Except IoError Unit :=
  match k.failure with
  | some e => .error e
  | none => .ok ()

end Keypad

end Chip8
