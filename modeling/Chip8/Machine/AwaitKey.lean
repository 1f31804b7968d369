import Chip8.Keypad.Basic

/-!
# Waiting for a key

`Fx0A` waits until there is a key.  Each time it runs it goes through three
phases, and the keypad may hear a press between any two of them:

1. `AwaitKey.present` presents the ticket that an earlier attempt took;
2. `Keypad.heldButton` looks for a key that is held;
3. `AwaitKey.arrange` takes a ticket, unless one is still waiting.

A press before the second phase is held in it, or was put aside for the ticket;
one after the third is put aside.  There is a gap between these two.  Where no
ticket waits, a press that comes there is held, but not put aside for the ticket
that is then taken.  If keys age before the next attempt, it is lost.
-/

namespace Chip8.AwaitKey

/-- Presents the ticket, if there is one.  A void ticket is thrown away. -/
def present (ticket : Option Ticket) (k : Keypad) :
    Option UInt8 × Option Ticket × Keypad :=
  match ticket with
  | none => (none, none, k)
  | some t =>
    match k.receive t with
    | (.key value, k) => (some value, some t, k)
    | (.pending, k) => (none, some t, k)
    | (.void, k) => (none, none, k)

/-- Sees to it that a ticket waits for the next key. -/
def arrange (ticket : Option Ticket) (k : Keypad) : Ticket × Keypad :=
  match ticket with
  | some t => (t, k)
  | none => k.subscribe

/-- One attempt to get a key.  Answers the key, if there is one, and the ticket
that is kept for the next attempt, if there is to be one.  A key that was put
aside comes before one that is held. -/
def attempt (ticket : Option Ticket) (k : Keypad) :
    Option UInt8 × Option Ticket × Keypad :=
  match present ticket k with
  | (some value, _, k) => (some value, none, k)
  | (none, ticket, k) =>
    match k.heldButton with
    | some value => (some value, none, k)
    | none =>
      let (t, k) := arrange ticket k
      (none, some t, k)

end Chip8.AwaitKey
