import Chip8.Proofs.FirstKey

/-!
# A press in the middle of an attempt

An attempt to get a key goes to the keypad up to three times: it presents its
ticket, looks for a key that is held, and takes a new ticket if it has none
that waits.  The keyboard may be heard between any two of them.

A press is caught almost everywhere.  It answers the ticket that waits, or is
held when the attempt looks for it.  There is one gap.  An attempt that has
looked in vain and has no ticket yet is about to take one; a press that comes
just then is held for a frame and no longer, and no ticket is answered by it.
If the next attempt comes after that frame, the key is lost.

## Main results

* `AwaitKey.goes_three` — an attempt that nobody disturbs is the one that the
  instruction makes.
* `AwaitKey.Quiet.goes`, `AwaitKey.Caught.goes` — an attempt before the press
  and after it.
* `Console.press_between` — what becomes of a press, wherever it comes.
* `Console.press_lost` — a press that is lost.
-/

namespace Chip8

/-! ## The three times -/

namespace AwaitKey

/-- How far an attempt has got. -/
inductive Stage where
  /-- It is about to present its ticket. -/
  | presenting (t : Ticket)
  /-- It is about to look for a key that is held. -/
  | looking (ticket : Option Ticket)
  /-- It is about to take a ticket. -/
  | arranging
  /-- It has ended, with a key or without, and with the ticket that is kept. -/
  | finished (key : Option UInt8) (ticket : Option Ticket)
  deriving DecidableEq, Repr

namespace Stage

/-- How an attempt begins. -/
def first : Option Ticket → Stage
  | some t => presenting t
  | none => looking none

/-- Goes to the keypad once. -/
def go : Stage → Keypad → Stage × Keypad
  | presenting t, k =>
    match k.receive t with
    | (.key value, k) => (finished (some value) none, k)
    | (.pending, k) => (looking (some t), k)
    | (.void, k) => (looking none, k)
  | looking ticket, k =>
    match k.heldButton, ticket with
    | some value, _ => (finished (some value) none, k)
    | none, some t => (finished none (some t), k)
    | none, none => (arranging, k)
  | arranging, k => (finished none (some k.subscribe.1), k.subscribe.2)
  | finished key ticket, k => (finished key ticket, k)

/-- Goes to the keypad some times. -/
def goes (s : Stage) : Nat → Keypad → Stage × Keypad
  | 0, k => (s, k)
  | n + 1, k => (s.go k).1.goes n (s.go k).2

/-- How many times an attempt may still go to the keypad. -/
def left : Stage → Nat
  | presenting _ => 3
  | looking _ => 2
  | arranging => 1
  | finished _ _ => 0

theorem left_first_le (ticket : Option Ticket) : (first ticket).left ≤ 3 := by
  cases ticket with
  | some t => exact Nat.le_refl 3
  | none => exact Nat.le_succ 2

theorem left_go_le (s : Stage) (k : Keypad) : (s.go k).1.left ≤ s.left - 1 := by
  cases s with
  | presenting t =>
      unfold go
      dsimp only
      split <;> simp only [left] <;> omega
  | looking ticket =>
      unfold go
      dsimp only
      split <;> simp only [left] <;> omega
  | arranging => exact Nat.le_refl 0
  | finished key ticket => exact Nat.le_refl 0

theorem left_goes_le (s : Stage) (n : Nat) (k : Keypad) :
    (s.goes n k).1.left ≤ s.left - n := by
  induction n generalizing s k with
  | zero => exact Nat.le_refl _
  | succ n ih =>
      have hgo := s.left_go_le k
      have hrest := ih (s.go k).1 (s.go k).2
      show ((s.go k).1.goes n (s.go k).2).1.left ≤ _
      omega

theorem exists_finished_of_left {s : Stage} (h : s.left = 0) :
    ∃ key ticket, s = finished key ticket := by
  cases s with
  | finished key ticket => exact ⟨key, ticket, rfl⟩
  | presenting t => cases h
  | looking ticket => cases h
  | arranging => cases h

/-- What is finished stays so. -/
theorem goes_finished (key : Option UInt8) (ticket : Option Ticket) (n : Nat)
    (k : Keypad) : (finished key ticket).goes n k = (finished key ticket, k) := by
  induction n with
  | zero => rfl
  | succ n ih => exact ih

/-- Whoever is about to take a ticket takes it, and the attempt is finished. -/
theorem goes_arranging (n : Nat) (k : Keypad) :
    arranging.goes (n + 1) k =
      (finished none (some k.subscribe.1), k.subscribe.2) :=
  goes_finished _ _ n _

/-- After three times an attempt is finished, also if someone else goes to the
keypad in between. -/
theorem exists_finished {ticket : Option Ticket} {before after : Nat}
    (henough : 3 ≤ before + after) {k k₀ : Keypad} {s : Stage}
    (hbefore : (first ticket).goes before k = (s, k₀)) (k₁ : Keypad) :
    ∃ key ticket k₂, s.goes after k₁ = (finished key ticket, k₂) := by
  have hfirst := left_first_le ticket
  have hmiddle := (first ticket).left_goes_le before k
  rw [hbefore] at hmiddle
  dsimp only at hmiddle
  have hlast := s.left_goes_le after k₁
  obtain ⟨key, ticket, hfinished⟩ := exists_finished_of_left
    (show (s.goes after k₁).1.left = 0 by omega)
  exact ⟨key, ticket, _, Prod.ext hfinished rfl⟩

/-- Whoever has no ticket looks for a key first, and may be about to take
one. -/
theorem goes_one_of_none {k : Keypad} (h : k.heldButton = none) :
    (first none).goes 1 k = (arranging, k) := by
  simp only [first, goes, go, h]

/-- Whoever looks for a key that is held finds it, or sees to a ticket. -/
theorem goes_looking (ticket : Option Ticket) (n : Nat) (k : Keypad) :
    (looking ticket).goes (n + 2) k =
      match k.heldButton with
      | some value => (finished (some value) none, k)
      | none =>
        (finished none (some (arrange ticket k).1), (arrange ticket k).2) := by
  cases hheld : k.heldButton with
  | some value => simp only [goes, go, hheld, goes_finished]
  | none =>
      cases ticket with
      | some t => simp only [goes, go, hheld, goes_finished, arrange]
      | none => simp only [goes, go, hheld, goes_finished, arrange]

end Stage

/-- An attempt that nobody disturbs is finished after three times, and has got
what the instruction gets. -/
theorem goes_three (ticket : Option Ticket) (k : Keypad) :
    (Stage.first ticket).goes 3 k =
      (.finished (attempt ticket k).1 (attempt ticket k).2.1,
        (attempt ticket k).2.2) := by
  have hlook (left : Option Ticket) (n : Nat)
      (h : present ticket k = (none, left, k)) :
      (Stage.looking left).goes (n + 2) k =
        (.finished (attempt ticket k).1 (attempt ticket k).2.1,
          (attempt ticket k).2.2) := by
    rw [Stage.goes_looking, attempt_of_present h]
    cases k.heldButton <;> rfl
  cases ticket with
  | none => exact hlook none 1 rfl
  | some t =>
      cases hlookup : k.putAside.lookup t with
      | some value =>
          have hreceive := Keypad.receive_of_lookup hlookup
          rw [attempt_of_lookup hlookup]
          simp only [Stage.first, Stage.goes, Stage.go, hreceive]
      | none =>
          have hreceive := Keypad.receive_of_lookup_eq_none hlookup
          by_cases hwaiting : k.waiting = some t
          · rw [← hlook (some t) 0]
            · simp only [Stage.first, Stage.goes, Stage.go, hreceive, hwaiting,
                if_true]
            · simp only [present, hreceive, hwaiting, if_true]
          · rw [← hlook none 0]
            · simp only [Stage.first, Stage.goes, Stage.go, hreceive, hwaiting,
                if_false]
            · simp only [present, hreceive, hwaiting, if_false]

end AwaitKey

/-! ## The key that went down -/

namespace Keypad

variable {k : Keypad} {t : Ticket} {value : UInt8}

/-- A key that is found is held. -/
theorem framesLeft_of_heldButton (h : k.heldButton = some value) :
    0 < k.framesLeft (.hex value) := by
  obtain ⟨i, hi, rfl⟩ := Option.map_eq_some_iff.mp h
  have hfound := List.find?_some hi
  exact of_decide_eq_true hfound

/-- The only key that is held is found. -/
theorem heldButton_eq_some (hheld : 0 < k.framesLeft (.hex value))
    (hothers : ∀ other, other ≠ value → k.framesLeft (.hex other) = 0) :
    k.heldButton = some value := by
  cases h : k.heldButton with
  | none =>
      rw [heldButton_eq_none_iff.mp h value] at hheld
      cases hheld
  | some other =>
      by_cases heq : other = value
      · rw [heq]
      · have hup := hothers other heq
        have hdown := framesLeft_of_heldButton h
        omega

/-- After a press no hex key is held but those that were, and the pressed
one. -/
theorem framesLeft_press_hex_of_ne (k : Keypad) {other : UInt8}
    (h : other ≠ value) :
    (k.press (.hex value)).framesLeft (.hex other) =
      k.framesLeft (.hex other) :=
  framesLeft_press_of_ne k fun heq => h (Key.hex.inj heq).symm

/-- A key that went down while no other was held is found. -/
theorem heldButton_press (hup : ∀ other, k.framesLeft (.hex other) = 0)
    (value : UInt8) : (k.press (.hex value)).heldButton = some value := by
  apply heldButton_eq_some
  · rw [framesLeft_press_self]
    exact Nat.one_pos
  · intro other hne
    rw [framesLeft_press_hex_of_ne k hne, hup]

/-- On a new keypad no hex key is held. -/
theorem framesLeft_fresh (value : UInt8) :
    ({} : Keypad).framesLeft (.hex value) = 0 := by
  simp [framesLeft]

/-- Nobody waits for a key, and no hex key is down. -/
structure Unasked (k : Keypad) : Prop where
  numbered : k.Numbered
  waiting : k.waiting = none
  up : ∀ value, k.framesLeft (.hex value) = 0

/-- A ticket waits, but a key may be held that went down before it was taken. -/
structure Late (t : Ticket) (value : UInt8) (k : Keypad) : Prop where
  waiting : k.waiting = some t
  lookup : k.putAside.lookup t = none
  others : ∀ other, other ≠ value → k.framesLeft (.hex other) = 0

/-- A ticket that is taken right behind a press is too late for it. -/
theorem Unasked.late (h : Unasked k) (value : UInt8) :
    Late (k.press (.hex value)).subscribe.1 value
      (k.press (.hex value)).subscribe.2 where
  waiting := waiting_subscribe _
  lookup := (h.numbered.press (.hex value)).lookup_issued
  others other hne := by
    rw [framesLeft_subscribe, framesLeft_press_hex_of_ne k hne, h.up]

namespace Late

theorem tick (h : Late t value k) : Late t value k.tick where
  waiting := h.waiting
  lookup := h.lookup
  others other hne := by rw [framesLeft_tick, h.others other hne]

theorem fail (h : Late t value k) (e : IoError) : Late t value (k.fail e) where
  waiting := h.waiting
  lookup := h.lookup
  others other hne := by rw [framesLeft_fail, h.others other hne]

theorem press_exit (h : Late t value k) : Late t value (k.press .exit) where
  waiting := h.waiting
  lookup := h.lookup
  others other hne := by
    have hkey : Key.exit ≠ .hex other := nofun
    rw [framesLeft_press_of_ne k hkey, h.others other hne]

/-- The key is still found as long as it is held. -/
theorem heldButton (h : Late t value k) (hheld : k.isHeld (.hex value)) :
    k.heldButton = some value :=
  heldButton_eq_some (of_decide_eq_true hheld) h.others

/-- After that nothing is left of it. -/
theorem pending (h : Late t value k) (hup : k.isHeld (.hex value) = false) :
    Pending t k where
  waiting := h.waiting
  lookup := h.lookup
  up other := by
    by_cases heq : other = value
    · rw [heq]
      exact Nat.eq_zero_of_not_pos (of_decide_eq_false hup)
    · exact h.others other heq

end Late

end Keypad

/-! ## Before the press and after it -/

namespace AwaitKey

variable {s : Stage} {k : Keypad} {value : UInt8}

/-- How far an attempt has got while no hex key is down. -/
inductive Quiet : Stage → Keypad → Prop
  | ticket {t : Ticket} {k : Keypad} (h : k.Pending t) :
    Quiet (.presenting t) k
  | void {t : Ticket} {k : Keypad} (h : k.Unasked)
    (hlookup : k.putAside.lookup t = none) : Quiet (.presenting t) k
  | looking {t : Ticket} {k : Keypad} (h : k.Pending t) :
    Quiet (.looking (some t)) k
  | empty {k : Keypad} (h : k.Unasked) : Quiet (.looking none) k
  | arranging {k : Keypad} (h : k.Unasked) : Quiet .arranging k
  | finished {t : Ticket} {k : Keypad} (h : k.Pending t) :
    Quiet (.finished none (some t)) k

/-- An attempt of someone who is the only one to wait, if anyone does, begins
like this. -/
theorem Quiet.first {ticket : Option Ticket} (hk : k.Numbered)
    (hup : ∀ value, k.framesLeft (.hex value) = 0)
    (hdelivered : ∀ t, ticket = some t → k.putAside.lookup t = none)
    (hothers : ∀ t, k.waiting = some t → ticket = some t) :
    Quiet (.first ticket) k := by
  cases hwaiting : k.waiting with
  | none =>
      have hunasked : k.Unasked := ⟨hk, hwaiting, hup⟩
      cases ticket with
      | none => exact .empty hunasked
      | some t => exact .void hunasked (hdelivered t rfl)
  | some t =>
      rw [hothers t hwaiting]
      exact .ticket ⟨hwaiting, hdelivered t (hothers t hwaiting), hup⟩

/-- It goes on like this. -/
theorem Quiet.go (h : Quiet s k) : Quiet (s.go k).1 (s.go k).2 := by
  cases h with
  | ticket h =>
      simp only [Stage.go, Keypad.receive_of_lookup_eq_none h.lookup, h.waiting,
        if_true]
      exact .looking h
  | void h hlookup =>
      have hnot (t : Ticket) : k.waiting ≠ some t := by
        rw [h.waiting]
        exact nofun
      simp only [Stage.go, Keypad.receive_of_lookup_eq_none hlookup, hnot,
        if_false]
      exact .empty h
  | looking h =>
      simp only [Stage.go, Keypad.heldButton_eq_none_iff.mpr h.up]
      exact .finished h
  | empty h =>
      simp only [Stage.go, Keypad.heldButton_eq_none_iff.mpr h.up]
      exact .arranging h
  | arranging h =>
      refine .finished ⟨rfl, h.numbered.lookup_issued, fun value => ?_⟩
      rw [Stage.go, Keypad.framesLeft_subscribe, h.up]
  | finished h => exact .finished h

theorem Quiet.goes (h : Quiet s k) (n : Nat) :
    Quiet (s.goes n k).1 (s.goes n k).2 := by
  induction n generalizing s k with
  | zero => exact h
  | succ n ih => exact ih h.go

/-- How far an attempt has got after a key went down that it will not miss. -/
inductive Caught (value : UInt8) : Stage → Keypad → Prop
  | presenting {t : Ticket} {k : Keypad} (hheld : k.heldButton = some value)
    (hlookup : ∀ other, k.putAside.lookup t = some other → other = value) :
    Caught value (.presenting t) k
  | looking {ticket : Option Ticket} {k : Keypad}
    (hheld : k.heldButton = some value) : Caught value (.looking ticket) k
  | got {k : Keypad} : Caught value (.finished (some value) none) k
  | waits {t : Ticket} {k : Keypad} (h : k.Answered t value) :
    Caught value (.finished none (some t)) k

/-- A press is not missed, unless the attempt is about to take a ticket. -/
theorem Quiet.press (h : Quiet s k) (value : UInt8) (hgap : s ≠ .arranging) :
    Caught value s (k.press (.hex value)) := by
  cases h with
  | ticket h =>
      refine .presenting (Keypad.heldButton_press h.up value) fun other hgot => ?_
      exact Option.some.inj (hgot.symm.trans (h.press_hex value).lookup)
  | void h hlookup =>
      refine .presenting (Keypad.heldButton_press h.up value) fun other hgot => ?_
      rw [Keypad.putAside_press_hex_of_none value h.waiting, hlookup] at hgot
      cases hgot
  | looking h => exact .looking (Keypad.heldButton_press h.up value)
  | empty h => exact .looking (Keypad.heldButton_press h.up value)
  | arranging h => exact absurd rfl hgap
  | finished h => exact .waits (h.press_hex value)

/-- It is not missed later on. -/
theorem Caught.go (h : Caught value s k) :
    Caught value (s.go k).1 (s.go k).2 := by
  cases h with
  | @presenting t _ hheld hlookup =>
      cases hgot : k.putAside.lookup t with
      | some other =>
          simp only [Stage.go, Keypad.receive_of_lookup hgot,
            hlookup other hgot]
          exact .got
      | none =>
          by_cases hwaiting : k.waiting = some t
          · simp only [Stage.go, Keypad.receive_of_lookup_eq_none hgot, hwaiting,
              if_true]
            exact .looking hheld
          · simp only [Stage.go, Keypad.receive_of_lookup_eq_none hgot, hwaiting,
              if_false]
            exact .looking hheld
  | looking hheld =>
      simp only [Stage.go, hheld]
      exact .got
  | got => exact .got
  | waits h => exact .waits h

theorem Caught.goes (h : Caught value s k) (n : Nat) :
    Caught value (s.goes n k).1 (s.goes n k).2 := by
  induction n generalizing s k with
  | zero => exact h
  | succ n ih => exact ih h.go

end AwaitKey

/-- Whether something is neither a step, nor a hex key, nor done by someone
else. -/
def Action.isPause : Action → Bool
  | .press .exit | .fail _ | .age | .frame => true
  | _ => false

/-! ## The instruction -/

namespace Machine

variable {m : Machine} {k : Keypad} {x : Register}

/-- The machine after an attempt to get a key for `Vx`. -/
def awaited (m : Machine) (x : Register) (key : Option UInt8)
    (ticket : Option Ticket) : Machine :=
  match key with
  | some value => { m.setRegister x value with pc := m.pc + 2, ticket }
  | none => { m with ticket }

/-- An instruction that waits for a key makes an attempt. -/
theorem step_of_awaitsKey (h : m.AwaitsKey x) (k : Keypad) :
    m.step k =
      .ok (m.awaited x (AwaitKey.attempt m.ticket k).1
          (AwaitKey.attempt m.ticket k).2.1,
        (AwaitKey.attempt m.ticket k).2.2) := by
  cases hattempt : AwaitKey.attempt m.ticket k with
  | mk key rest =>
      obtain ⟨ticket, after⟩ := rest
      cases key with
      | some value => exact step_of_attempt_some h hattempt
      | none => exact step_of_attempt_none h hattempt

/-- A ticket that is late gets the key if it is still held. -/
theorem step_of_late {t : Ticket} {value : UInt8} (h : m.AwaitsKey x)
    (hticket : m.ticket = some t) (hk : k.Late t value)
    (hheld : k.isHeld (.hex value)) :
    m.step k =
      .ok ({ m.setRegister x value with pc := m.pc + 2, ticket := none }, k) := by
  apply step_of_attempt_some h
  have hpresent : AwaitKey.present (some t) k = (none, some t, k) := by
    simp only [AwaitKey.present, Keypad.receive_of_lookup_eq_none hk.lookup,
      hk.waiting, if_true]
  rw [hticket, AwaitKey.attempt_of_present hpresent, hk.heldButton hheld]

end Machine

namespace Console

variable {σ : Type} {c : Console σ} {m : Machine} {x : Register} {t : Ticket}
  {value : UInt8}

/-- The console after an attempt to get a key for `Vx`. -/
def awaited (c : Console σ) (x : Register) (key : Option UInt8)
    (ticket : Option Ticket) (k : Keypad) : Console σ :=
  { c with machine := c.machine.awaited x key ticket, keypad := k }

/-- An attempt that got no key is made again. -/
theorem awaitsKey_awaited_none (h : c.machine.AwaitsKey x)
    (ticket : Option Ticket) (k : Keypad) :
    (c.awaited x none ticket k).machine.AwaitsKey x := h

/-- A step that gets a key stores it, goes on and drops the ticket. -/
def Gets (c : Console σ) (x : Register) (value : UInt8) : Prop :=
  ∃ c', c.step = .ok c' ∧
    c'.machine =
      { c.machine.setRegister x value with
        pc := c.machine.pc + 2
        ticket := none }

/-- An attempt that nobody disturbs is a step. -/
theorem step_eq_awaited (h : c.machine.AwaitsKey x) {key : Option UInt8}
    {ticket : Option Ticket} {k : Keypad}
    (hgoes : (AwaitKey.Stage.first c.machine.ticket).goes 3 c.keypad =
      (.finished key ticket, k)) :
    c.step = .ok (c.awaited x key ticket k) := by
  rw [AwaitKey.goes_three] at hgoes
  obtain ⟨hover, hkeypad⟩ := Prod.mk.inj hgoes
  obtain ⟨hkey, hticket⟩ := AwaitKey.Stage.finished.inj hover
  have hstep := step_eq_ok (Machine.step_of_awaitsKey h c.keypad)
  rw [hkey, hticket, hkeypad] at hstep
  exact hstep

/-! ## Between two attempts -/

section Pauses

variable [Screen σ]

/-- A pause leaves a machine stalled that has stalled. -/
theorem Stalled.acts_of_isPause {P : Keypad → Prop} (h : Stalled m P c)
    (htick : ∀ k, P k → P k.tick) (hfail : ∀ k e, P k → P (k.fail e))
    (hexit : ∀ k, P k → P (k.press .exit)) {between : List Action}
    (hbetween : ∀ a ∈ between, a.isPause) : Stalled m P (c.acts between) := by
  induction between generalizing c with
  | nil => exact h
  | cons action rest ih =>
      obtain ⟨hpause, hrest⟩ := List.forall_mem_cons.mp hbetween
      have hnext : Stalled m P (c.act action) := by
        apply h.act_of_keypad
        · cases action <;> first | rfl | cases hpause
        · rintro rfl
          cases hpause
        · exact htick _ h.keypad
        · exact fun e => hfail _ e h.keypad
        · rintro key rfl
          cases key with
          | exit => exact hexit _ h.keypad
          | hex other => cases hpause
      exact ih hnext hrest

/-- A key that was put aside is stored by the next step, however long the
pause. -/
theorem gets_of_answered (hawaits : c.machine.AwaitsKey x)
    (hticket : c.machine.ticket = some t) (hk : c.keypad.Answered t value)
    {between : List Action} (hbetween : ∀ a ∈ between, a.isPause) :
    (c.acts between).Gets x value := by
  have hstalled : Stalled c.machine (Keypad.Answered t value) c :=
    ⟨⟨_, _, rfl⟩, hk⟩
  have hafter := hstalled.acts_of_isPause (fun _ h => h.tick)
    (fun _ e h => h.fail e) (fun _ h => h.press .exit) hbetween
  obtain ⟨c', hstep, hmachine⟩ := hafter.step_of_answered hawaits hticket
  refine ⟨c', hstep, ?_⟩
  obtain ⟨delay, sound, hsame⟩ := hafter.machine
  have hpc : (c.acts between).machine.pc = c.machine.pc := by rw [hsame]
  rw [hmachine, hpc]

/-- A key that went down before the ticket was taken is stored by the next step
if it is still held, and otherwise that step does nothing. -/
theorem step_of_late (hawaits : c.machine.AwaitsKey x)
    (hticket : c.machine.ticket = some t) (hk : c.keypad.Late t value)
    {between : List Action} (hbetween : ∀ a ∈ between, a.isPause) :
    if (c.acts between).keypad.isHeld (.hex value) then
      (c.acts between).Gets x value
    else (c.acts between).step = .ok (c.acts between) := by
  have hstalled : Stalled c.machine (Keypad.Late t value) c :=
    ⟨⟨_, _, rfl⟩, hk⟩
  have hafter := hstalled.acts_of_isPause (fun _ h => h.tick)
    (fun _ e h => h.fail e) (fun _ h => h.press_exit) hbetween
  have hawaits' := hafter.machine.awaitsKey hawaits
  have hticket' : (c.acts between).machine.ticket = some t := by
    obtain ⟨delay, sound, hsame⟩ := hafter.machine
    rw [hsame]
    exact hticket
  split
  · next hheld =>
      exact ⟨_, step_eq_ok (Machine.step_of_late hawaits' hticket' hafter.keypad
        hheld), rfl⟩
  · next hup =>
      rw [Bool.not_eq_true] at hup
      exact step_eq_ok (Machine.step_of_pending hawaits' hticket'
        (hafter.keypad.pending hup))

/-- A pause holds no key down longer. -/
theorem framesLeft_acts_le {n : Nat} {key : Key} (hkey : key ≠ .exit)
    (h : c.keypad.framesLeft key ≤ n) {between : List Action}
    (hbetween : ∀ a ∈ between, a.isPause) :
    (c.acts between).keypad.framesLeft key ≤ n := by
  have hstalled : Stalled c.machine (fun k => k.framesLeft key ≤ n) c :=
    ⟨⟨_, _, rfl⟩, h⟩
  refine (hstalled.acts_of_isPause ?_ ?_ ?_ hbetween).keypad
  · intro k hk
    rw [Keypad.framesLeft_tick]
    omega
  · intro k e hk
    rw [Keypad.framesLeft_fail]
    exact hk
  · intro k hk
    rw [Keypad.framesLeft_press_of_ne k hkey.symm]
    exact hk

/-- A frame ages the keys, unless the keyboard is dead. -/
theorem keypad_frame (h : c.keypad.check = .ok ()) :
    c.frame.2.keypad = c.keypad.tick := by
  have hcase := c.frame_cases
  generalize c.frame = framed at hcase
  cases hcase with
  | dead hdead =>
      rw [h] at hdead
      cases hdead
  | refused _ _ => rfl
  | shown _ _ => rfl

/-- A key that is held for one more frame is up when it has aged. -/
theorem isHeld_acts_of_age {key : Key} (hkey : key ≠ .exit)
    (h : c.keypad.framesLeft key ≤ 1) {between : List Action}
    (hbetween : ∀ a ∈ between, a.isPause) (hage : .age ∈ between) :
    (c.acts between).keypad.isHeld key = false := by
  obtain ⟨earlier, later, rfl⟩ := List.append_of_mem hage
  rw [List.forall_mem_append, List.forall_mem_cons] at hbetween
  have hbefore := framesLeft_acts_le hkey h hbetween.1
  have haged : ((c.acts earlier).act .age).keypad.framesLeft key ≤ 0 := by
    show (c.acts earlier).keypad.tick.framesLeft key ≤ 0
    rw [Keypad.framesLeft_tick]
    omega
  have hafter := framesLeft_acts_le hkey haged hbetween.2.2
  rw [acts_append]
  exact decide_eq_false (Nat.not_lt.mpr hafter)

end Pauses

/-! ## A press at any point -/

/-- **No press is missed but in the gap.**  An instruction that waits for a key
finds none held and none put aside for it, and nobody else waits for one.  While
it makes its attempt, a single hex key goes down: before it goes to the keypad
for the first time, between any two times, or after the last.

* Undisturbed, the attempt is a step of the console.
* Unless the attempt was just about to take a ticket, it gets the key, or it
  stalls and the next step gets it, however long the pause between them.
* If it was, it stalls.  The next step gets the key if that is still held, and
  otherwise does nothing: then the press is lost.  A single frame is enough for
  that. -/
theorem press_between [Screen σ] {opcode : UInt16} (hc : c.Reachable)
    (hword : c.machine.memory.word c.machine.pc = .ok opcode)
    (hdecode : Instruction.decode opcode = some (.awaitKey x))
    (hup : ∀ value, c.keypad.isHeld (.hex value) = false)
    (hdelivered : ∀ t, c.machine.ticket = some t →
      c.keypad.putAside.lookup t = none)
    (hothers : ∀ t, c.keypad.waiting = some t → c.machine.ticket = some t)
    (value : UInt8) {before after : Nat} (henough : 3 ≤ before + after)
    {s : AwaitKey.Stage} {k₀ : Keypad}
    (hbefore : (AwaitKey.Stage.first c.machine.ticket).goes before c.keypad =
      (s, k₀)) :
    (∀ key ticket k,
      (AwaitKey.Stage.first c.machine.ticket).goes 3 c.keypad =
        (.finished key ticket, k) → c.step = .ok (c.awaited x key ticket k)) ∧
    ∃ key ticket k c₁,
      s.goes after (k₀.press (.hex value)) = (.finished key ticket, k) ∧
      c₁ = c.awaited x key ticket k ∧
      (s ≠ .arranging →
        key = some value ∧ ticket = none ∨
        key = none ∧ ∀ between : List Action, (∀ a ∈ between, a.isPause) →
          (c₁.acts between).Gets x value) ∧
      (s = .arranging →
        key = none ∧ ∀ between : List Action, (∀ a ∈ between, a.isPause) →
          (if (c₁.acts between).keypad.isHeld (.hex value) then
            (c₁.acts between).Gets x value
          else (c₁.acts between).step = .ok (c₁.acts between)) ∧
          (.age ∈ between →
            (c₁.acts between).keypad.isHeld (.hex value) = false)) := by
  have hawaits : c.machine.AwaitsKey x := ⟨opcode, hword, hdecode⟩
  have hup' (value : UInt8) : c.keypad.framesLeft (.hex value) = 0 :=
    Nat.eq_zero_of_not_pos (of_decide_eq_false (hup value))
  have hquiet := (AwaitKey.Quiet.first hc.numbered hup' hdelivered
    hothers).goes before
  rw [hbefore] at hquiet
  dsimp only at hquiet
  refine ⟨fun key ticket k => step_eq_awaited hawaits, ?_⟩
  obtain ⟨key, ticket, k, hafter⟩ :=
    AwaitKey.Stage.exists_finished henough hbefore (k₀.press (.hex value))
  refine ⟨key, ticket, k, _, hafter, rfl, ?_, ?_⟩
  · intro hgap
    have hcaught := (hquiet.press value hgap).goes after
    rw [hafter] at hcaught
    cases hcaught with
    | got => exact .inl ⟨rfl, rfl⟩
    | waits h =>
        refine .inr ⟨rfl, fun between => ?_⟩
        exact gets_of_answered (awaitsKey_awaited_none hawaits _ _) rfl h
  · rintro rfl
    cases hquiet with
    | arranging h =>
        -- There is a time left, and it is spent on the ticket.
        cases after with
        | zero => cases hafter
        | succ n =>
            rw [AwaitKey.Stage.goes_arranging] at hafter
            obtain ⟨hfinished, rfl⟩ := Prod.mk.inj hafter
            obtain ⟨rfl, rfl⟩ := AwaitKey.Stage.finished.inj hfinished
            have hawaits' := awaitsKey_awaited_none hawaits
              (some (k₀.press (.hex value)).subscribe.1)
              (k₀.press (.hex value)).subscribe.2
            have hheld : (k₀.press (.hex value)).subscribe.2.framesLeft
                (.hex value) ≤ 1 := by
              rw [Keypad.framesLeft_subscribe, Keypad.framesLeft_press_self]
              exact Nat.le_refl 1
            have hkey : Key.hex value ≠ .exit := nofun
            refine ⟨rfl, fun between hbetween => ⟨?_, ?_⟩⟩
            · exact step_of_late hawaits' rfl (h.late value) hbetween
            · exact isHeld_acts_of_age hkey hheld hbetween

/-! ### A press that is lost -/

theorem word_attentive :
    attentive.machine.memory.word attentive.machine.pc = .ok 0xF30A :=
  Memory.word_loaded (j := 0) (by decide) (by decide) rfl

theorem framesLeft_attentive (value : UInt8) :
    attentive.keypad.framesLeft (.hex value) = 0 :=
  Keypad.framesLeft_fresh value

theorem isHeld_attentive (value : UInt8) :
    attentive.keypad.isHeld (.hex value) = false := by
  have hup : ¬ 0 < attentive.keypad.framesLeft (.hex value) := by
    rw [framesLeft_attentive]
    exact Nat.lt_irrefl 0
  exact decide_eq_false hup

/-- A program that waits for a key looks for one that is held first of all. -/
theorem goes_attentive :
    (AwaitKey.Stage.first attentive.machine.ticket).goes 1 attentive.keypad =
      (.arranging, attentive.keypad) := by
  have hheld : attentive.keypad.heldButton = none :=
    Keypad.heldButton_eq_none_iff.mpr framesLeft_attentive
  exact AwaitKey.Stage.goes_one_of_none hheld

/-- It has looked in vain when 7 goes down, and is too late with its ticket. -/
theorem press_between_attentive :
    ∃ ticket k c₁,
      AwaitKey.Stage.arranging.goes 2 (attentive.keypad.press (.hex 7)) =
        (.finished none ticket, k) ∧
      c₁ = attentive.awaited 3 none ticket k ∧
      (c₁.acts [.age]).step = .ok (c₁.acts [.age]) := by
  have hreached : attentive.Reachable := .start _ _ _ _
  have hdecode : Instruction.decode 0xF30A = some (.awaitKey 3) := by decide
  have hpause : ∀ a ∈ [Action.age], a.isPause := by decide
  obtain ⟨_, key, ticket, k, c₁, hgoes, hc₁, _, hgap⟩ :=
    press_between hreached word_attentive hdecode isHeld_attentive nofun nofun 7
      (show 3 ≤ 1 + 2 by decide) goes_attentive
  obtain ⟨rfl, hafter⟩ := hgap rfl
  obtain ⟨hnext, hup⟩ := hafter [.age] hpause
  rw [if_neg (by rw [hup List.mem_cons_self]; exact Bool.false_ne_true)]
    at hnext
  exact ⟨ticket, k, c₁, hgoes, hc₁, hnext⟩

/-- Not every press during an attempt is caught, not even by a program that has
just begun: a single frame after it, and the next step finds nothing. -/
theorem press_lost :
    ¬ ∀ (c : Console Headless) (opcode : UInt16) (x : Register) (value : UInt8)
      (before after : Nat) (s : AwaitKey.Stage) (k₀ k : Keypad)
      (key : Option UInt8) (ticket : Option Ticket) (frames : Nat),
      c.Reachable → c.machine.memory.word c.machine.pc = .ok opcode →
      Instruction.decode opcode = some (.awaitKey x) →
      (∀ value, c.keypad.isHeld (.hex value) = false) →
      (∀ t, c.machine.ticket = some t → c.keypad.putAside.lookup t = none) →
      (∀ t, c.keypad.waiting = some t → c.machine.ticket = some t) →
      (AwaitKey.Stage.first c.machine.ticket).goes before c.keypad = (s, k₀) →
      s.goes after (k₀.press (.hex value)) = (.finished key ticket, k) →
      key = some value ∨
        ((c.awaited x key ticket k).acts (.replicate frames .frame)).Gets x
          value := by
  intro h
  have hreached : attentive.Reachable := .start _ _ _ _
  have hunasked : attentive.keypad.Unasked :=
    ⟨hreached.numbered, rfl, framesLeft_attentive⟩
  have hlate := hunasked.late 7
  have hawaits : attentive.machine.AwaitsKey 3 :=
    ⟨_, word_attentive, by decide⟩
  rcases h attentive 0xF30A 3 7 1 1 _ _ _ none _ 1 hreached word_attentive
      (by decide) isHeld_attentive nofun nofun goes_attentive
      rfl with hnow | hlater
  · cases hnow
  · -- The frame leaves nothing of the key, so the next step stalls again.
    have hpause : ∀ a ∈ List.replicate 1 Action.frame, a.isPause := by decide
    have hnext := step_of_late
      (awaitsKey_awaited_none hawaits (some _) _) rfl hlate hpause
    rw [if_neg] at hnext
    · obtain ⟨c', hstep, hmachine⟩ := hlater
      have hsame := Except.ok.inj (hnext.symm.trans hstep)
      rw [← hsame] at hmachine
      exact absurd (congrArg Machine.pc hmachine) (by decide)
    · rw [Bool.not_eq_true]
      apply decide_eq_false
      show ¬ 0 <
        (attentive.awaited 3 none _ _).frame.2.keypad.framesLeft (.hex 7)
      rw [keypad_frame rfl]
      show ¬ 0 < Keypad.framesLeft (Keypad.tick (Keypad.subscribe _).2) (.hex 7)
      rw [Keypad.framesLeft_tick, Keypad.framesLeft_subscribe,
        Keypad.framesLeft_press_self]
      decide

end Console

end Chip8
