import Chip8.Proofs.Action

/-!
# What a ticket brings

Whoever takes a ticket gets the first hex key that goes down from then on,
unless someone takes a newer ticket before that.  The key is handed out once.
Whatever else is done with the keypad, by the holders of other tickets too,
makes no difference, and giving the newest ticket up does not pass the key on
to anyone else.

What a ticket is worth is `Keypad.answer`.  A single call changes it by the
rule `Delivery.after`, which knows nothing of the keypad (`Keypad.answer_call`);
so what any row of calls makes of a ticket is read off the row.

## Main results

* `Keypad.Sound.calls` — what holds of a keypad along a row of calls.
* `Keypad.answer_calls` — what a row of calls makes of a ticket.
* `Keypad.hands_iff` — when a call puts a key aside for a ticket.
* `Keypad.one_shot` — what a ticket brings its holder.
-/

namespace Chip8

namespace Keypad

/-! ## Calls -/

/-- One call to a keypad. -/
inductive Call where
  /-- Someone takes a ticket. -/
  | subscribe
  /-- A key goes down. -/
  | press (key : Key)
  /-- A frame passes. -/
  | tick
  /-- The holder of a ticket gives it up. -/
  | giveUp (t : Ticket)
  /-- The holder of a ticket presents it. -/
  | receive (t : Ticket)
  deriving DecidableEq, Repr

namespace Call

/-- Whether a call decides on the ticket that waits: a hex key answers it, and
a newer ticket makes it void. -/
def decides : Call → Bool
  | subscribe => true
  | press (.hex _) => true
  | _ => false

/-- Whether a call is none of a ticket's business: the exit key, a frame, and
what becomes of another ticket. -/
def isIdle (t : Ticket) : Call → Bool
  | press .exit => true
  | tick => true
  | giveUp u => u ≠ t
  | _ => false

end Call

/-- The keypad after a call. -/
def call (k : Keypad) : Call → Keypad
  | .subscribe => k.subscribe.2
  | .press key => k.press key
  | .tick => k.tick
  | .giveUp t => k.giveUp t
  | .receive t => (k.receive t).2

/-- The keypad after some calls, one after the other. -/
def calls (k : Keypad) (cs : List Call) : Keypad :=
  cs.foldl call k

/-- What is answered when a ticket is presented. -/
def answer (k : Keypad) (t : Ticket) : Delivery :=
  (k.receive t).1

/-- A call puts a key aside for a ticket that had none. -/
def Hands (k : Keypad) (c : Call) (t : Ticket) (value : UInt8) : Prop :=
  k.putAside.lookup t = none ∧ (k.call c).putAside.lookup t = some value

variable {k k' : Keypad} {t u : Ticket} {value : UInt8}

theorem calls_append (k : Keypad) (before after : List Call) :
    k.calls (before ++ after) = (k.calls before).calls after :=
  List.foldl_append

theorem calls_cons (k : Keypad) (c : Call) (after : List Call) :
    k.calls (c :: after) = (k.call c).calls after := rfl

/-! ## Keys that were put aside -/

/-- Whoever gives a ticket up loses the key that was put aside for it. -/
@[simp] theorem lookup_giveUp_self (k : Keypad) (t : Ticket) :
    (k.giveUp t).putAside.lookup t = none := by
  rw [List.lookup_eq_none_iff]
  intro p hp
  have hne : p.1 ≠ t := of_decide_eq_true (List.mem_filter.mp hp).2
  exact bne_iff_ne.mpr hne.symm

/-- The keys of others stay. -/
theorem lookup_giveUp_of_ne (k : Keypad) (h : u ≠ t) :
    (k.giveUp u).putAside.lookup t = k.putAside.lookup t := by
  unfold giveUp
  dsimp only
  induction k.putAside with
  | nil => rfl
  | cons p rest ih =>
      obtain ⟨holder, value⟩ := p
      by_cases hholder : holder = t
      · subst hholder
        rw [List.filter_cons_of_pos (by simpa using h.symm),
          List.lookup_cons_self, List.lookup_cons_self]
      · have hskip : (t == holder) = false := by
          simpa using fun heq => hholder heq.symm
        rw [List.lookup_cons, hskip, ← ih]
        by_cases hgone : holder = u
        · rw [List.filter_cons_of_neg (by simpa using hgone)]
        · rw [List.filter_cons_of_pos (by simpa using hgone), List.lookup_cons,
            hskip]

/-- To the keypad it is the same whether a ticket is presented or given up. -/
theorem receive_snd (k : Keypad) (t : Ticket) : (k.receive t).2 = k.giveUp t := by
  cases hlookup : k.putAside.lookup t with
  | some value => rw [receive_of_lookup hlookup]
  | none =>
      rw [receive_of_lookup_eq_none hlookup]
      rw [List.lookup_eq_none_iff] at hlookup
      have hall : k.putAside.filter (fun p => p.1 ≠ t) = k.putAside := by
        rw [List.filter_eq_self]
        intro p hp
        exact decide_eq_true (bne_iff_ne.mp (hlookup p hp)).symm
      simp only [giveUp, hall]

/-- An answer is told by the key that was put aside, if there is one, and
otherwise by the ticket that waits. -/
theorem answer_of_lookup (h : k.putAside.lookup t = some value) :
    k.answer t = .key value := by
  rw [answer, receive_of_lookup h]

theorem answer_of_lookup_eq_none (h : k.putAside.lookup t = none) :
    k.answer t = if k.waiting = some t then .pending else .void := by
  rw [answer, receive_of_lookup_eq_none h]

/-- Nothing else matters. -/
theorem answer_congr (hlookup : k'.putAside.lookup t = k.putAside.lookup t)
    (hwaiting : k'.waiting = some t ↔ k.waiting = some t) :
    k'.answer t = k.answer t := by
  cases h : k.putAside.lookup t with
  | some value =>
      rw [h] at hlookup
      rw [answer_of_lookup hlookup, answer_of_lookup h]
  | none =>
      rw [h] at hlookup
      rw [answer_of_lookup_eq_none hlookup, answer_of_lookup_eq_none h]
      simp only [hwaiting]

end Keypad

/-! ## What a call makes of a ticket -/

/-- What a call makes of the worth of a ticket.  The first hex key is put aside
for a ticket that waits, and is gone once it was handed out; a newer ticket
makes one that waits void. -/
def Delivery.after (t : Ticket) : Delivery → Keypad.Call → Delivery
  | .pending, .press (.hex value) => .key value
  | .pending, .subscribe => .void
  | .key value, .receive u => if u = t then .void else .key value
  | .key value, .giveUp u => if u = t then .void else .key value
  | worth, _ => worth

namespace Keypad

variable {k : Keypad} {t u : Ticket} {value : UInt8}

/-- No key was put aside for the ticket that waits, nor for one that was not
issued. -/
structure Sound (k : Keypad) : Prop where
  numbered : k.Numbered
  waiting : ∀ t, k.waiting = some t → k.putAside.lookup t = none

namespace Sound

theorem giveUp (h : Sound k) (u : Ticket) : Sound (k.giveUp u) where
  numbered := h.numbered.giveUp u
  waiting t ht := by
    by_cases hu : u = t
    · rw [hu, lookup_giveUp_self]
    · rw [lookup_giveUp_of_ne k hu]
      exact h.waiting t ht

/-- Every call keeps that. -/
theorem call (h : Sound k) (c : Call) : Sound (k.call c) := by
  cases c with
  | subscribe =>
      refine ⟨h.numbered.subscribe, fun t ht => ?_⟩
      cases ht
      exact h.numbered.lookup_issued
  | press key =>
      refine ⟨h.numbered.press key, fun t ht => ?_⟩
      cases key with
      | hex value => cases (waiting_press_hex k value).symm.trans ht
      | exit => exact h.waiting t ht
  | tick => exact ⟨⟨h.numbered.waiting, h.numbered.putAside⟩, h.waiting⟩
  | giveUp u => exact h.giveUp u
  | receive u =>
      show Sound (k.receive u).2
      rw [receive_snd]
      exact h.giveUp u

theorem calls (h : Sound k) (cs : List Call) : Sound (k.calls cs) := by
  induction cs generalizing k with
  | nil => exact h
  | cons c rest ih => exact ih (h.call c)

/-- A keypad that nothing was done with. -/
theorem fresh : Sound {} :=
  ⟨⟨nofun, nofun⟩, nofun⟩

end Sound

theorem issued_press (k : Keypad) (key : Key) :
    (k.press key).issued = k.issued := by
  cases key with
  | exit => rfl
  | hex value =>
      unfold press deliver
      cases k.waiting <;> rfl

/-- Tickets stay issued. -/
theorem issued_le_call (k : Keypad) (c : Call) :
    k.issued ≤ (k.call c).issued := by
  cases c with
  | subscribe => exact Nat.le_succ k.issued
  | press key => exact Nat.le_of_eq (issued_press k key).symm
  | tick => exact Nat.le_refl k.issued
  | giveUp u => exact Nat.le_refl k.issued
  | receive u =>
      show k.issued ≤ (k.receive u).2.issued
      rw [receive_snd]
      exact Nat.le_refl k.issued

/-- Giving one ticket up changes what that ticket is worth, and no other. -/
theorem answer_giveUp (h : Sound k) (t u : Ticket) :
    (k.giveUp u).answer t =
      match k.answer t with
      | .key value => if u = t then .void else .key value
      | worth => worth := by
  by_cases hu : u = t
  · subst hu
    have hlost := answer_of_lookup_eq_none (lookup_giveUp_self k u)
    rw [hlost]
    cases hlookup : k.putAside.lookup u with
    | some value =>
        have hnot : k.waiting ≠ some u := fun hwaiting => by
          rw [h.waiting u hwaiting] at hlookup
          cases hlookup
        rw [answer_of_lookup hlookup]
        simp only [giveUp, hnot, if_true, if_false]
    | none =>
        rw [answer_of_lookup_eq_none hlookup]
        show (if k.waiting = some u then Delivery.pending else .void) = _
        split <;> rfl
  · have hsame : (k.giveUp u).answer t = k.answer t :=
      answer_congr (lookup_giveUp_of_ne k hu) Iff.rfl
    rw [hsame]
    cases k.answer t with
    | key value => simp only [hu, if_false]
    | pending => rfl
    | void => rfl

/-- A hex key answers the ticket that waits, and no other. -/
theorem answer_press_hex (h : Sound k) (t : Ticket) (value : UInt8) :
    (k.press (.hex value)).answer t =
      match k.answer t with
      | .pending => .key value
      | worth => worth := by
  by_cases hwaiting : k.waiting = some t
  · have hnone := h.waiting t hwaiting
    have hgot : (k.press (.hex value)).putAside.lookup t = some value := by
      rw [putAside_press_hex_of_waiting value hwaiting, List.lookup_cons_self]
    rw [answer_of_lookup hgot, answer_of_lookup_eq_none hnone, if_pos hwaiting]
  · have hsame : (k.press (.hex value)).answer t = k.answer t := by
      refine answer_congr ?_ ?_
      · cases hother : k.waiting with
        | none => rw [putAside_press_hex_of_none value hother]
        | some u =>
            have hne : (t == u) = false := by
              rw [beq_eq_false_iff_ne]
              rintro rfl
              exact hwaiting hother
            rw [putAside_press_hex_of_waiting value hother, List.lookup_cons,
              hne]
      · rw [waiting_press_hex]
        exact ⟨nofun, fun heq => absurd heq hwaiting⟩
    have hdecided : k.answer t ≠ .pending := by
      cases hlookup : k.putAside.lookup t with
      | some other =>
          rw [answer_of_lookup hlookup]
          exact nofun
      | none =>
          rw [answer_of_lookup_eq_none hlookup, if_neg hwaiting]
          exact nofun
    rw [hsame]
    cases hanswer : k.answer t with
    | pending => exact absurd hanswer hdecided
    | key other => rfl
    | void => rfl

/-- A newer ticket makes the one that waits void, and no other. -/
theorem answer_subscribe (k : Keypad) (ht : t < k.issued) :
    k.subscribe.2.answer t =
      match k.answer t with
      | .pending => .void
      | worth => worth := by
  have hnew : k.subscribe.2.waiting ≠ some t := fun heq =>
    Nat.ne_of_gt ht (Option.some.inj heq)
  cases hlookup : k.putAside.lookup t with
  | some value =>
      have hsame : k.subscribe.2.putAside.lookup t = some value := hlookup
      rw [answer_of_lookup hsame, answer_of_lookup hlookup]
  | none =>
      have hsame : k.subscribe.2.putAside.lookup t = none := hlookup
      rw [answer_of_lookup_eq_none hsame, answer_of_lookup_eq_none hlookup,
        if_neg hnew]
      by_cases hwaiting : k.waiting = some t
      · rw [if_pos hwaiting]
      · rw [if_neg hwaiting]

/-- A call makes of a ticket what the rule says. -/
theorem answer_call (h : Sound k) (ht : t < k.issued) (c : Call) :
    (k.call c).answer t = (k.answer t).after t c := by
  cases c with
  | subscribe =>
      show k.subscribe.2.answer t = _
      rw [answer_subscribe k ht]
      cases k.answer t <;> rfl
  | press key =>
      cases key with
      | hex value =>
          show (k.press (.hex value)).answer t = _
          rw [answer_press_hex h]
          cases k.answer t <;> rfl
      | exit =>
          have hsame : (k.press .exit).answer t = k.answer t :=
            answer_congr rfl Iff.rfl
          show (k.press .exit).answer t = _
          rw [hsame]
          cases k.answer t <;> rfl
  | tick =>
      have hsame : k.tick.answer t = k.answer t := answer_congr rfl Iff.rfl
      show k.tick.answer t = _
      rw [hsame]
      cases k.answer t <;> rfl
  | giveUp u =>
      show (k.giveUp u).answer t = _
      rw [answer_giveUp h]
      cases k.answer t <;> rfl
  | receive u =>
      show Keypad.answer (k.receive u).2 t = _
      rw [receive_snd, answer_giveUp h]
      cases k.answer t <;> rfl

/-- So does a row of calls. -/
theorem answer_calls (h : Sound k) (ht : t < k.issued) (cs : List Call) :
    (k.calls cs).answer t = cs.foldl (Delivery.after t) (k.answer t) := by
  induction cs generalizing k with
  | nil => rfl
  | cons c rest ih =>
      have hissued := Nat.lt_of_lt_of_le ht (issued_le_call k c)
      rw [calls_cons, ih (h.call c) hissued, answer_call h ht]
      rfl

/-! ## Along a row of calls -/

/-- What is put aside or void will not wait again. -/
theorem after_key_ne_pending (t : Ticket) (value : UInt8) (c : Call) :
    Delivery.after t (.key value) c ≠ .pending := by
  have hkept (u : Ticket) :
      (if u = t then Delivery.void else .key value) ≠ .pending := by
    by_cases hu : u = t
    · rw [if_pos hu]
      exact nofun
    · rw [if_neg hu]
      exact nofun
  match c with
  | .receive u => exact hkept u
  | .giveUp u => exact hkept u
  | .press _ => exact nofun
  | .subscribe => exact nofun
  | .tick => exact nofun

theorem after_eq_pending_iff {worth : Delivery} {c : Call} :
    Delivery.after t worth c = .pending ↔
      worth = .pending ∧ c.decides = false := by
  match worth, c with
  | .pending, .press (.hex _) => exact ⟨nofun, nofun⟩
  | .pending, .press .exit => exact ⟨fun _ => ⟨rfl, rfl⟩, fun _ => rfl⟩
  | .pending, .subscribe => exact ⟨nofun, nofun⟩
  | .pending, .tick => exact ⟨fun _ => ⟨rfl, rfl⟩, fun _ => rfl⟩
  | .pending, .giveUp _ => exact ⟨fun _ => ⟨rfl, rfl⟩, fun _ => rfl⟩
  | .pending, .receive _ => exact ⟨fun _ => ⟨rfl, rfl⟩, fun _ => rfl⟩
  | .void, _ => exact ⟨nofun, nofun⟩
  | .key value, c =>
      exact ⟨fun h => absurd h (after_key_ne_pending t value c), nofun⟩

/-- A ticket waits on until a call decides on it. -/
theorem foldl_after_eq_pending_iff {cs : List Call} {worth : Delivery} :
    cs.foldl (Delivery.after t) worth = .pending ↔
      worth = .pending ∧ ∀ c ∈ cs, c.decides = false := by
  induction cs generalizing worth with
  | nil => simp
  | cons c rest ih =>
      rw [List.foldl_cons, ih, List.forall_mem_cons, ← and_assoc]
      exact and_congr_left fun _ => after_eq_pending_iff

/-- A void ticket stays void. -/
theorem foldl_after_void (t : Ticket) (cs : List Call) :
    cs.foldl (Delivery.after t) .void = .void := by
  induction cs with
  | nil => rfl
  | cons c rest ih => exact ih

/-- A key stays put aside until it is handed out. -/
theorem foldl_after_key {cs : List Call} (value : UInt8)
    (hkept : .giveUp t ∉ cs) :
    cs.foldl (Delivery.after t) (.key value) =
      if .receive t ∈ cs then .void else .key value := by
  induction cs with
  | nil => rfl
  | cons c rest ih =>
      rw [List.mem_cons, not_or] at hkept
      have hrest := ih hkept.2
      rw [List.foldl_cons]
      by_cases hasked : c = .receive t
      · subst hasked
        have hgone : Delivery.after t (.key value) (.receive t) = .void :=
          if_pos rfl
        rw [hgone, foldl_after_void, if_pos List.mem_cons_self]
      · have hstays : Delivery.after t (.key value) c = .key value := by
          cases c with
          | receive u => exact if_neg fun hu => hasked (by rw [hu])
          | giveUp u => exact if_neg fun hu => hkept.1 (by rw [hu])
          | subscribe => rfl
          | press key => rfl
          | tick => rfl
        rw [hstays, hrest]
        simp only [List.mem_cons, Ne.symm hasked, false_or]

/-- A ticket waits exactly if its answer is that it does. -/
theorem answer_eq_pending_iff (h : Sound k) :
    k.answer t = .pending ↔ k.waiting = some t := by
  cases hlookup : k.putAside.lookup t with
  | some value =>
      rw [answer_of_lookup hlookup]
      refine ⟨nofun, fun hwaiting => ?_⟩
      cases (h.waiting t hwaiting).symm.trans hlookup
  | none =>
      rw [answer_of_lookup_eq_none hlookup]
      by_cases hwaiting : k.waiting = some t
      · simp [hwaiting]
      · simp [hwaiting]

/-! ## Which call puts a key aside -/

/-- A key is put aside for the ticket that waits, when it goes down, and not
otherwise. -/
theorem hands_iff (h : Sound k) {c : Call} :
    k.Hands c t value ↔ k.waiting = some t ∧ c = .press (.hex value) := by
  constructor
  · rintro ⟨hnone, hsome⟩
    cases c with
    | subscribe => cases hnone.symm.trans hsome
    | tick => cases hnone.symm.trans hsome
    | giveUp u =>
        change (k.giveUp u).putAside.lookup t = some value at hsome
        by_cases hu : u = t
        · rw [hu, lookup_giveUp_self] at hsome
          cases hsome
        · rw [lookup_giveUp_of_ne k hu] at hsome
          cases hnone.symm.trans hsome
    | receive u =>
        change (k.receive u).2.putAside.lookup t = some value at hsome
        rw [receive_snd] at hsome
        by_cases hu : u = t
        · rw [hu, lookup_giveUp_self] at hsome
          cases hsome
        · rw [lookup_giveUp_of_ne k hu] at hsome
          cases hnone.symm.trans hsome
    | press key =>
        cases key with
        | exit => cases hnone.symm.trans hsome
        | hex pressed =>
            change (k.press (.hex pressed)).putAside.lookup t = some value
              at hsome
            cases hwaiting : k.waiting with
            | none =>
                rw [putAside_press_hex_of_none pressed hwaiting, hnone] at hsome
                cases hsome
            | some u =>
                rw [putAside_press_hex_of_waiting pressed hwaiting,
                  List.lookup_cons] at hsome
                by_cases hu : t = u
                · subst hu
                  rw [beq_self_eq_true] at hsome
                  cases hsome
                  exact ⟨rfl, rfl⟩
                · rw [beq_eq_false_iff_ne.mpr hu, hnone] at hsome
                  cases hsome
  · rintro ⟨hwaiting, rfl⟩
    refine ⟨h.waiting t hwaiting, ?_⟩
    show (k.press (.hex value)).putAside.lookup t = some value
    rw [putAside_press_hex_of_waiting value hwaiting, List.lookup_cons_self]

/-! ## From the time that a ticket is taken -/

section Taken

variable (h : Sound k) (hwaiting : k.waiting = some t)
include h hwaiting

/-- What a row of calls makes of a ticket that waits. -/
theorem answer_calls_of_waiting (cs : List Call) :
    (k.calls cs).answer t = cs.foldl (Delivery.after t) .pending := by
  rw [answer_calls h (h.numbered.waiting t hwaiting),
    (answer_eq_pending_iff h).mpr hwaiting]

/-- It waits on as long as no call decides on it. -/
theorem waiting_calls_iff (cs : List Call) :
    (k.calls cs).waiting = some t ↔ ∀ c ∈ cs, c.decides = false := by
  rw [← answer_eq_pending_iff (h.calls cs), answer_calls_of_waiting h hwaiting,
    foldl_after_eq_pending_iff]
  exact and_iff_right rfl

/-- It gets the first hex key that goes down before a newer ticket is taken. -/
theorem handed_iff (cs : List Call) (value : UInt8) :
    (∃ earlier c later, cs = earlier ++ c :: later ∧
      (k.calls earlier).Hands c t value) ↔
    ∃ quiet later, cs = quiet ++ .press (.hex value) :: later ∧
      ∀ c ∈ quiet, c.decides = false := by
  constructor
  · rintro ⟨earlier, c, later, hcs, hhands⟩
    obtain ⟨hstill, rfl⟩ := (hands_iff (h.calls earlier)).mp hhands
    exact ⟨earlier, later, hcs, (waiting_calls_iff h hwaiting earlier).mp hstill⟩
  · rintro ⟨quiet, later, hcs, hquiet⟩
    have hstill := (waiting_calls_iff h hwaiting quiet).mpr hquiet
    exact ⟨quiet, _, later, hcs, (hands_iff (h.calls quiet)).mpr ⟨hstill, rfl⟩⟩

/-- While nothing decides on it, its holder is asked to wait. -/
theorem answer_of_quiet {quiet : List Call}
    (hquiet : ∀ c ∈ quiet, c.decides = false) :
    (k.calls quiet).answer t = .pending := by
  rw [answer_calls_of_waiting h hwaiting, foldl_after_eq_pending_iff]
  exact ⟨rfl, hquiet⟩

/-- From the first hex key on its holder is answered by that key, once. -/
theorem answer_of_press {quiet later : List Call} (value : UInt8)
    (hquiet : ∀ c ∈ quiet, c.decides = false) (hkept : .giveUp t ∉ later) :
    (k.calls (quiet ++ .press (.hex value) :: later)).answer t =
      if .receive t ∈ later then .void else .key value := by
  rw [answer_calls_of_waiting h hwaiting, List.foldl_append, List.foldl_cons,
    foldl_after_eq_pending_iff.mpr ⟨rfl, hquiet⟩]
  exact foldl_after_key value hkept

/-- From a newer ticket on there is nothing for its holder. -/
theorem answer_of_subscribe {quiet later : List Call}
    (hquiet : ∀ c ∈ quiet, c.decides = false) :
    (k.calls (quiet ++ .subscribe :: later)).answer t = .void := by
  rw [answer_calls_of_waiting h hwaiting, List.foldl_append, List.foldl_cons,
    foldl_after_eq_pending_iff.mpr ⟨rfl, hquiet⟩]
  exact foldl_after_void t later

end Taken

/-! ## Calls that make no difference -/

/-- Two keypads are alike to the holder of a ticket. -/
structure Alike (t : Ticket) (k k' : Keypad) : Prop where
  issued : k.issued = k'.issued
  waiting : k.waiting = k'.waiting
  lookup : k.putAside.lookup t = k'.putAside.lookup t

namespace Alike

theorem answer (h : Alike t k k') : k.answer t = k'.answer t :=
  answer_congr h.lookup (by rw [h.waiting])

theorem giveUp (h : Alike t k k') (u : Ticket) :
    Alike t (k.giveUp u) (k'.giveUp u) where
  issued := h.issued
  waiting := h.waiting
  lookup := by
    by_cases hu : u = t
    · subst hu
      rw [lookup_giveUp_self, lookup_giveUp_self]
    · rw [lookup_giveUp_of_ne k hu, lookup_giveUp_of_ne k' hu]
      exact h.lookup

/-- Every call leaves them alike. -/
theorem call (h : Alike t k k') (c : Call) :
    Alike t (k.call c) (k'.call c) := by
  cases c with
  | subscribe =>
      refine ⟨congrArg (· + 1) h.issued, congrArg some h.issued, h.lookup⟩
  | tick => exact ⟨h.issued, h.waiting, h.lookup⟩
  | giveUp u => exact h.giveUp u
  | receive u =>
      show Alike t (k.receive u).2 (k'.receive u).2
      rw [receive_snd, receive_snd]
      exact h.giveUp u
  | press key =>
      cases key with
      | exit => exact ⟨h.issued, h.waiting, h.lookup⟩
      | hex value =>
          refine ⟨?_, ?_, ?_⟩
          · show (k.press (.hex value)).issued = (k'.press (.hex value)).issued
            rw [issued_press, issued_press]
            exact h.issued
          · show (k.press (.hex value)).waiting = (k'.press (.hex value)).waiting
            rw [waiting_press_hex, waiting_press_hex]
          · show (k.press (.hex value)).putAside.lookup t =
              (k'.press (.hex value)).putAside.lookup t
            cases hwaiting : k'.waiting with
            | none =>
                rw [putAside_press_hex_of_none value hwaiting,
                  putAside_press_hex_of_none value (h.waiting.trans hwaiting)]
                exact h.lookup
            | some u =>
                rw [putAside_press_hex_of_waiting value hwaiting,
                  putAside_press_hex_of_waiting value (h.waiting.trans hwaiting),
                  List.lookup_cons, List.lookup_cons, h.lookup]

theorem calls (h : Alike t k k') (cs : List Call) :
    Alike t (k.calls cs) (k'.calls cs) := by
  induction cs generalizing k k' with
  | nil => exact h
  | cons c rest ih => exact ih (h.call c)

/-- A call that is none of its business leaves the keypad as it was to the
holder of a ticket. -/
theorem of_isIdle (k : Keypad) {c : Call} (hidle : c.isIdle t) :
    Alike t (k.call c) k := by
  match c, hidle with
  | .press .exit, _ => exact ⟨rfl, rfl, rfl⟩
  | .tick, _ => exact ⟨rfl, rfl, rfl⟩
  | .giveUp u, hidle =>
      exact ⟨rfl, rfl, lookup_giveUp_of_ne k (of_decide_eq_true hidle)⟩

end Alike

/-! ## One ticket, one key -/

/-- **What a ticket brings.**  Someone takes a ticket at any time.

* A call puts a key aside for it exactly if it is the first press of a hex key
  after that and no newer ticket was taken in between.  This is so also if it
  was given up meanwhile.
* Presented by a holder who has not given it up, it is answered by a request to
  wait until a call decides on it; by the key that was put aside, once; and by
  nothing ever after, or as soon as a newer ticket was taken.
* A call puts a key aside for one ticket at most.
* The exit key, frames and the giving up of a ticket make no difference to what
  any other ticket is answered, wherever they come in a row of calls. -/
theorem one_shot {before : List Call} {t : Ticket} {k : Keypad}
    (htaken : (({} : Keypad).calls before).subscribe = (t, k)) :
    (∀ (after : List Call) (value : UInt8),
      (∃ earlier c later, after = earlier ++ c :: later ∧
        (k.calls earlier).Hands c t value) ↔
      ∃ quiet later, after = quiet ++ .press (.hex value) :: later ∧
        ∀ c ∈ quiet, c.decides = false) ∧
    (∀ after : List Call, .giveUp t ∉ after →
      ((∀ c ∈ after, c.decides = false) →
        (k.calls after).answer t = .pending) ∧
      ∀ quiet later, (∀ c ∈ quiet, c.decides = false) →
        (∀ value, after = quiet ++ .press (.hex value) :: later →
          (k.calls after).answer t =
            if .receive t ∈ later then .void else .key value) ∧
        (after = quiet ++ .subscribe :: later →
          (k.calls after).answer t = .void)) ∧
    (∀ (c : Call) (t₁ t₂ : Ticket) (v₁ v₂ : UInt8),
      (({} : Keypad).calls before).Hands c t₁ v₁ →
        (({} : Keypad).calls before).Hands c t₂ v₂ → t₁ = t₂) ∧
    ∀ (c : Call) (u : Ticket) (after : List Call), c.isIdle u →
      (({} : Keypad).calls (before ++ c :: after)).answer u =
        (({} : Keypad).calls (before ++ after)).answer u := by
  have hbefore := Sound.fresh.calls before
  have hsound : Sound k := by
    have hsubscribed : Sound (({} : Keypad).calls before).subscribe.2 :=
      hbefore.call .subscribe
    rw [htaken] at hsubscribed
    exact hsubscribed
  have hwaiting : k.waiting = some t := by
    have hsubscribed := waiting_subscribe (({} : Keypad).calls before)
    rw [htaken] at hsubscribed
    exact hsubscribed
  refine ⟨handed_iff hsound hwaiting, ?_, ?_, ?_⟩
  · intro after hkept
    refine ⟨answer_of_quiet hsound hwaiting, fun quiet later hquiet => ⟨?_, ?_⟩⟩
    · rintro value rfl
      apply answer_of_press hsound hwaiting value hquiet
      intro hlost
      exact hkept (List.mem_append_right _ (List.mem_cons_of_mem _ hlost))
    · rintro rfl
      exact answer_of_subscribe hsound hwaiting hquiet
  · intro c t₁ t₂ v₁ v₂ hfirst hsecond
    have hone := ((hands_iff hbefore).mp hfirst).1
    have htwo := ((hands_iff hbefore).mp hsecond).1
    exact Option.some.inj (hone.symm.trans htwo)
  · intro c u after hidle
    rw [calls_append, calls_append, calls_cons]
    exact ((Alike.of_isIdle _ hidle).calls after).answer

/-- A keypad whose second ticket was given up before a hex key went down. -/
def passedOver : Keypad :=
  ({} : Keypad).calls [.subscribe, .subscribe, .giveUp 1, .press (.hex 4)]

/-- The next ticket, which is the third, gets the hex key after that, however
late it is presented, and that only once. -/
theorem one_shot_third :
    passedOver.subscribe.1 = 2 ∧
      (passedOver.subscribe.2.calls [.press .exit, .tick]).answer 2 = .pending ∧
      (passedOver.subscribe.2.calls [.press .exit, .tick, .press (.hex 9), .tick,
        .press (.hex 2)]).answer 2 = .key 9 ∧
      (passedOver.subscribe.2.calls [.press .exit, .tick, .press (.hex 9),
        .receive 2, .press (.hex 2)]).answer 2 = .void := by
  have htaken : passedOver.subscribe = (2, passedOver.subscribe.2) := rfl
  obtain ⟨_, hanswers, _⟩ := one_shot htaken
  have hquiet : ∀ c ∈ [Call.press .exit, .tick], c.decides = false := by decide
  refine ⟨rfl, (hanswers _ (by decide)).1 hquiet, ?_, ?_⟩
  · exact ((hanswers _ (by decide)).2 _ [.tick, .press (.hex 2)] hquiet).1 9 rfl
  · exact ((hanswers _ (by decide)).2 _ [.receive 2, .press (.hex 2)] hquiet).1
      9 rfl

end Keypad

end Chip8
