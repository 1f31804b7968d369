import Chip8.Proofs.Waiting
import Chip8.Run

/-!
# Keys that are typed

Where all keys come from a keyboard, no other keys are heard than the sixteen of
the keypad and the exit key.  So a program that waits for a key gets one of the
sixteen, and asking whether that key is held asks for a key that there is.

Which key is heard depends on the character, on nothing but its letter if it is
one, and on Control.

## Main results

* `Layout.lt_of_key?`, `Layout.key?_of_control` — the keys that are heard, and
  those that are heard with Control.
* `Layout.key?_congr`, `Layout.key?_char_congr` — what makes no difference.
* `Console.onPad_meet`, `Console.onPad_meets` — the keypad, whatever happens.
* `Console.isHeld_meets` — a key is held until keys age.
* `Console.keys_stay_on_keypad` — all of this in any run.
-/

namespace Chip8

/-! ## The keyboard -/

namespace Layout

variable {event : KeyEvent} {ch ch' : Char} {m m' : Modifiers} {value : UInt8}

theorem lt_of_hexOfChar? (h : hexOfChar? ch = some value) : value < 16 := by
  unfold hexOfChar? at h
  split at h <;> cases h <;> decide

/-- Only characters of ASCII stand for keys. -/
theorem hexOfChar?_eq_none (h : 128 ≤ ch.toNat) : hexOfChar? ch = none := by
  unfold hexOfChar?
  split
  case h_17 => rfl
  all_goals exact absurd h (by decide)

/-- The small letter of a character beyond ASCII is the character itself. -/
theorem toLower_of_le (h : 128 ≤ ch.toNat) : ch.toLower = ch := by
  apply dif_neg
  rintro ⟨_, hupper⟩
  have hle : ch.toNat ≤ 90 := hupper
  omega

/-- A hex key that is heard is one of the sixteen. -/
theorem lt_of_key? (h : key? event = some (.hex value)) : value < 16 := by
  obtain ⟨code, modifiers⟩ := event
  cases code with
  | escape => cases h
  | function n => cases h
  | named name => cases h
  | char ch =>
      simp only [key?] at h
      split at h
      · split at h <;> cases h
      · obtain ⟨found, hfound, hkey⟩ := Option.map_eq_some_iff.mp h
        cases hkey
        exact lt_of_hexOfChar? hfound

/-- With Control no hex key is heard. -/
theorem key?_of_control (h : event.modifiers.control = true) :
    key? event = none ∨ key? event = some .exit := by
  obtain ⟨code, modifiers⟩ := event
  cases code with
  | escape => exact .inr rfl
  | function n => exact .inl rfl
  | named name => exact .inl rfl
  | char ch =>
      simp only [key?, if_pos h]
      split
      · exact .inr rfl
      · exact .inl rfl

/-- Of the modifiers Control alone makes a difference. -/
theorem key?_congr (code : KeyCode) (h : m.control = m'.control) :
    key? ⟨code, m⟩ = key? ⟨code, m'⟩ := by
  cases code with
  | char ch => simp only [key?, h]
  | _ => rfl

/-- Whether a letter is a capital or not makes none. -/
theorem key?_char_congr (hch : ch.toLower = ch'.toLower)
    (h : m.control = m'.control) : key? ⟨.char ch, m⟩ = key? ⟨.char ch', m'⟩ := by
  simp only [key?, hch, h]

/-- A character beyond ASCII stands for no key. -/
theorem key?_eq_none (h : 128 ≤ ch.toNat) : key? ⟨.char ch, m⟩ = none := by
  have hne : ch ≠ 'c' := by
    rintro rfl
    exact absurd h (by decide)
  simp only [key?, toLower_of_le h, hexOfChar?_eq_none h, if_neg hne,
    Option.map_none, ite_self]

end Layout

/-! ## The keypad -/

namespace Keypad

/-- A key that is held after something happened went down then, or was held
before. -/
theorem Event.pos_of_left {key : Key} {frames : Nat} {event : Event}
    (h : 0 < event.left key frames) :
    event = .call (.press key) ∨ 0 < frames := by
  by_cases hpress : event = .call (.press key)
  · exact .inl hpress
  by_cases htick : event = .call .tick
  · subst htick
    have hleft : 0 < frames - 1 := h
    exact .inr (by omega)
  · rw [left_of_ne htick hpress] at h
    exact .inr h

/-- Only with time does a key come up. -/
theorem Event.left_pos {key : Key} {frames : Nat} {event : Event}
    (htick : event ≠ .call .tick) (h : 0 < frames) :
    0 < event.left key frames := by
  by_cases hpress : event = .call (.press key)
  · subst hpress
    simp [left, Key.pressFrames]
  · rwa [left_of_ne htick hpress]

/-- All hex keys that are held, or put aside for tickets, are among the
sixteen. -/
structure OnPad (k : Keypad) : Prop where
  held : ∀ value, 0 < k.framesLeft (.hex value) → value < 16
  putAside : ∀ p ∈ k.putAside, p.2 < 16

theorem onPad_new : OnPad {} where
  held value hheld := by
    rw [framesLeft_new] at hheld
    cases hheld
  putAside p hp := by cases hp

/-- What was put aside was so before, or is the hex key that has just gone
down. -/
theorem mem_putAside_hear {k : Keypad} {event : Event} {p : Ticket × UInt8}
    (h : p ∈ (k.hear event).putAside) :
    event = .call (.press (.hex p.2)) ∨ p ∈ k.putAside := by
  cases event with
  | fail e => exact .inr h
  | check => exact .inr h
  | call call =>
      cases call with
      | subscribe => exact .inr h
      | tick => exact .inr h
      | giveUp t => exact .inr (List.mem_filter.mp h).1
      | receive t =>
          have hgone : p ∈ (k.giveUp t).putAside := by
            rw [← receive_snd]
            exact h
          exact .inr (List.mem_filter.mp hgone).1
      | press key =>
          cases key with
          | exit => exact .inr h
          | hex value =>
              change p ∈ (k.press (.hex value)).putAside at h
              cases hwaiting : k.waiting with
              | none =>
                  rw [putAside_press_hex_of_none value hwaiting] at h
                  exact .inr h
              | some t =>
                  rw [putAside_press_hex_of_waiting value hwaiting] at h
                  rcases List.mem_cons.mp h with rfl | h
                  · exact .inl rfl
                  · exact .inr h

/-- It stays so as long as no other hex key goes down. -/
theorem OnPad.hear {k : Keypad} (h : OnPad k) {event : Event}
    (hpress : ∀ value, event = .call (.press (.hex value)) → value < 16) :
    OnPad (k.hear event) where
  held value hheld := by
    rw [framesLeft_hear] at hheld
    rcases Event.pos_of_left hheld with hpressed | hbefore
    · exact hpress value hpressed
    · exact h.held value hbefore
  putAside p hp := by
    rcases mem_putAside_hear hp with hpressed | hbefore
    · exact hpress p.2 hpressed
    · exact h.putAside p hbefore

/-- A key that is handed out, or found held, is among the sixteen. -/
theorem OnPad.lt {k : Keypad} (h : OnPad k) {ticket : Option Ticket}
    {value : UInt8}
    (hvalue : (∃ t, ticket = some t ∧ k.putAside.lookup t = some value) ∨
      k.heldButton = some value) : value < 16 := by
  rcases hvalue with ⟨t, _, hlookup⟩ | hheld
  · obtain ⟨before, after, hsplit, _⟩ := List.lookup_eq_some_iff.mp hlookup
    apply h.putAside (t, value)
    rw [hsplit]
    exact List.mem_append_right _ List.mem_cons_self
  · exact h.held value (framesLeft_of_heldButton hheld)

end Keypad

/-! ## What happens to a console -/

/-- The key that goes down, if one does. -/
def Action.pressed? : Action → Option Key
  | press key => some key
  | _ => none

/-- What can happen to a console whose keys are those of a keyboard. -/
inductive Occurrence where
  /-- A key of the keyboard goes down. -/
  | typed (event : KeyEvent)
  /-- Something else is done. -/
  | done (action : Action) (h : action.pressed? = none)

namespace Console

section Steps

variable {σ : Type} {c : Console σ} {x : Register}

theorem hear_of_key? {event : KeyEvent} {key : Key}
    (h : Layout.key? event = some key) : c.hear event = c.press key := by
  simp only [hear, h]

theorem hear_of_key?_eq_none {event : KeyEvent}
    (h : Layout.key? event = none) : c.hear event = c := by
  simp only [hear, h]

/-- Where a register names a key that is held, asking whether it is held leaves
everything as it is, and the next instruction out; asking whether it is up does
not leave the next one out. -/
theorem step_of_keyDown (hlt : c.machine.register x < 16)
    (hheld : c.keypad.isHeld (.hex (c.machine.register x)) = true) :
    (c.machine.next? = some (.skipIfHeld x) →
      c.step =
        .ok { c with machine := { c.machine with pc := c.machine.pc + 4 } }) ∧
    (c.machine.next? = some (.skipUnlessHeld x) →
      c.step =
        .ok { c with machine := { c.machine with pc := c.machine.pc + 2 } }) := by
  have hdown : c.machine.keyHeld c.keypad x = true := by
    rw [Machine.keyHeld, Key.ofValue?, if_pos hlt]
    exact hheld
  have hif : c.machine.execute c.keypad (.skipIfHeld x) =
      .ok (.skip, c.machine, c.keypad) := by
    simp only [Machine.execute, hdown]
    rfl
  have hunless : c.machine.execute c.keypad (.skipUnlessHeld x) =
      .ok (.next, c.machine, c.keypad) := by
    simp only [Machine.execute, hdown]
    rfl
  exact ⟨fun hnext => step_of_execute hnext hif,
    fun hnext => step_of_execute hnext hunless⟩

/-- With Control no hex key goes down. -/
theorem framesLeft_hear_of_control {event : KeyEvent}
    (h : event.modifiers.control = true) (value : UInt8) :
    (c.hear event).keypad.framesLeft (.hex value) =
      c.keypad.framesLeft (.hex value) := by
  rcases Layout.key?_of_control h with hkey | hkey
  · rw [hear_of_key?_eq_none hkey]
  · have hne : Key.exit ≠ .hex value := nofun
    rw [hear_of_key? hkey]
    exact Keypad.framesLeft_press_of_ne _ hne

end Steps

variable {σ : Type} [Screen σ] {c : Console σ}

/-- The console after something happened to it. -/
def meet (c : Console σ) : Occurrence → Console σ
  | .typed event => c.hear event
  | .done action _ => c.act action

/-- The console after one thing happened after the other. -/
def meets (c : Console σ) (row : List Occurrence) : Console σ :=
  row.foldl meet c

/-- Whether something that happens makes key presses age. -/
def agesIn (c : Console σ) : Occurrence → Bool
  | .typed _ => false
  | .done action _ => c.ages action

/-- No key presses age while some things happen. -/
def Ageless (c : Console σ) : List Occurrence → Prop
  | [] => True
  | o :: rest => c.agesIn o = false ∧ (c.meet o).Ageless rest

/-- The keypad hears of one event at most, in which no key goes down but one of
the keypad or the exit key, and no key presses age but those that are to. -/
theorem exists_event_meet (c : Console σ) (o : Occurrence) :
    ∃ event, (c.meet o).keypad = c.keypad.hear event ∧
      (∀ value, event = .call (.press (.hex value)) → value < 16) ∧
      (event = .call .tick → c.agesIn o = true) := by
  cases o with
  | typed event =>
      show ∃ e, (c.hear event).keypad = c.keypad.hear e ∧ _
      cases hkey : Layout.key? event with
      | none =>
          rw [hear_of_key?_eq_none hkey]
          exact ⟨.check, rfl, nofun, nofun⟩
      | some key =>
          rw [hear_of_key? hkey]
          refine ⟨.call (.press key), rfl, fun value hvalue => ?_, nofun⟩
          cases hvalue
          exact Layout.lt_of_key? hkey
  | done action hnone =>
      obtain ⟨event, hevent, hpress, htick⟩ := c.exists_event action
      refine ⟨event, hevent, fun value hvalue => ?_, htick⟩
      rw [hpress _ hvalue] at hnone
      cases hnone

theorem onPad_meet (h : c.keypad.OnPad) (o : Occurrence) :
    (c.meet o).keypad.OnPad := by
  obtain ⟨event, hevent, hpress, _⟩ := c.exists_event_meet o
  rw [hevent]
  exact h.hear hpress

/-- No other keys come in, whatever happens. -/
theorem onPad_meets (h : c.keypad.OnPad) (row : List Occurrence) :
    (c.meets row).keypad.OnPad := by
  induction row generalizing c with
  | nil => exact h
  | cons o rest ih => exact ih (onPad_meet h o)

theorem isHeld_meet {o : Occurrence} (hages : c.agesIn o = false) {key : Key}
    (h : c.keypad.isHeld key = true) : (c.meet o).keypad.isHeld key = true := by
  obtain ⟨event, hevent, _, htick⟩ := c.exists_event_meet o
  have hne : event ≠ .call .tick := by
    intro heq
    rw [htick heq] at hages
    cases hages
  rw [hevent, Keypad.isHeld, decide_eq_true_iff, Keypad.framesLeft_hear]
  exact Keypad.Event.left_pos hne (of_decide_eq_true h)

/-- A key that is held is so until keys age. -/
theorem isHeld_meets {row : List Occurrence} (hages : c.Ageless row) {key : Key}
    (h : c.keypad.isHeld key = true) :
    (c.meets row).keypad.isHeld key = true := by
  induction row generalizing c with
  | nil => exact h
  | cons o rest ih =>
      obtain ⟨hfirst, hrest⟩ := hages
      exact ih hrest (isHeld_meet hfirst h)

/-- **Typed keys stay on the keypad.**  Whatever is typed on a keyboard, and
whatever else happens meanwhile:

* No key is held but the exit key and the sixteen of the keypad.
* With Control no hex key is heard, and none becomes held.
* Whether a letter is a capital makes no difference to the key that is heard,
  nor do modifiers other than Control.  A character beyond ASCII is no key.
* An instruction that waits for a key either stays where it is, or stores the
  value of one of the sixteen.  If that key is held then, it is held until keys
  age.  Wherever it is held and the register still has its value, the instruction
  that asks whether it is held leaves the next one out, and the one that asks
  whether it is up does not. -/
theorem keys_stay_on_keypad (memory : Memory) (resolution : Resolution)
    (seed : UInt64) (screen : σ) (row : List Occurrence) {c : Console σ}
    (hc : c = (start memory resolution seed screen).meets row) :
    (∀ key, c.keypad.isHeld key = true →
      key = .exit ∨ ∃ value, value < 16 ∧ key = .hex value) ∧
    (∀ event, event.modifiers.control = true → ∀ value,
      Layout.key? event ≠ some (.hex value) ∧
        (c.hear event).keypad.isHeld (.hex value) =
          c.keypad.isHeld (.hex value)) ∧
    (∀ (ch ch' : Char) (m m' : Modifiers), ch.toLower = ch'.toLower →
      m.control = m'.control →
        Layout.key? ⟨.char ch, m⟩ = Layout.key? ⟨.char ch', m'⟩) ∧
    (∀ (code : KeyCode) (m m' : Modifiers), m.control = m'.control →
      Layout.key? ⟨code, m⟩ = Layout.key? ⟨code, m'⟩) ∧
    (∀ (ch : Char) (m : Modifiers), 128 ≤ ch.toNat →
      Layout.key? ⟨.char ch, m⟩ = none) ∧
    ∀ x, c.executed? .step = some (.awaitKey x) →
      (c.act .step).machine.pc ≠ c.machine.pc →
      ∃ value, value < 16 ∧ (c.act .step).machine = c.machine.gotKey x value ∧
        ∀ (between : List Occurrence) (d : Console σ),
          d = (c.act .step).meets between → d.machine.register x = value →
          ((c.act .step).Ageless between →
            (c.act .step).keypad.isHeld (.hex value) = true →
            d.keypad.isHeld (.hex value) = true) ∧
          (d.keypad.isHeld (.hex value) = true →
            (d.machine.next? = some (.skipIfHeld x) →
              d.step = .ok { d with
                machine := { d.machine with pc := d.machine.pc + 4 } }) ∧
            (d.machine.next? = some (.skipUnlessHeld x) →
              d.step = .ok { d with
                machine := { d.machine with pc := d.machine.pc + 2 } })) := by
  have hpad : c.keypad.OnPad := by
    rw [hc]
    exact onPad_meets Keypad.onPad_new row
  refine ⟨fun key hheld => ?_, fun event hcontrol value => ⟨fun hkey => ?_, ?_⟩,
    fun ch ch' m m' => Layout.key?_char_congr,
    fun code m m' => Layout.key?_congr code,
    fun ch m => Layout.key?_eq_none, fun x hx hmoved => ?_⟩
  · cases key with
    | exit => exact .inl rfl
    | hex value =>
        exact .inr ⟨value, hpad.held value (of_decide_eq_true hheld), rfl⟩
  · rcases Layout.key?_of_control hcontrol with hnone | hexit
    · cases hnone.symm.trans hkey
    · cases hexit.symm.trans hkey
  · rw [Keypad.isHeld, framesLeft_hear_of_control hcontrol, ← Keypad.isHeld]
  · rcases act_step_of_awaitsKey (executed?_eq_awaitKey_iff.mp hx) with
      ⟨⟨delay, sound, ticket, hstill⟩, _⟩ | ⟨value, hgot, hvalue⟩
    · exact absurd (congrArg Machine.pc hstill) hmoved
    · have hlt : value < 16 := hpad.lt hvalue
      refine ⟨value, hlt, hgot, ?_⟩
      rintro between d rfl rfl
      exact ⟨fun hages hheld => isHeld_meets hages hheld, step_of_keyDown hlt⟩

theorem meets_typed (c : Console σ) {event : KeyEvent} {key : Key}
    (h : Layout.key? event = some key) :
    c.meets [.typed event] = c.press key :=
  hear_of_key? h

/-- A program that waits for a key, leaves out the next instruction if that key
is held. -/
def asking : Memory :=
  .loaded [0xF3, 0x0A, 0xE3, 0x9E] (by decide)

/-- A capital is typed, and then `Ctrl+C`.  The program gets the key of the
letter, which is still held when it asks. -/
theorem keys_stay_on_keypad_asking :
    ∃ c d,
      c = (start asking .standard 0 ({} : Headless)).meets
        [.typed ⟨.char 'W', { shift := true }⟩] ∧
      c.executed? .step = some (.awaitKey 3) ∧
      (c.act .step).machine.pc ≠ c.machine.pc ∧
      (c.act .step).Ageless [.typed ⟨.char 'c', { control := true }⟩] ∧
      d = (c.act .step).meets [.typed ⟨.char 'c', { control := true }⟩] ∧
      d.machine.register 3 = 5 ∧ d.keypad.isHeld (.hex 5) = true ∧
      d.step = .ok { d with machine := { d.machine with pc := 0x206 } } := by
  let c := (start asking .standard 0 ({} : Headless)).press (.hex 5)
  have htyped : (start asking .standard 0 ({} : Headless)).meets
      [.typed ⟨.char 'W', { shift := true }⟩] = c :=
    meets_typed _ (by decide)
  have hchord (c : Console Headless) :
      c.meets [.typed ⟨.char 'c', { control := true }⟩] = c.press .exit :=
    meets_typed c (by decide)
  have hawaits : c.machine.AwaitsKey 3 :=
    ⟨0xF30A, Memory.word_loaded (j := 0) (by decide) (by decide) rfl, by decide⟩
  have hattempt : AwaitKey.attempt c.machine.ticket c.keypad =
      (some 5, none, c.keypad) := by
    have hbutton : c.keypad.heldButton = some 5 :=
      Keypad.heldButton_press (fun _ => Keypad.framesLeft_new _) 5
    show AwaitKey.attempt none c.keypad = _
    rw [AwaitKey.attempt_of_present rfl, hbutton]
  have hstep := act_step_of_ok
    (step_eq_ok (Machine.step_of_attempt_some hawaits hattempt))
  have hexecuted := executed?_eq_awaitKey_iff.mpr hawaits
  have hmoved : (c.act .step).machine.pc ≠ c.machine.pc := by
    rw [hstep]
    decide
  have hvalue : (c.act .step).machine.register 3 = 5 := by
    rw [hstep]
    exact Machine.register_setRegister _ 3 3 5
  have hheld : (c.act .step).keypad.isHeld (.hex 5) = true := by
    rw [hstep]
    exact Keypad.isHeld_press_self {} (.hex 5)
  have hasks : (c.act .step).machine.next? = some (.skipIfHeld 3) := by
    rw [hstep]
    exact Machine.next?_of_decode
      (Memory.word_loaded (j := 2) (by decide) (by decide) rfl) (by decide)
  obtain ⟨_, _, _, _, _, hgets⟩ := keys_stay_on_keypad _ _ _ _ _ htyped.symm
  obtain ⟨value, _, hgot, hlater⟩ := hgets 3 hexecuted hmoved
  obtain rfl : value = 5 := by
    rw [hgot] at hvalue
    exact (Machine.register_setRegister _ 3 3 value).symm.trans hvalue
  have hages : (c.act .step).Ageless
      [.typed ⟨.char 'c', { control := true }⟩] := ⟨rfl, trivial⟩
  obtain ⟨hstays, hanswer⟩ := hlater _ _ (hchord _).symm hvalue
  obtain ⟨hskips, _⟩ := hanswer (hstays hages hheld)
  refine ⟨c, _, htyped.symm, hexecuted, hmoved, hages, (hchord _).symm, hvalue,
    hstays hages hheld, ?_⟩
  rw [hskips hasks]
  have hpc : ((c.act .step).press .exit).machine.pc + 4 = 0x206 := by
    show (c.act .step).machine.pc + 4 = 0x206
    rw [hstep]
    decide
  rw [hpc]

end Console

end Chip8
