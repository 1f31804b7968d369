import Chip8.Console
import Chip8.Proofs.AwaitKey
import Chip8.Proofs.Step

/-!
# Steps and frames of a console

A console goes on through steps and frames alone.  A step does what its machine
does, and leaves the held keys and the device alone.  A frame is one of three
things: the keyboard is dead, or the picture is shown, or it is not.

## Main results

* `Machine.of_step_eq_ok` — a step that succeeds is an instruction.
* `Machine.keypad_of_step` — what a step can do to the keypad.
* `Console.step_of_execute` — a step carries out what can be carried out.
* `Console.frame_cases`, `Console.of_frame` — what a frame can have been, and
  what it has done in any case.
-/

namespace Chip8

/-! ## Steps -/

namespace Machine

variable {m m' : Machine} {k k' : Keypad}

/-- A step that succeeds has carried an instruction out. -/
theorem of_step_eq_ok (h : m.step k = .ok (m', k')) :
    ∃ opcode i flow after, m.memory.word m.pc = .ok opcode ∧
      Instruction.decode opcode = some i ∧
      m.execute k i = .ok (flow, after, k') ∧
      m' = { after with pc := flow.target m.pc } := by
  unfold step at h
  split at h
  · cases h
  · next opcode hword =>
      split at h
      · cases h
      · next i hdecode =>
          split at h
          · cases h
          · next flow after k'' hexecute =>
              cases h
              exact ⟨opcode, i, flow, after, hword, hdecode, hexecute, rfl⟩

theorem ne_display_of_step {f : Fault} (h : m.step k = .error f) (e : IoError) :
    f ≠ .display e := by
  rintro rfl
  unfold step at h
  split at h
  · cases h
  · split at h
    · cases h
    · split at h <;> cases h

/-- Only the instruction that waits for a key uses the keypad up. -/
theorem keypad_of_execute {i : Instruction} {flow : Flow} {after : Machine}
    (hkey : ∀ x, i ≠ .awaitKey x) (h : m.execute k i = .ok (flow, after, k')) :
    k' = k := by
  cases htrap : Table.trap? m i with
  | none =>
      obtain ⟨flow', after', hexecute, _⟩ :=
        Table.execute_of_trap?_eq_none k hkey htrap
      cases hexecute.symm.trans h
      rfl
  | some cause =>
      rw [Table.execute_of_trap?_eq_some k htrap] at h
      cases h

/-- An instruction that waits for a key leaves the keypad as its attempt did. -/
theorem keypad_of_execute_awaitKey {x : Register} {flow : Flow}
    {after : Machine}
    (h : m.execute k (.awaitKey x) = .ok (flow, after, k')) :
    k' = (AwaitKey.attempt m.ticket k).2.2 := by
  unfold execute at h
  dsimp only at h
  split at h <;> next hattempt => cases h; rw [hattempt]

/-- A step leaves the keypad alone, or exchanges a ticket, or takes one. -/
theorem keypad_of_step (h : m.step k = .ok (m', k')) :
    k' = k ∨ (∃ t, k' = k.giveUp t) ∨ k' = k.subscribe.2 := by
  obtain ⟨opcode, i, flow, after, _, _, hexecute, _⟩ := of_step_eq_ok h
  by_cases hkey : ∃ x, i = .awaitKey x
  · obtain ⟨x, rfl⟩ := hkey
    rw [keypad_of_execute_awaitKey hexecute]
    have hcase := AwaitKey.attempt_cases m.ticket k
    generalize AwaitKey.attempt m.ticket k = attempted at hcase
    cases hcase with
    | delivered => exact .inr (.inl ⟨_, rfl⟩)
    | held => exact .inl rfl
    | waits => exact .inl rfl
    | subscribes => exact .inr (.inr rfl)
  · exact .inl (keypad_of_execute (fun x hx => hkey ⟨x, hx⟩) hexecute)

theorem framesLeft_of_step (h : m.step k = .ok (m', k')) (key : Key) :
    k'.framesLeft key = k.framesLeft key := by
  rcases keypad_of_step h with rfl | ⟨t, rfl⟩ | rfl
  · rfl
  · exact Keypad.framesLeft_giveUp k t key
  · exact Keypad.framesLeft_subscribe k key

end Machine

namespace Console

variable {σ : Type} {c c' : Console σ}

/-- A step of the machine is one of the console. -/
theorem step_eq_ok {m : Machine} {k : Keypad}
    (h : c.machine.step c.keypad = .ok (m, k)) :
    c.step = .ok { c with machine := m, keypad := k } := by
  simp only [step, h]

/-- An instruction that can be carried out is, by a step. -/
theorem step_of_execute {i : Instruction} {flow : Flow} {after : Machine}
    {k : Keypad} (hnext : c.machine.next? = some i)
    (hexecute : c.machine.execute c.keypad i = .ok (flow, after, k)) :
    c.step =
      .ok { c with
        machine := { after with pc := flow.target c.machine.pc }
        keypad := k } := by
  obtain ⟨opcode, hword, hdecode⟩ := Machine.next?_eq_some_iff.mp hnext
  apply step_eq_ok
  rw [Machine.step_of_decode _ hword hdecode, hexecute]

/-- A step of a console is one of its machine. -/
theorem of_step_eq_ok (h : c.step = .ok c') :
    c.machine.step c.keypad = .ok (c'.machine, c'.keypad) ∧
      c'.screen = c.screen := by
  unfold step at h
  split at h
  · next hstep =>
      cases h
      exact ⟨hstep, rfl⟩
  · cases h

/-- A step leaves every held key alone. -/
theorem framesLeft_of_step (h : c.step = .ok c') (key : Key) :
    c'.keypad.framesLeft key = c.keypad.framesLeft key :=
  Machine.framesLeft_of_step (of_step_eq_ok h).1 key

/-- A step that fails is no matter of the screen. -/
theorem ne_display_of_step {f : Fault} (h : c.step = .error f) (e : IoError) :
    f ≠ .display e := by
  unfold step at h
  split at h
  · cases h
  · next hstep =>
      cases h
      exact Machine.ne_display_of_step hstep e

/-! ## Frames -/

/-- What a frame was, by its outcome. -/
inductive FrameCase [Screen σ] (c : Console σ) :
    Except Fault Unit × Console σ → Prop
  | dead {e : IoError} (h : c.keypad.check = .error e) :
    FrameCase c
      (.error (.keyboard e), { c with machine := c.machine.countDown })
  | refused {e : IoError} {screen : σ} (h : c.keypad.check = .ok ())
    (hflush : Screen.flush c.machine.framebuffer c.screen =
      (.error e, screen)) :
    FrameCase c
      (.error (.display e),
        { machine := c.machine.countDown, keypad := c.keypad.tick, screen })
  | shown {screen : σ} (h : c.keypad.check = .ok ())
    (hflush : Screen.flush c.machine.framebuffer c.screen = (.ok (), screen)) :
    FrameCase c
      (.ok (),
        { machine := c.machine.countDown, keypad := c.keypad.tick, screen })

/-- Every frame is one of the three. -/
theorem frame_cases [Screen σ] (c : Console σ) : FrameCase c c.frame := by
  unfold frame
  cases hcheck : c.keypad.check with
  | error e => exact .dead hcheck
  | ok _ =>
      dsimp only
      cases hflush : Screen.flush c.machine.framebuffer c.screen with
      | mk outcome screen =>
          cases outcome with
          | error e => exact .refused hcheck hflush
          | ok _ => exact .shown hcheck hflush

/-- Whatever a frame was, the timers have counted, and the keypad has aged or
is as it was. -/
theorem of_frame [Screen σ] (c : Console σ) :
    c.frame.2.machine = c.machine.countDown ∧
      (c.frame.2.keypad = c.keypad ∨ c.frame.2.keypad = c.keypad.tick) := by
  have hcase := c.frame_cases
  generalize c.frame = framed at hcase
  cases hcase with
  | dead _ => exact ⟨rfl, .inl rfl⟩
  | refused _ _ => exact ⟨rfl, .inr rfl⟩
  | shown _ _ => exact ⟨rfl, .inr rfl⟩

end Console

end Chip8
