import Chip8.Proofs.ExitKey
import Chip8.Proofs.Failure
import Chip8.Proofs.Rig

/-!
# The accounts of a schedule

A schedule counts the instructions and the frames that it has brought about.
Only what succeeded is counted: a look that fails leaves counts and deadlines
alone, so what failed stays due.  An instruction that failed fails again then,
and since its deadline comes first, no frame gets past it.

## Main results

* `Rig.count_afterAll` — what is counted along a row of moves.
* `Rig.Stuck.after`, `Rig.Stuck.afterAll` — where an instruction fails, a
  schedule is stuck.
* `Rig.accounts_balance` — both for a schedule that has just started, and
  pictures that were shown are the frames that were counted.
-/

namespace Chip8

/-- Whether a move comes no earlier than an instant, and goes through no frame
past the schedule. -/
def Move.Follows {σ : Type} (now : Nat) : Move σ → Prop
  | .look later => now ≤ later
  | .act action => action ≠ .frame
  | .adjust _ => True

/-- A screen that nobody sees counts the pictures that it does not refuse. -/
theorem Headless.flushes_flush {picture : Framebuffer} {h h' : Headless}
    {outcome : Except IoError Unit}
    (hflush : Screen.flush picture h = (outcome, h')) :
    h'.flushes = h.flushes + if outcome.isOk then 1 else 0 := by
  change Headless.flush picture h = _ at hflush
  unfold Headless.flush at hflush
  split at hflush <;> cases hflush <;> rfl

/-- A turn shows a picture if it was a frame that succeeded. -/
theorem Console.flushes_serve (c : Console Headless) (t : Turn) :
    (c.serve t).2.screen.flushes = c.screen.flushes +
      [{ turn := t, outcome := (c.serve t).1 }].countP
        (Stint.isDone .frame) := by
  cases t with
  | instruction =>
      cases hstep : c.step with
      | ok c' =>
          rw [serve_instruction_of_ok hstep,
            (of_step_eq_ok hstep).2]
          rfl
      | error f =>
          rw [serve_instruction_of_error hstep]
          rfl
  | frame =>
      have hcase := c.frame_cases
      change c.frame.2.screen.flushes = c.screen.flushes +
        [{ turn := .frame, outcome := c.frame.1 }].countP (Stint.isDone .frame)
      generalize c.frame = framed at hcase
      cases hcase with
      | dead _ => rfl
      | refused _ hflush => exact Headless.flushes_flush hflush
      | shown _ hflush => exact Headless.flushes_flush hflush

namespace Rig

variable {σ : Type} [Screen σ]

/-! ## Counts -/

/-- A move is counted if it brings a stint about that succeeds. -/
theorem count_after (r : Rig σ) (m : Move σ) (t : Turn) :
    (r.after m).schedule.count t =
      r.schedule.count t + (r.stint? m).toList.countP (Stint.isDone t) := by
  cases m with
  | act action => rfl
  | adjust change => rfl
  | look now =>
      show (r.look now).2.schedule.count t = _
      have hcase := r.look_cases now
      generalize r.stint? (.look now) = stint?, r.look now = looked at hcase ⊢
      cases hcase with
      | idle _ => rfl
      | failed _ _ _ => simp [Stint.isDone, Except.isOk, Except.toBool]
      | @served u c _ _ _ =>
          show (r.schedule.served now u).count t = _
          by_cases hu : u = t
          · rw [hu, Schedule.count_served_self]
            simp [Stint.isDone, Except.isOk, Except.toBool]
          · rw [Schedule.count_served_of_ne r.schedule now (Ne.symm hu)]
            simp [Stint.isDone, hu]

/-- Along a row of moves, the stints that succeed are counted. -/
theorem count_afterAll (r : Rig σ) (moves : List (Move σ)) (t : Turn) :
    (r.afterAll moves).schedule.count t =
      r.schedule.count t + (r.stints moves).countP (Stint.isDone t) := by
  induction moves generalizing r with
  | nil => rfl
  | cons m rest ih =>
      have hstints : r.stints (m :: rest) =
          (r.stint? m).toList ++ (r.after m).stints rest := rfl
      calc (r.afterAll (m :: rest)).schedule.count t
          = ((r.after m).afterAll rest).schedule.count t := rfl
        _ = (r.after m).schedule.count t +
              ((r.after m).stints rest).countP (Stint.isDone t) := ih _
        _ = r.schedule.count t +
              (r.stints (m :: rest)).countP (Stint.isDone t) := by
            rw [count_after, hstints, List.countP_append, Nat.add_assoc]

/-! ## Pictures -/

section Pictures

variable {r : Rig Headless}

/-- Unless a picture is shown past the schedule, the pictures that were shown
are the frames that were counted. -/
theorem flushes_after (h : r.console.screen.flushes = r.schedule.frameCount)
    {m : Move Headless} (hframe : m ≠ .act .frame)
    (hadjust : ∀ change, m = .adjust change →
      ∀ s, (change s).flushes = s.flushes) :
    (r.after m).console.screen.flushes = (r.after m).schedule.frameCount := by
  cases m with
  | adjust change => exact (hadjust change rfl r.console.screen).trans h
  | act action =>
      show (r.console.act action).screen.flushes = r.schedule.frameCount
      rw [← h]
      cases hturn : action.turn? with
      | none => rw [(Console.machine_act_of_turn? hturn).2]
      | some t =>
          have haction := Action.eq_of_turn? hturn
          rw [haction, Console.act_action, Console.flushes_serve]
          cases t with
          | frame => exact absurd (congrArg Move.act haction) hframe
          | instruction => rfl
  | look now =>
      show (r.look now).2.console.screen.flushes =
        (r.look now).2.schedule.frameCount
      have hcase := r.look_cases now
      generalize r.stint? (.look now) = stint?, r.look now = looked at hcase ⊢
      cases hcase with
      | idle _ => exact h
      | @failed t f c _ _ hserve =>
          have hflushes := r.console.flushes_serve t
          rw [hserve, h] at hflushes
          cases t <;> exact hflushes
      | @served t c _ _ hserve =>
          have hflushes := r.console.flushes_serve t
          rw [hserve, h] at hflushes
          cases t <;> exact hflushes

end Pictures

/-! ## Failed instructions -/

/-- An instruction is due, and fails. -/
structure Stuck (f : Fault) (now : Nat) (r : Rig σ) : Prop where
  turn : r.schedule.turn = .instruction
  due : r.schedule.nextDeadline ≤ now
  step : r.console.step = .error f

/-- A look that fails in the turn of an instruction has changed nothing, and the
rig is stuck. -/
theorem stuck_of_look {r : Rig σ} {now : Nat} {f : Fault}
    (h : (r.look now).1 = .error f) (hturn : r.schedule.turn = .instruction) :
    (r.look now).2 = r ∧ Stuck f now r := by
  obtain ⟨hfault, hdue, hfailed, hrig⟩ := of_look_error h
  rw [← hfault, hturn] at hfailed hrig
  have hserve : r.console.serve .instruction =
      (.error f, (r.console.serve .instruction).2) := Prod.ext hfailed rfl
  obtain ⟨hstep, hconsole⟩ := Console.step_of_serve_error hserve
  rw [hconsole] at hrig
  exact ⟨hrig, hturn, hdue, hstep⟩

namespace Stuck

variable {f : Fault} {now : Nat} {r : Rig σ}

/-- No later look gets beyond it. -/
theorem look (h : Stuck f now r) {later : Nat} (hle : now ≤ later) :
    r.look later = (.error f, r) := by
  rw [Rig.look,
    Schedule.tick_instruction r.console h.turn (Nat.le_trans h.due hle), h.step]

/-- It was the turn of that instruction. -/
theorem stint? (h : Stuck f now r) {later : Nat} (hle : now ≤ later) :
    r.stint? (.look later) =
      some { turn := .instruction, outcome := .error f } := by
  rw [Rig.stint?, if_pos (Nat.le_trans h.due hle), h.turn,
    Console.serve_instruction_of_error h.step]

/-- Whatever follows leaves the schedule and the machine alone, and the rig
stuck. -/
theorem after (h : Stuck f now r) {m : Move σ} (hm : m.Follows now) :
    Stuck f now (r.after m) ∧ (r.after m).schedule = r.schedule ∧
      (r.after m).console.machine = r.console.machine ∧
      ((∀ change, m ≠ .adjust change) →
        (r.after m).console.screen = r.console.screen) := by
  cases m with
  | look later =>
      have hafter : r.after (.look later) = r :=
        congrArg Prod.snd (h.look hm)
      rw [hafter]
      exact ⟨h, rfl, rfl, fun _ => rfl⟩
  | adjust change =>
      refine ⟨⟨h.turn, h.due, ?_⟩, rfl, rfl, fun hne => absurd rfl (hne change)⟩
      have hfault := Console.step_eq_error_iff.mp h.step
      exact Console.step_eq_error_iff.mpr hfault
  | act action =>
      refine ⟨⟨h.turn, h.due, Console.step_act_of_error h.step action⟩, rfl, ?_⟩
      show (r.console.act action).machine = r.console.machine ∧
        (_ → (r.console.act action).screen = r.console.screen)
      cases hturn : action.turn? with
      | none =>
          obtain ⟨hmachine, hscreen⟩ :=
            Console.machine_act_of_turn? (c := r.console) hturn
          exact ⟨hmachine, fun _ => hscreen⟩
      | some t =>
          cases t with
          | frame => exact absurd (Action.eq_of_turn? hturn) hm
          | instruction =>
              rw [Action.eq_of_turn? hturn, Turn.action,
                Console.act_step_of_error h.step]
              exact ⟨rfl, fun _ => rfl⟩

/-- So does a whole row of moves. -/
theorem afterAll (h : Stuck f now r) {moves : List (Move σ)}
    (hmoves : ∀ m ∈ moves, m.Follows now) :
    Stuck f now (r.afterAll moves) ∧
      (r.afterAll moves).schedule = r.schedule ∧
      (r.afterAll moves).console.machine = r.console.machine ∧
      ((∀ change, .adjust change ∉ moves) →
        (r.afterAll moves).console.screen = r.console.screen) := by
  induction moves generalizing r with
  | nil => exact ⟨h, rfl, rfl, fun _ => rfl⟩
  | cons m rest ih =>
      obtain ⟨hstuck, hschedule, hmachine, hscreen⟩ :=
        h.after (hmoves m List.mem_cons_self)
      obtain ⟨hstuck', hschedule', hmachine', hscreen'⟩ :=
        ih hstuck fun m' hm' => hmoves m' (List.mem_cons_of_mem _ hm')
      refine ⟨hstuck', hschedule'.trans hschedule, hmachine'.trans hmachine,
        fun hnone => ?_⟩
      have hrest := hscreen' fun change hmem =>
        hnone change (List.mem_cons_of_mem _ hmem)
      have hfirst := hscreen fun change heq =>
        hnone change (heq ▸ List.mem_cons_self)
      exact hrest.trans hfirst

/-- The turns of the clocks on the way were all of that instruction. -/
theorem stints (h : Stuck f now r) {moves : List (Move σ)}
    (hmoves : ∀ m ∈ moves, m.Follows now) :
    ∀ s ∈ r.stints moves,
      s = { turn := .instruction, outcome := .error f } := by
  refine along_of_after h (fun r hr m hm => (hr.after (hmoves m hm)).1) ?_
  intro r' hr' m hm s hs
  cases m with
  | look later =>
      rw [hr'.stint? (hmoves _ hm)] at hs
      exact (Option.some.inj hs).symm
  | act action => cases hs
  | adjust change => cases hs

end Stuck

/-! ## The accounts -/

/-- **Accounts balance.**  From a fresh schedule, whatever happens to it and to
the console, the instructions and the frames that were counted are the stints
that succeeded.  Such a stint is what a look did: it leaves the console that
serving the turn leaves, and answers with what came of it; a look without one
changes nothing.  A look that fails leaves the schedule alone.  If it was an
instruction that failed, it leaves all else alone as well; and whatever follows
short of frames past the schedule, every look fails in the same way and changes
nothing, it never being a frame that is gone through.  On a screen that nobody
sees, and on which all is shown through the schedule, the pictures that were
shown are the frames that were counted. -/
theorem accounts_balance (settings : Settings) (start : Nat) :
    (∀ {σ : Type} [Screen σ] (c : Console σ) (moves : List (Move σ))
      {fresh last : Rig σ},
      fresh = { schedule := .start settings start, console := c } →
      last = fresh.afterAll moves →
      (∀ t, last.schedule.count t =
        (fresh.stints moves).countP (Stint.isDone t)) ∧
      (∀ now s, last.stint? (.look now) = some s →
        last.console.serve s.turn = (s.outcome, (last.look now).2.console) ∧
          (last.look now).1 =
            s.outcome.map fun _ => s.turn.tick (last.look now).2.console) ∧
      (∀ now, last.stint? (.look now) = none →
        last.look now = (.ok (.idle last.schedule.nextDeadline), last)) ∧
      ∀ now f, (last.look now).1 = .error f →
        (last.look now).2.schedule = last.schedule ∧
        (last.schedule.turn = .instruction →
          (last.look now).2 = last ∧
          ∀ later, (∀ m ∈ later, m.Follows now) →
            (∀ s ∈ last.stints later,
              s = { turn := .instruction, outcome := .error f }) ∧
            (last.afterAll later).schedule = last.schedule ∧
            (last.afterAll later).console.machine = last.console.machine ∧
            ((∀ change, .adjust change ∉ later) →
              (last.afterAll later).console.screen = last.console.screen) ∧
            ∀ now', now ≤ now' →
              (last.afterAll later).look now' =
                (.error f, last.afterAll later))) ∧
    ∀ (c : Console Headless) (moves : List (Move Headless))
      {fresh last : Rig Headless},
      fresh = { schedule := .start settings start, console := c } →
      last = fresh.afterAll moves →
      c.screen.flushes = 0 →
      .act .frame ∉ moves →
      (∀ change, .adjust change ∈ moves →
        ∀ s, (change s).flushes = s.flushes) →
      last.console.screen.flushes = last.schedule.frameCount := by
  constructor
  · intro σ _ c moves fresh last hfresh hlast
    refine ⟨fun t => ?_, fun now s => look_of_stint?,
      fun now => look_of_stint?_eq_none, fun now f herror => ?_⟩
    · have hnone : fresh.schedule.count t = 0 := by
        rw [hfresh]
        cases t <;> rfl
      rw [hlast, count_afterAll, hnone, Nat.zero_add]
    · obtain ⟨_, _, _, hrig⟩ := of_look_error herror
      refine ⟨by rw [hrig], fun hturn => ?_⟩
      obtain ⟨hunchanged, hstuck⟩ := stuck_of_look herror hturn
      refine ⟨hunchanged, fun later hlater => ?_⟩
      obtain ⟨hstuck', hschedule, hmachine, hscreen⟩ := hstuck.afterAll hlater
      exact ⟨hstuck.stints hlater, hschedule, hmachine, hscreen,
        fun now' hle => hstuck'.look hle⟩
  · intro c moves fresh last hfresh hlast hnone hframe hadjust
    have heven : fresh.console.screen.flushes = fresh.schedule.frameCount := by
      rw [hfresh]
      exact hnone
    rw [hlast]
    refine afterAll_of_after
      (P := fun r : Rig Headless =>
        r.console.screen.flushes = r.schedule.frameCount) heven ?_
    intro r hr m hm
    refine flushes_after hr ?_ ?_
    · rintro rfl
      exact hframe hm
    · rintro change rfl
      exact hadjust change hm

/-- A program that is about to run over the end of memory, with an instruction
and a frame a second, from the start. -/
def overrunning : Rig Headless where
  schedule := .leisurely
  console := .overrunning

/-- Its screen refuses the first frame, and then shows it. -/
def hesitation : List (Move Headless) :=
  [.adjust fun screen => { screen with refusal := some ⟨.other, "busy"⟩ },
    .look second, .adjust fun screen => { screen with refusal := none },
    .look second]

/-- What has become of it then: two frames were gone through, and one of them is
counted. -/
def hesitated : Rig Headless where
  schedule := Schedule.leisurely.served second .frame
  console :=
    { machine := Table.overrunning.countDown.countDown
      keypad := ({} : Keypad).tick.tick
      screen := { flushes := 1 } }

theorem afterAll_hesitation :
    overrunning.afterAll hesitation = hesitated := by
  let refusing := overrunning.after
    (.adjust fun screen => { screen with refusal := some ⟨.other, "busy"⟩ })
  let shows : Rig Headless :=
    { overrunning with
      console.machine := Table.overrunning.countDown
      console.keypad := ({} : Keypad).tick }
  have hrefused : (refusing.look second).2.after
      (.adjust fun screen => { screen with refusal := none }) = shows := by
    rw [look, Schedule.tick_frame _ (by decide) (by decide)]
    rfl
  have hshown : (shows.look second).2 = hesitated := by
    rw [look, Schedule.tick_frame _ (by decide) (by decide)]
    rfl
  show (((refusing.look second).2.after _).look second).2 = hesitated
  rw [hrefused, hshown]

/-- Its instruction fails. -/
theorem stuck_hesitated :
    Stuck (.trap 0x200 0xF155 (.memory ⟨0xFFF, 2⟩)) second hesitated where
  turn := by decide
  due := by decide
  step := Console.step_eq_error_iff.mpr Table.fault?_overrunning

/-- One frame is counted where another was refused.  Then an instruction fails,
and still does when a key went down and the next frame is long due. -/
theorem accounts_balance_hesitated :
    hesitated = overrunning.afterAll hesitation ∧
      hesitated.schedule.count .frame = 1 ∧
      (overrunning.stints hesitation).countP (Stint.isDone .frame) = 1 ∧
      hesitated.console.screen.flushes = hesitated.schedule.frameCount ∧
      (hesitated.look second).1 =
        .error (.trap 0x200 0xF155 (.memory ⟨0xFFF, 2⟩)) ∧
      ((hesitated.afterAll [.act (.press (.hex 3)), .look (2 * second)]).look
          (3 * second)).1 =
        .error (.trap 0x200 0xF155 (.memory ⟨0xFFF, 2⟩)) := by
  obtain ⟨hbalance, hshown⟩ :=
    accounts_balance { clockRate := 1, frameRate := 1 } 0
  have hlast := afterAll_hesitation.symm
  have hfresh : overrunning =
      { schedule := .start { clockRate := 1, frameRate := 1 } 0
        console := .overrunning } := rfl
  obtain ⟨hcount, _, _, hfailed⟩ := hbalance _ hesitation hfresh hlast
  have herror : (hesitated.look second).1 =
      .error (.trap 0x200 0xF155 (.memory ⟨0xFFF, 2⟩)) := by
    rw [stuck_hesitated.look (Nat.le_refl second)]
  obtain ⟨_, hstuck⟩ := hfailed second _ herror
  obtain ⟨_, hlater⟩ := hstuck stuck_hesitated.turn
  let later : List (Move Headless) :=
    [.act (.press (.hex 3)), .look (2 * second)]
  have hfollows : ∀ m ∈ later, m.Follows second := by
    simp [later, Move.Follows, second]
  obtain ⟨_, _, _, _, hlook⟩ := hlater _ hfollows
  refine ⟨hlast, rfl, ?_, ?_, herror, ?_⟩
  · rw [← hcount .frame]
    rfl
  · refine hshown _ hesitation hfresh hlast rfl ?_ ?_
    · simp [hesitation]
    · intro change hmem s
      simp only [hesitation, List.mem_cons, Move.adjust.injEq, reduceCtorEq,
        false_or, or_false, List.not_mem_nil] at hmem
      rcases hmem with rfl | rfl <;> rfl
  · rw [hlook (3 * second) (by decide)]

end Rig

end Chip8
