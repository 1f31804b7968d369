import Chip8.Proofs.Stints

/-!
# Consoles on a schedule

A `Rig` is a console with the schedule that it runs on.  A `Move` is anything
that can happen to it: the schedule is looked at, something is done to the
console past the schedule, or the screen changes by itself.  Rigs go on from
move to move, and what was seen on the way is a list.

A look gives the console a turn, if one is due, and is one of three things: it
was idle, its turn succeeded, or its turn failed.

## Main results

* `Rig.look_cases` — what a look was.
* `Rig.look_of_stint?` — the stint of a look is what it did to the console.
* `Rig.afterAll_of_after`, `Rig.along_of_after` — what each move keeps, a row of
  moves keeps.
-/

namespace Chip8

/-- A console and the schedule that it runs on. -/
structure Rig (σ : Type) where
  /-- When what is due. -/
  schedule : Schedule
  /-- The console. -/
  console : Console σ

/-- What can happen to a rig. -/
inductive Move (σ : Type) where
  /-- The schedule is looked at. -/
  | look (now : Nat)
  /-- Something is done to the console, past the schedule. -/
  | act (action : Action)
  /-- The screen changes by itself, as when it begins to refuse pictures. -/
  | adjust (change : σ → σ)

/-- What a look answers after a turn that succeeded. -/
def Turn.tick {σ : Type} (c : Console σ) : Turn → Tick
  | .frame => .frame
  | .instruction => if c.exitRequested then .exit else .instruction

namespace Rig

variable {σ : Type} [Screen σ]

/-- Looks at the schedule. -/
def look (r : Rig σ) (now : Nat) : Except Fault Tick × Rig σ :=
  let (outcome, schedule, console) := r.schedule.tick r.console now
  (outcome, { schedule, console })

/-- The rig after a move. -/
def after (r : Rig σ) : Move σ → Rig σ
  | .look now => (r.look now).2
  | .act action => { r with console := r.console.act action }
  | .adjust change =>
    { r with console.screen := change r.console.screen }

/-- The rig after some moves, one after the other. -/
def afterAll (r : Rig σ) (moves : List (Move σ)) : Rig σ :=
  moves.foldl after r

/-! ## What is seen on the way -/

/-- What can be seen of some moves, one after the other. -/
def along {α : Type} (see? : Rig σ → Move σ → Option α) (r : Rig σ) :
    List (Move σ) → List α
  | [] => []
  | m :: rest => (see? r m).toList ++ along see? (r.after m) rest

/-- What a look answers. -/
def answer? (r : Rig σ) : Move σ → Option (Except Fault Tick)
  | .look now => some (r.look now).1
  | _ => none

/-- The stint of the console that a look brings about, if something is due. -/
def stint? (r : Rig σ) : Move σ → Option Stint
  | .look now =>
    if r.schedule.nextDeadline ≤ now then
      some
        { turn := r.schedule.turn
          outcome := (r.console.serve r.schedule.turn).1 }
    else none
  | _ => none

/-- What the looks of a row of moves answer. -/
abbrev answers (r : Rig σ) : List (Move σ) → List (Except Fault Tick) :=
  along answer? r

/-- The stints that they bring about. -/
abbrev stints (r : Rig σ) : List (Move σ) → List Stint :=
  along stint? r

/-! ## What each move keeps -/

section Kept

variable {P : Rig σ → Prop} {r : Rig σ} {moves : List (Move σ)}

/-- What each move keeps, a row of moves keeps. -/
theorem afterAll_of_after (h : P r)
    (hafter : ∀ r, P r → ∀ m ∈ moves, P (r.after m)) :
    P (r.afterAll moves) := by
  induction moves generalizing r with
  | nil => exact h
  | cons m rest ih =>
      have hfirst := hafter r h m List.mem_cons_self
      exact ih hfirst fun r hr m' hm' =>
        hafter r hr m' (List.mem_cons_of_mem _ hm')

/-- What is seen at each move from where something is kept, is all that is
seen along a row of them. -/
theorem along_of_after {α : Type} {see? : Rig σ → Move σ → Option α}
    {Q : α → Prop} (h : P r)
    (hafter : ∀ r, P r → ∀ m ∈ moves, P (r.after m))
    (hsee : ∀ r, P r → ∀ m ∈ moves, ∀ a, see? r m = some a → Q a) :
    ∀ a ∈ r.along see? moves, Q a := by
  induction moves generalizing r with
  | nil =>
      intro a ha
      cases ha
  | cons m rest ih =>
      intro a ha
      rcases List.mem_append.mp ha with ha | ha
      · exact hsee r h m List.mem_cons_self a (Option.mem_toList.mp ha)
      · have hfirst := hafter r h m List.mem_cons_self
        exact ih hfirst
          (fun r hr m' hm' => hafter r hr m' (List.mem_cons_of_mem _ hm'))
          (fun r hr m' hm' => hsee r hr m' (List.mem_cons_of_mem _ hm')) a ha

end Kept

/-! ## Looks -/

/-- What a look was, by the stint that it brought about and what came of it. -/
inductive LookCase (r : Rig σ) (now : Nat) :
    Option Stint → Except Fault Tick × Rig σ → Prop
  | idle (h : now < r.schedule.nextDeadline) :
    LookCase r now none (.ok (.idle r.schedule.nextDeadline), r)
  | served {t : Turn} {c : Console σ} (hturn : r.schedule.turn = t)
    (hdue : r.schedule.nextDeadline ≤ now)
    (h : r.console.serve t = (.ok (), c)) :
    LookCase r now (some { turn := t, outcome := .ok () })
      (.ok (t.tick c), { schedule := r.schedule.served now t, console := c })
  | failed {t : Turn} {f : Fault} {c : Console σ}
    (hturn : r.schedule.turn = t) (hdue : r.schedule.nextDeadline ≤ now)
    (h : r.console.serve t = (.error f, c)) :
    LookCase r now (some { turn := t, outcome := .error f })
      (.error f, { r with console := c })

/-- Every look is one of the three. -/
theorem look_cases (r : Rig σ) (now : Nat) :
    LookCase r now (r.stint? (.look now)) (r.look now) := by
  by_cases hdue : r.schedule.nextDeadline ≤ now
  · rw [stint?, if_pos hdue]
    cases hturn : r.schedule.turn with
    | frame =>
        rw [look, Schedule.tick_frame r.console hturn hdue]
        cases hframe : r.console.frame with
        | mk outcome c =>
            have hserve : r.console.serve .frame = (outcome, c) := hframe
            rw [hserve]
            cases outcome with
            | error f => exact .failed hturn hdue hserve
            | ok _ => exact .served hturn hdue hserve
    | instruction =>
        rw [look, Schedule.tick_instruction r.console hturn hdue]
        cases hstep : r.console.step with
        | error f =>
            have hserve := Console.serve_instruction_of_error hstep
            rw [hserve]
            exact .failed hturn hdue hserve
        | ok c =>
            have hserve := Console.serve_instruction_of_ok hstep
            rw [hserve]
            exact .served hturn hdue hserve
  · have hlt := Nat.lt_of_not_le hdue
    rw [stint?, if_neg hdue, look, Schedule.tick_idle r.console hlt]
    exact .idle hlt

/-- A look that brings a stint about has served its turn, and answers with what
came of it. -/
theorem look_of_stint? {r : Rig σ} {now : Nat} {s : Stint}
    (h : r.stint? (.look now) = some s) :
    r.console.serve s.turn = (s.outcome, (r.look now).2.console) ∧
      (r.look now).1 =
        s.outcome.map fun _ => s.turn.tick (r.look now).2.console := by
  have hcase := r.look_cases now
  rw [h] at hcase
  generalize r.look now = looked at hcase
  cases hcase with
  | served _ _ hserve => exact ⟨hserve, rfl⟩
  | failed _ _ hserve => exact ⟨hserve, rfl⟩

/-- Any other look is idle. -/
theorem look_of_stint?_eq_none {r : Rig σ} {now : Nat}
    (h : r.stint? (.look now) = none) :
    r.look now = (.ok (.idle r.schedule.nextDeadline), r) := by
  have hcase := r.look_cases now
  rw [h] at hcase
  generalize r.look now = looked at hcase ⊢
  cases hcase with
  | idle _ => rfl

/-- A look that fails has failed in the turn of its fault, which was due, and
has left the schedule alone. -/
theorem of_look_error {r : Rig σ} {now : Nat} {f : Fault}
    (h : (r.look now).1 = .error f) :
    r.schedule.turn = f.turn ∧ r.schedule.nextDeadline ≤ now ∧
      (r.console.serve f.turn).1 = .error f ∧
      (r.look now).2 =
        { r with console := (r.console.serve f.turn).2 } := by
  have hcase := r.look_cases now
  generalize r.stint? (.look now) = stint?, r.look now = looked at hcase h
  cases hcase with
  | idle _ => cases h
  | served _ _ _ => cases h
  | failed hturn hdue hserve =>
      cases h
      have hfault := Console.turn_of_serve (congrArg Prod.fst hserve)
      rw [hfault, hserve]
      exact ⟨hturn, hdue, rfl, rfl⟩

/-! ### Looks alone -/

/-- The turns that some looks bring about. -/
def turns (r : Rig σ) (instants : List Nat) : List Turn :=
  (r.stints (instants.map Move.look)).map Stint.turn

theorem stints_look_cons (r : Rig σ) (now : Nat) (rest : List (Move σ)) :
    r.stints (.look now :: rest) =
      (r.stint? (.look now)).toList ++ (r.look now).2.stints rest := rfl

theorem turns_cons_of_due {r : Rig σ} {now : Nat}
    (h : r.schedule.nextDeadline ≤ now) (rest : List Nat) :
    r.turns (now :: rest) = r.schedule.turn :: (r.look now).2.turns rest := by
  rw [turns, List.map_cons, stints_look_cons, stint?, if_pos h]
  rfl

theorem turns_cons_of_lt {r : Rig σ} {now : Nat}
    (h : now < r.schedule.nextDeadline) (rest : List Nat) :
    r.turns (now :: rest) = (r.look now).2.turns rest := by
  rw [turns, List.map_cons, stints_look_cons, stint?,
    if_neg (Nat.not_le_of_lt h)]
  rfl

/-- A look at which something is due is the turn that it brings about. -/
theorem console_look_of_due {r : Rig σ} {now : Nat}
    (h : r.schedule.nextDeadline ≤ now) :
    (r.look now).2.console = r.console.act r.schedule.turn.action := by
  obtain ⟨hserve, _⟩ := look_of_stint? (r := r) (if_pos h)
  rw [Console.act_action]
  exact (congrArg Prod.snd hserve).symm

/-- A rig at which one only looks takes its turns, and does nothing else. -/
theorem looks_eq_turns (r : Rig σ) (instants : List Nat) :
    r.stints (instants.map Move.look) =
        r.console.stints (Turn.actions (r.turns instants)) ∧
      (r.afterAll (instants.map Move.look)).console =
        r.console.acts (Turn.actions (r.turns instants)) := by
  induction instants generalizing r with
  | nil => exact ⟨rfl, rfl⟩
  | cons now rest ih =>
      obtain ⟨hstints, hconsole⟩ := ih (r.look now).2
      rw [List.map_cons, stints_look_cons, hstints]
      show _ ∧ ((r.look now).2.afterAll (rest.map Move.look)).console = _
      rw [hconsole]
      by_cases hdue : r.schedule.nextDeadline ≤ now
      · rw [turns_cons_of_due hdue, console_look_of_due hdue,
          Console.stints_actions_cons, stint?, if_pos hdue]
        exact ⟨rfl, rfl⟩
      · have hlt := Nat.lt_of_not_le hdue
        have hidle : (r.look now).2 = r := by
          rw [look, Schedule.tick_idle r.console hlt]
        rw [turns_cons_of_lt hlt, hidle, stint?, if_neg hdue]
        exact ⟨rfl, rfl⟩

end Rig

end Chip8
