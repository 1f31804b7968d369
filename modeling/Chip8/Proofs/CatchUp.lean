import Chip8.Proofs.Timetable

/-!
# Catching up

A schedule that is looked at too seldom falls behind.  It makes up for two
ticks of a clock at most, and starts the clock again where that is not enough.
So no stall makes a program run faster than its rate in the long run, and a
schedule that is looked at again and again at one instant soon has nothing
left to do.

Two facts about one clock are behind this.  Its deadline is never earlier than
the ticks that were served ask for (`Paced`), and how many ticks can still be
served at an instant is a number of its own (`Clock.owed`), which each service
takes one from.

The console may be any at each look, since keys are heard between two looks.

## Main results

* `Clock.owed_advance`, `Clock.owed_le` — what can be served at one instant.
* `Schedule.lookAt_of_looks` — a run of one console is a row of such looks.
* `Schedule.owed_of_lookAt`, `Schedule.exists_end` — so much is served at one
  instant, and no more.
* `Paced.lookAt` — the deadlines along a row of looks.
* `Schedule.keeps_rate` — the rate of a run, and the end of every drain.
-/

namespace Chip8

/-! ## One clock -/

namespace Clock

/-- How many ticks of a clock can be served at an instant, one after the other.
It is a tick for each period that has begun, but two if the clock is so late
that it starts again. -/
def owed (c : Clock) (now : Nat) : Nat :=
  if now < c.deadline then 0
  else if now < c.deadline + c.period then 1
  else if now = c.deadline + 2 * c.period then 3
  else 2

theorem owed_le (c : Clock) (now : Nat) : c.owed now ≤ 3 := by
  unfold owed
  repeat' split
  all_goals omega

/-- Each service takes one from the ticks that can be served. -/
theorem owed_advance {c : Clock} {now : Nat} (hdue : c.deadline ≤ now)
    (hperiod : 0 < c.period) : c.owed now = 1 + (c.advance now).owed now := by
  by_cases hlate : c.deadline + 2 * c.period < now
  · -- The clock starts again at once, and that tick is the last.
    have hnext := deadline_advance_of_gt hlate
    simp only [owed, hnext, period_advance]
    rw [if_neg (by omega), if_neg (by omega), if_neg (by omega),
      if_neg (by omega), if_pos (by omega)]
  · have hnext := deadline_advance_of_le (Nat.le_of_not_lt hlate)
    simp only [owed, hnext, period_advance]
    rw [if_neg (Nat.not_lt.mpr hdue)]
    by_cases hone : now < c.deadline + c.period
    · rw [if_pos hone, if_pos hone]
    · rw [if_neg hone, if_neg hone]
      by_cases hthree : now = c.deadline + 2 * c.period
      · rw [if_pos hthree, if_neg (by omega), if_neg (by omega)]
      · rw [if_neg hthree, if_pos (by omega)]

/-- A clock that was served is not more than a period behind. -/
theorem le_deadline_advance (c : Clock) (now : Nat) :
    now ≤ (c.advance now).deadline + c.period := by
  simp only [advance]
  split <;> omega

end Clock

/-! ## Services -/

namespace Schedule

/-- The clock that was served by a look, if one was. -/
def servedTurn : Except Fault Tick → Option Turn
  | .ok .instruction => some .instruction
  | .ok .exit => some .instruction
  | .ok .frame => some .frame
  | _ => none

/-- How often a clock was served. -/
def services (t : Turn) (outcomes : List (Except Fault Tick)) : Nat :=
  outcomes.countP fun outcome => servedTurn outcome = some t

/-- Whether there may be more to do at once: a clock was served, and the run
has not ended by that. -/
def goesOn : Except Fault Tick → Bool
  | .ok .instruction => true
  | .ok .frame => true
  | _ => false

theorem goesOn_iff {outcome : Except Fault Tick} :
    goesOn outcome ↔ outcome = .ok .instruction ∨ outcome = .ok .frame := by
  unfold goesOn
  split <;> simp_all

theorem services_cons (t : Turn) (outcome : Except Fault Tick)
    (later : List (Except Fault Tick)) :
    services t (outcome :: later) =
      services t [outcome] + services t later := by
  rw [← List.singleton_append, services, List.countP_append]
  rfl

/-- Where every look goes on, each has served one of the clocks. -/
theorem length_eq_services {outcomes : List (Except Fault Tick)}
    (h : ∀ o ∈ outcomes, goesOn o) :
    outcomes.length =
      services .instruction outcomes + services .frame outcomes := by
  induction outcomes with
  | nil => rfl
  | cons outcome later ih =>
      have hlater := ih fun o ho => h o (List.mem_cons_of_mem _ ho)
      have hone : services .instruction [outcome] + services .frame [outcome] =
          1 := by
        rcases goesOn_iff.mp (h outcome List.mem_cons_self) with rfl | rfl <;>
          rfl
      rw [services_cons, services_cons .frame, List.length_cons, hlater]
      omega

variable {σ : Type} [Screen σ] {s s' : Schedule} {c c' : Console σ} {now : Nat}
  {outcome : Except Fault Tick} {outcomes : List (Except Fault Tick)}

/-- A look has served the clock whose turn it was and that was due, or has left
the schedule alone. -/
theorem tick_service (h : s.tick c now = (outcome, s', c')) :
    (servedTurn outcome = none ∧ s' = s) ∨
      (servedTurn outcome = some s.turn ∧ s.nextDeadline ≤ now ∧
        s' = s.served now s.turn) := by
  have hcase := tick_cases s c now
  rw [h] at hcase
  cases hcase with
  | idle _ => exact .inl ⟨rfl, rfl⟩
  | frameFailed _ _ _ => exact .inl ⟨rfl, rfl⟩
  | instructionFailed _ _ _ => exact .inl ⟨rfl, rfl⟩
  | frame hturn hdue _ =>
      rw [hturn]
      exact .inr ⟨rfl, hdue, rfl⟩
  | instruction hturn hdue _ houtcome =>
      rw [hturn, houtcome]
      refine .inr ⟨?_, hdue, rfl⟩
      split <;> rfl

/-- A clock that was served has moved on by a period at least, and is not more
than a period behind. -/
theorem deadline_of_servedTurn {t : Turn}
    (h : s.tick c now = (outcome, s', c')) (hserved : servedTurn outcome = some t) :
    (s.clock t).deadline + (s.clock t).period ≤ (s'.clock t).deadline ∧
      now ≤ (s'.clock t).deadline + (s.clock t).period := by
  rcases tick_service h with ⟨hnone, _⟩ | ⟨hsome, _, rfl⟩
  · cases hserved.symm.trans hnone
  · cases hserved.symm.trans hsome
    rw [clock_served_self]
    exact ⟨Clock.deadline_add_period_le _ now, Clock.le_deadline_advance _ now⟩

/-- A look changes no rate. -/
theorem period_of_tick (h : s.tick c now = (outcome, s', c')) (u : Turn) :
    (s'.clock u).period = (s.clock u).period := by
  rcases tick_service h with ⟨_, rfl⟩ | ⟨_, _, rfl⟩
  · rfl
  · by_cases hu : u = s.turn
    · rw [hu, clock_served_self, Clock.period_advance]
    · rw [clock_served_of_ne s now hu]

/-! ## Looks at any console -/

/-- Looks at the schedule at some instants, one after the other, each time with
the console that is found there.  Answers what happened at each. -/
def lookAt (s : Schedule) :
    List (Nat × Console σ) → List (Except Fault Tick) × Schedule
  | [] => ([], s)
  | (now, c) :: rest =>
    let (outcome, s, _) := s.tick c now
    let (outcomes, s) := s.lookAt rest
    (outcome :: outcomes, s)

/-- A look, and then the others. -/
theorem of_lookAt_cons {rest : List (Nat × Console σ)}
    (h : s.lookAt ((now, c) :: rest) = (outcomes, s')) :
    ∃ outcome later s₁ c₁, outcomes = outcome :: later ∧
      s.tick c now = (outcome, s₁, c₁) ∧ s₁.lookAt rest = (later, s') := by
  cases htick : s.tick c now with
  | mk outcome after =>
      obtain ⟨s₁, c₁⟩ := after
      cases hrest : s₁.lookAt rest with
      | mk later last =>
          rw [lookAt, htick] at h
          simp only [hrest] at h
          cases h
          exact ⟨outcome, later, s₁, c₁, rfl, rfl, hrest⟩

theorem length_of_lookAt {found : List (Nat × Console σ)}
    (h : s.lookAt found = (outcomes, s')) : outcomes.length = found.length := by
  induction found generalizing s outcomes with
  | nil =>
      cases h
      rfl
  | cons first rest ih =>
      obtain ⟨outcome, later, s₁, c₁, rfl, _, hrest⟩ := of_lookAt_cons h
      rw [List.length_cons, List.length_cons, ih hrest]

/-- Looks at one console, whatever comes of it, are looks of this kind. -/
theorem lookAt_of_looks {instants : List Nat}
    (h : s.looks c instants = (outcomes, s', c')) :
    ∃ found : List (Nat × Console σ), found.map Prod.fst = instants ∧
      s.lookAt found = (outcomes, s') := by
  induction instants generalizing s c outcomes with
  | nil =>
      cases h
      exact ⟨[], rfl, rfl⟩
  | cons now rest ih =>
      obtain ⟨outcome, later, s₁, c₁, rfl, htick, hrest⟩ := of_looks_cons h
      obtain ⟨found, hinstants, hlater⟩ := ih hrest
      refine ⟨(now, c) :: found, by rw [List.map_cons, hinstants], ?_⟩
      rw [lookAt, htick]
      simp only [hlater]

/-! ## Looks at one instant -/

section OneInstant

variable {found : List (Console σ)}

/-- A look serves one of the ticks that can be served, or none. -/
theorem owed_of_tick (hperiod : ∀ t, 0 < (s.clock t).period)
    (h : s.tick c now = (outcome, s', c')) (t : Turn) :
    (s.clock t).owed now = services t [outcome] + (s'.clock t).owed now := by
  simp only [services, List.countP_singleton, decide_eq_true_eq]
  rcases tick_service h with ⟨hnone, rfl⟩ | ⟨hsome, hdue, rfl⟩
  · rw [hnone, if_neg nofun, Nat.zero_add]
  · rw [hsome]
    by_cases ht : t = s.turn
    · subst ht
      rw [← s.deadline_turn] at hdue
      rw [if_pos rfl, clock_served_self, Clock.owed_advance hdue (hperiod _)]
    · rw [if_neg fun heq => ht (Option.some.inj heq).symm, Nat.zero_add,
        clock_served_of_ne s now ht]

/-- Looks at one instant serve what can be served there, and no more. -/
theorem owed_of_lookAt (hperiod : ∀ t, 0 < (s.clock t).period)
    (h : s.lookAt (found.map (now, ·)) = (outcomes, s')) (t : Turn) :
    (s.clock t).owed now = services t outcomes + (s'.clock t).owed now := by
  induction found generalizing s outcomes with
  | nil =>
      cases h
      exact (Nat.zero_add _).symm
  | cons c rest ih =>
      obtain ⟨outcome, later, s₁, c₁, rfl, htick, hrest⟩ := of_lookAt_cons h
      have hperiod₁ (u : Turn) : 0 < (s₁.clock u).period := by
        rw [period_of_tick htick]
        exact hperiod u
      rw [services_cons, Nat.add_assoc, ← ih hperiod₁ hrest]
      exact owed_of_tick hperiod htick t

/-- So no clock is served more than three times at one instant. -/
theorem services_le (hperiod : ∀ t, 0 < (s.clock t).period)
    (h : s.lookAt (found.map (now, ·)) = (outcomes, s')) (t : Turn) :
    services t outcomes ≤ 3 := by
  have howed := owed_of_lookAt hperiod h t
  have hle := (s.clock t).owed_le now
  omega

/-- Nothing is due any more where a look is idle. -/
theorem lt_of_idle_mem {until_ : Nat}
    (h : s.lookAt (found.map (now, ·)) = (outcomes, s'))
    (hmem : .ok (.idle until_) ∈ outcomes) : now < until_ := by
  induction found generalizing s outcomes with
  | nil =>
      cases h
      cases hmem
  | cons c rest ih =>
      obtain ⟨outcome, later, s₁, c₁, rfl, htick, hrest⟩ := of_lookAt_cons h
      rcases List.mem_cons.mp hmem with rfl | hmem
      · obtain ⟨hlt, huntil, _⟩ := of_tick_idle htick
        rw [huntil]
        exact hlt
      · exact ih hrest hmem

/-- **Draining comes to an end.**  Of seven looks at one instant there is one
that does not go on.  Up to it each clock has been served three times at most,
and nothing is due any more if it is idle. -/
theorem exists_end (hperiod : ∀ t, 0 < (s.clock t).period)
    (h : s.lookAt (found.map (now, ·)) = (outcomes, s'))
    (hmany : 7 ≤ found.length) :
    ∃ before last after, outcomes = before ++ last :: after ∧
      (∀ o ∈ before, goesOn o) ∧ goesOn last = false ∧
      (∀ t, services t (before ++ [last]) ≤ 3) ∧
      ∀ until_, last = .ok (.idle until_) → now < until_ := by
  have hlength := length_of_lookAt h
  have hinstruction := services_le hperiod h .instruction
  have hframe := services_le hperiod h .frame
  cases hfind : outcomes.find? (!goesOn ·) with
  | none =>
      -- Seven looks that go on would be seven services.
      rw [List.find?_eq_none] at hfind
      have hall : ∀ o ∈ outcomes, goesOn o := by simpa using hfind
      have hcount := length_eq_services hall
      rw [List.length_map] at hlength
      omega
  | some last =>
      obtain ⟨hlast, before, after, houtcomes, hbefore⟩ :=
        List.find?_eq_some_iff_append.mp hfind
      refine ⟨before, last, after, houtcomes, ?_, ?_, fun t => ?_, ?_⟩
      · simpa using hbefore
      · simpa using hlast
      · have hle := services_le hperiod h t
        rw [houtcomes] at hle
        simp only [services, List.countP_append, List.countP_cons,
          List.countP_nil] at hle ⊢
        omega
      · rintro until_ rfl
        apply lt_of_idle_mem h
        rw [houtcomes]
        exact List.mem_append_right _ List.mem_cons_self

end OneInstant

end Schedule

/-! ## The rate of a run -/

/-- A schedule has not run faster than its rates up to now: every clock is due
no earlier than the ticks that it was served ask for, and all that was served
was due. -/
structure Paced (settings : Settings) (start now : Nat) (s : Schedule) :
    Prop where
  period : ∀ t, (s.clock t).period = settings.period t
  deadline : ∀ t,
    start + (s.count t + 1) * settings.period t ≤ (s.clock t).deadline
  reached : ∀ t, start + s.count t * settings.period t ≤ now

namespace Paced

variable {σ : Type} [Screen σ] {settings : Settings} {start now later : Nat}
  {s s' : Schedule} {c c' : Console σ} {outcome : Except Fault Tick}
  {outcomes : List (Except Fault Tick)}

theorem start_schedule (hrate : ∀ t, 1 ≤ settings.rate t) :
    Paced settings start start (.start settings start) where
  period t := by rw [Schedule.clock_start (hrate t)]
  deadline t := by
    rw [Schedule.clock_start (hrate t), Schedule.count_start, Nat.zero_add,
      Nat.one_mul]
  reached t := by
    rw [Schedule.count_start, Nat.zero_mul]
    exact Nat.le_refl start

/-- A look at a later instant does no harm. -/
theorem tick (h : Paced settings start now s) (hle : now ≤ later)
    (htick : s.tick c later = (outcome, s', c')) :
    Paced settings start later s' := by
  rcases Schedule.tick_service htick with ⟨_, rfl⟩ | ⟨hserved, hdue, rfl⟩
  · exact { h with reached := fun t => Nat.le_trans (h.reached t) hle }
  · have hmoved := (Schedule.deadline_of_servedTurn htick hserved).1
    refine ⟨fun t => ?_, fun t => ?_, fun t => ?_⟩
    · rw [Schedule.period_of_tick htick]
      exact h.period t
    · have hdeadline := h.deadline t
      by_cases ht : t = s.turn
      · subst ht
        rw [h.period] at hmoved
        rw [Schedule.count_served_self, Nat.succ_mul (s.count s.turn + 1)]
        omega
      · rw [Schedule.count_served_of_ne s later ht,
          Schedule.clock_served_of_ne s later ht]
        exact hdeadline
    · by_cases ht : t = s.turn
      · subst ht
        have hdeadline := h.deadline s.turn
        rw [s.deadline_turn] at hdeadline
        rw [Schedule.count_served_self]
        exact Nat.le_trans hdeadline hdue
      · rw [Schedule.count_served_of_ne s later ht]
        exact Nat.le_trans (h.reached t) hle

/-- Nor does a row of looks. -/
theorem lookAt {found : List (Nat × Console σ)}
    (h : Paced settings start now s)
    (hinstants : (now :: found.map Prod.fst).IsChain (· ≤ ·))
    (hlooks : s.lookAt found = (outcomes, s')) :
    Paced settings start ((found.map Prod.fst).getLastD now) s' := by
  induction found generalizing s now outcomes with
  | nil =>
      cases hlooks
      exact h
  | cons first rest ih =>
      obtain ⟨next, c⟩ := first
      obtain ⟨outcome, later, s₁, c₁, rfl, htick, hrest⟩ :=
        Schedule.of_lookAt_cons hlooks
      rw [List.map_cons, List.isChain_cons_cons] at hinstants
      rw [List.map_cons, List.getLastD_cons]
      exact ih (h.tick hinstants.1 htick) hinstants.2 hrest

end Paced

namespace Schedule

variable {σ : Type} [Screen σ] {settings : Settings} {start : Nat}
  {s : Schedule} {found : List (Nat × Console σ)}
  {outcomes : List (Except Fault Tick)}

/-- **No stall speeds a run up.**  A schedule is looked at from the start on, at
any instants in order.  However long the stalls between them, the time up to
the last one has room for all periods that were served.  A clock that is served
moves on by a period at least, and is not more than a period behind then.  And
looked at again and again at any one instant, the schedule serves each clock
three times at most before it is idle, and then until later than that instant,
or the run is ended by the exit key or a fault. -/
theorem keeps_rate
    (hrate : ∀ t, 1 ≤ settings.rate t ∧ settings.rate t ≤ second)
    (hinstants : (start :: found.map Prod.fst).IsChain (· ≤ ·))
    (hlooks : (Schedule.start settings start).lookAt found = (outcomes, s)) :
    (∀ t, start + s.count t * settings.period t ≤
      (found.map Prod.fst).getLastD start) ∧
    (∀ (now : Nat) (c c' : Console σ) (outcome : Except Fault Tick)
      (s' : Schedule) (t : Turn),
      s.tick c now = (outcome, s', c') → servedTurn outcome = some t →
        (s.clock t).deadline + settings.period t ≤ (s'.clock t).deadline ∧
          now ≤ (s'.clock t).deadline + settings.period t) ∧
    ∀ (now : Nat) (again : List (Console σ)), 7 ≤ again.length →
      ∃ before last after,
        (s.lookAt (again.map (now, ·))).1 = before ++ last :: after ∧
        (∀ o ∈ before, o = .ok .instruction ∨ o = .ok .frame) ∧
        ((∃ until_, last = .ok (.idle until_) ∧ now < until_) ∨
          last = .ok .exit ∨ ∃ f, last = .error f) ∧
        ∀ t, services t (before ++ [last]) ≤ 3 := by
  have hpaced := (Paced.start_schedule fun t => (hrate t).1).lookAt hinstants
    hlooks
  have hperiod (t : Turn) : 0 < (s.clock t).period := by
    rw [hpaced.period]
    exact Settings.period_pos (hrate t).1 (hrate t).2
  refine ⟨hpaced.reached, ?_, ?_⟩
  · intro now c c' outcome s' t htick hserved
    rw [← hpaced.period]
    exact deadline_of_servedTurn htick hserved
  · intro now again hmany
    obtain ⟨before, last, after, houtcomes, hbefore, hlast, hcount, hidle⟩ :=
      exists_end hperiod (Prod.eta _).symm hmany
    refine ⟨before, last, after, houtcomes, ?_, ?_, hcount⟩
    · intro o ho
      exact goesOn_iff.mp (hbefore o ho)
    · match last, hlast with
      | .ok (.idle until_), _ => exact .inl ⟨until_, rfl, hidle until_ rfl⟩
      | .ok .exit, _ => exact .inr (.inl rfl)
      | .error f, _ => exact .inr (.inr ⟨f, rfl⟩)

/-- Five seconds in, once more then, and nine seconds in. -/
def rareInstants : List Nat :=
  [5 * second, 5 * second, 9 * second]

/-- Two instructions and a frame a second, and a program that goes round and
round: it has come no further than it would have in time, and seven more looks
leave nothing to do. -/
theorem keeps_rate_rarely :
    ∃ outcomes s c,
      (Schedule.start { clockRate := 2, frameRate := 1 } 0).looks
          (Console.circling {} 0) rareInstants =
        (outcomes, s, c) ∧
      s.instructionCount ≤ 18 ∧ s.frameCount ≤ 9 ∧
      ∃ last ∈ (s.lookAt ((List.replicate 7 c).map (9 * second, ·))).1,
        (∃ until_, last = .ok (.idle until_) ∧ 9 * second < until_) ∨
          last = .ok .exit ∨ ∃ f, last = .error f := by
  have hrate (t : Turn) :
      1 ≤ Settings.rate { clockRate := 2, frameRate := 1 } t ∧
        Settings.rate { clockRate := 2, frameRate := 1 } t ≤ second := by
    cases t <;> decide
  cases hlooks : (Schedule.start { clockRate := 2, frameRate := 1 } 0).looks
      (Console.circling {} 0) rareInstants with
  | mk outcomes after =>
      obtain ⟨s, c⟩ := after
      obtain ⟨found, hfound, hlookAt⟩ := lookAt_of_looks hlooks
      have hinstants : (0 :: found.map Prod.fst).IsChain (· ≤ ·) := by
        rw [hfound]
        simp [rareInstants, second]
      obtain ⟨hreached, _, hdrain⟩ := keeps_rate hrate hinstants hlookAt
      rw [hfound] at hreached
      have hlast : rareInstants.getLastD 0 = 9000000000 := rfl
      have hinstruction : 0 + s.instructionCount * 500000000 ≤ 9000000000 :=
        hlast ▸ hreached .instruction
      have hframe : 0 + s.frameCount * 1000000000 ≤ 9000000000 :=
        hlast ▸ hreached .frame
      obtain ⟨before, last, after, houtcomes, _, hended, _⟩ :=
        hdrain (9 * second) (List.replicate 7 c) (Nat.le_refl 7)
      refine ⟨outcomes, s, c, rfl, by omega, by omega, last, ?_, hended⟩
      rw [houtcomes]
      exact List.mem_append_right _ List.mem_cons_self

end Schedule

end Chip8
