import Chip8.Proofs.Circling
import Chip8.Proofs.Tick
import Mathlib.Data.List.Chain

/-!
# The timetable

A clock that is looked at often enough never restarts, so its deadlines are
those that its rate names, however late they are served.  A schedule that is
drained at each of a row of instants therefore serves one fixed timetable: all
deadlines of both clocks, in order, and the frame first where two fall
together.  When it was looked at leaves no trace.

The invariant is `OnTime`.  One service preserves it (`OnTime.serve`), hence
draining the schedule at one instant does, hence a row of instants does.

## Main results

* `OnTime.drained`, `OnTime.polled` — the invariant along a run.
* `Schedule.serves_timetable` — what a run has served.
-/

namespace Chip8

/-! ## Services -/

/-- The service of a clock: whose turn it was, and which deadline was met. -/
structure Service where
  turn : Turn
  due : Nat
  deriving DecidableEq, Repr

namespace Service

/-- The order of services: by their deadlines, and a frame comes before an
instruction of the same instant. -/
def Before (a b : Service) : Prop :=
  a.due < b.due ∨ a.due = b.due ∧ a.turn = .frame ∧ b.turn = .instruction

theorem Before.trans {a b c : Service} (hab : a.Before b) (hbc : b.Before c) :
    a.Before c := by
  rcases hab with hab | ⟨hab, ha, hb⟩
  · rcases hbc with hbc | ⟨hbc, _, _⟩
    · exact .inl (Nat.lt_trans hab hbc)
    · exact .inl (hbc ▸ hab)
  · rcases hbc with hbc | ⟨_, hb', _⟩
    · exact .inl (hab ▸ hbc)
    · rw [hb] at hb'
      cases hb'

theorem Before.irrefl (a : Service) : ¬ a.Before a := by
  rintro (h | ⟨_, hf, hi⟩)
  · exact Nat.lt_irrefl _ h
  · rw [hf] at hi
    cases hi

end Service

/-! ## What the settings name -/

namespace Settings

/-- The rate of a clock. -/
def rate (settings : Settings) : Turn → Nat
  | .frame => settings.frameRate
  | .instruction => settings.clockRate

/-- The period of a clock, in whole nanoseconds. -/
def period (settings : Settings) (t : Turn) : Nat :=
  second / settings.rate t

/-- The deadlines of both clocks, from one period after the start on. -/
def Deadline (settings : Settings) (start : Nat) (e : Service) : Prop :=
  ∃ k, 1 ≤ k ∧ e.due = start + k * settings.period e.turn

/-- A rate of at most one tick a nanosecond has a period. -/
theorem period_pos {settings : Settings} {t : Turn}
    (hpos : 1 ≤ settings.rate t) (hle : settings.rate t ≤ second) :
    0 < settings.period t :=
  Nat.div_pos hle hpos

/-- A clock ticks as often in a second as its rate says, if the square of the
rate is no more than the nanoseconds in a second. -/
theorem second_div_period {settings : Settings} {t : Turn}
    (hpos : 1 ≤ settings.rate t)
    (hsquare : settings.rate t * settings.rate t ≤ second) :
    second / settings.period t = settings.rate t := by
  have hle : settings.rate t ≤ second :=
    Nat.le_trans (Nat.le_mul_of_pos_left _ hpos) hsquare
  have hperiod : settings.rate t ≤ settings.period t :=
    (Nat.le_div_iff_mul_le hpos).mpr hsquare
  have hdivision := Nat.div_add_mod second (settings.rate t)
  have hrest : second % settings.rate t < settings.rate t :=
    Nat.mod_lt _ hpos
  change settings.rate t * settings.period t + _ = second at hdivision
  apply Nat.div_eq_of_lt_le
  · omega
  · rw [Nat.succ_mul]
    omega

end Settings

/-! ## Runs -/

section Runs

variable (σ : Type) [Screen σ]

/-- The schedule is looked at again and again at one instant until nothing is
due.  `es` are the services meanwhile, and `until_` is the instant that the last
look names.  No service fails, and no instruction finds the exit key held; but
for that the console may be any at each look, since keys are heard between two
looks. -/
inductive Drained (now : Nat) :
    Schedule → List Service → Schedule → Nat → Prop
  | idle {s s' : Schedule} {c c' : Console σ} {until_ : Nat}
    (h : s.tick c now = (.ok (.idle until_), s', c')) :
    Drained now s [] s' until_
  | frame {s s' s'' : Schedule} {c c' : Console σ} {es : List Service}
    {until_ : Nat} (h : s.tick c now = (.ok .frame, s', c'))
    (rest : Drained now s' es s'' until_) :
    Drained now s (⟨.frame, s.frames.deadline⟩ :: es) s'' until_
  | instruction {s s' s'' : Schedule} {c c' : Console σ} {es : List Service}
    {until_ : Nat} (h : s.tick c now = (.ok .instruction, s', c'))
    (rest : Drained now s' es s'' until_) :
    Drained now s (⟨.instruction, s.instructions.deadline⟩ :: es) s'' until_

/-- The schedule is drained at one instant after the other. -/
inductive Polled :
    Schedule → List Nat → List Service → Schedule → Nat → Prop
  | last {s s' : Schedule} {es : List Service} {now until_ : Nat}
    (h : Drained σ now s es s' until_) :
    Polled s [now] es s' until_
  | more {s s' s'' : Schedule} {es es' : List Service} {polls : List Nat}
    {now until_ until_' : Nat} (h : Drained σ now s es s' until_)
    (rest : Polled s' polls es' s'' until_') :
    Polled s (now :: polls) (es ++ es') s'' until_'

variable {σ : Type} [Screen σ]

/-- There is at least one instant. -/
theorem Polled.exists_cons {s s' : Schedule} {polls : List Nat}
    {es : List Service} {until_ : Nat} (h : Polled σ s polls es s' until_) :
    ∃ first later, polls = first :: later := by
  cases h with
  | last _ => exact ⟨_, _, rfl⟩
  | more _ _ => exact ⟨_, _, rfl⟩

end Runs

/-! ## The invariant -/

/-- A clock starts one period before its first deadline. -/
theorem Schedule.clock_start {settings : Settings} {t : Turn}
    (hpos : 1 ≤ settings.rate t) (now : Nat) :
    (Schedule.start settings now).clock t =
      ⟨settings.period t, now + settings.period t⟩ := by
  cases t <;>
    simp only [start, clock, Clock.ofRate, Settings.period, Settings.rate]
      at hpos ⊢ <;>
    rw [Nat.max_eq_left hpos]

theorem Schedule.count_start (settings : Settings) (now : Nat) (t : Turn) :
    (Schedule.start settings now).count t = 0 := by
  cases t <;> rfl

theorem Schedule.period_served_pos (s : Schedule) (now : Nat) (t : Turn)
    (h : ∀ u, 0 < (s.clock u).period) (u : Turn) :
    0 < ((s.served now t).clock u).period := by
  by_cases hu : u = t
  · subst hu
    rw [clock_served_self]
    exact h u
  · rw [clock_served_of_ne s now hu]
    exact h u

/-- The service that is pending on a clock. -/
def Schedule.pending (s : Schedule) (t : Turn) : Service :=
  ⟨t, (s.clock t).deadline⟩

/-- What is pending on the clock whose turn it is comes first. -/
theorem Schedule.pending_turn_before (s : Schedule) {u : Turn}
    (h : u ≠ s.turn) : (s.pending s.turn).Before (s.pending u) := by
  cases hturn : s.turn with
  | frame =>
      have hle := s.deadline_le_of_turn hturn
      cases u with
      | frame => exact absurd hturn.symm h
      | instruction =>
          rcases Nat.lt_or_eq_of_le hle with hlt | heq
          · exact .inl hlt
          · exact .inr ⟨heq, rfl, rfl⟩
  | instruction =>
      cases u with
      | frame => exact .inl (s.deadline_lt_of_turn hturn)
      | instruction => exact absurd hturn.symm h

/-- Both clocks are where their rates put them, and `es`, what has been served
by now, are the deadlines up to there in order. -/
structure OnTime (settings : Settings) (start now : Nat) (s : Schedule)
    (es : List Service) : Prop where
  period : ∀ t, (s.clock t).period = settings.period t
  deadline : ∀ t,
    (s.clock t).deadline = start + (s.count t + 1) * settings.period t
  reached : ∀ t, start + s.count t * settings.period t ≤ now
  sorted : es.Pairwise Service.Before
  ahead : ∀ e ∈ es, ∀ t, e.Before (s.pending t)
  mem : ∀ e, e ∈ es ↔ ∃ k, 1 ≤ k ∧ k ≤ s.count e.turn ∧
    e.due = start + k * settings.period e.turn

namespace OnTime

variable {settings : Settings} {start now : Nat} {s s' : Schedule}
  {es es' : List Service}

theorem start_schedule (hpos : ∀ t, 1 ≤ settings.rate t) :
    OnTime settings start start (Schedule.start settings start) [] where
  period t := by rw [Schedule.clock_start (hpos t)]
  deadline t := by
    rw [Schedule.clock_start (hpos t), Schedule.count_start, Nat.zero_add,
      Nat.one_mul]
  reached t := by
    rw [Schedule.count_start, Nat.zero_mul]
    exact Nat.le_refl start
  sorted := List.Pairwise.nil
  ahead e he := by cases he
  mem e := by
    constructor
    · intro he
      cases he
    · rintro ⟨k, hk, hcount, _⟩
      rw [Schedule.count_start] at hcount
      omega

/-- Waiting does no harm. -/
theorem mono {later : Nat} (h : OnTime settings start now s es)
    (hle : now ≤ later) : OnTime settings start later s es :=
  { h with reached := fun t => Nat.le_trans (h.reached t) hle }

section Serve

variable (h : OnTime settings start now s es)
  (hlate : now ≤ s.nextDeadline + 2 * settings.period s.turn)
include h hlate

/-- A clock that is not more than two periods behind moves on by one. -/
theorem deadline_served :
    ((s.served now s.turn).clock s.turn).deadline =
      (s.clock s.turn).deadline + settings.period s.turn := by
  have hperiod := h.period s.turn
  rw [Schedule.clock_served_self, ← hperiod]
  apply Clock.deadline_advance_of_le
  rw [s.deadline_turn, hperiod]
  exact hlate

/-- What was pending comes before all that is pending now. -/
theorem pending_before_served (hperiod : 0 < settings.period s.turn)
    (u : Turn) :
    (s.pending s.turn).Before ((s.served now s.turn).pending u) := by
  by_cases hu : u = s.turn
  · subst hu
    left
    show (s.clock s.turn).deadline <
      ((s.served now s.turn).clock s.turn).deadline
    rw [h.deadline_served hlate]
    omega
  · have hsame : (s.served now s.turn).pending u = s.pending u := by
      rw [Schedule.pending, Schedule.clock_served_of_ne s now hu]
      rfl
    rw [hsame]
    exact s.pending_turn_before hu

/-- One service keeps both clocks on time, if it is not more than two periods
late. -/
theorem serve (hperiod : 0 < settings.period s.turn)
    (hdue : s.nextDeadline ≤ now) :
    OnTime settings start now (s.served now s.turn)
      (es ++ [s.pending s.turn]) where
  period u := by
    by_cases hu : u = s.turn
    · subst hu
      rw [Schedule.clock_served_self]
      exact h.period _
    · rw [Schedule.clock_served_of_ne s now hu]
      exact h.period u
  deadline u := by
    by_cases hu : u = s.turn
    · subst hu
      rw [h.deadline_served hlate, Schedule.count_served_self, h.deadline,
        Nat.succ_mul (s.count s.turn + 1), Nat.add_assoc]
    · rw [Schedule.clock_served_of_ne s now hu,
        Schedule.count_served_of_ne s now hu]
      exact h.deadline u
  reached u := by
    by_cases hu : u = s.turn
    · subst hu
      rw [Schedule.count_served_self, ← h.deadline, s.deadline_turn]
      exact hdue
    · rw [Schedule.count_served_of_ne s now hu]
      exact h.reached u
  sorted := by
    refine List.pairwise_append.mpr ⟨h.sorted, List.pairwise_singleton _ _, ?_⟩
    intro e he e' he'
    rw [List.mem_singleton.mp he']
    exact h.ahead e he _
  ahead := by
    intro e he u
    have hbefore := h.pending_before_served hlate hperiod u
    rcases List.mem_append.mp he with he | he
    · exact (h.ahead e he _).trans hbefore
    · rw [List.mem_singleton.mp he]
      exact hbefore
  mem e := by
    rw [List.mem_append, List.mem_singleton, h.mem]
    by_cases hu : e.turn = s.turn
    · rw [hu, Schedule.count_served_self]
      constructor
      · rintro (⟨k, hk, hcount, hdue⟩ | rfl)
        · exact ⟨k, hk, Nat.le_succ_of_le hcount, hdue⟩
        · exact ⟨s.count s.turn + 1, Nat.succ_pos _, Nat.le_refl _,
            h.deadline s.turn⟩
      · rintro ⟨k, hk, hcount, hdue⟩
        rcases Nat.lt_or_eq_of_le hcount with hlt | rfl
        · exact .inl ⟨k, hk, Nat.le_of_lt_succ hlt, hdue⟩
        · right
          rw [← h.deadline] at hdue
          cases e
          cases hu
          cases hdue
          rfl
    · rw [Schedule.count_served_of_ne s now hu]
      constructor
      · rintro (hmem | rfl)
        · exact hmem
        · exact absurd rfl hu
      · exact .inl

end Serve

/-- The next service does, and leaves neither clock further behind. -/
theorem serve_next (hperiod : ∀ t, 0 < settings.period t)
    (h : OnTime settings start now s es)
    (hlate : ∀ t, now ≤ (s.clock t).deadline + 2 * settings.period t)
    (hdue : s.nextDeadline ≤ now) :
    OnTime settings start now (s.served now s.turn)
        (es ++ [s.pending s.turn]) ∧
      ∀ t, now ≤
        ((s.served now s.turn).clock t).deadline + 2 * settings.period t := by
  have hturn : now ≤ s.nextDeadline + 2 * settings.period s.turn :=
    s.deadline_turn ▸ hlate s.turn
  refine ⟨h.serve hturn (hperiod _) hdue, fun t => ?_⟩
  have hlate := hlate t
  by_cases ht : t = s.turn
  · subst ht
    rw [h.deadline_served hturn]
    omega
  · rw [Schedule.clock_served_of_ne s now ht]
    exact hlate

/-! ### Along a run -/

section Run

variable {σ : Type} [Screen σ] {until_ : Nat}

/-- Draining the schedule keeps both clocks on time, if neither is two periods
behind.  Nothing that is due is left. -/
theorem drained (hperiod : ∀ t, 0 < settings.period t)
    (h : OnTime settings start now s es)
    (hlate : ∀ t, now ≤ (s.clock t).deadline + 2 * settings.period t)
    (hrun : Drained σ now s es' s' until_) :
    OnTime settings start now s' (es ++ es') ∧ now < s'.nextDeadline ∧
      until_ = s'.nextDeadline := by
  induction hrun generalizing es with
  | idle htick =>
      obtain ⟨hlt, huntil, rfl, _⟩ := Schedule.of_tick_idle htick
      rw [List.append_nil]
      exact ⟨h, hlt, huntil⟩
  | frame htick rest ih =>
      obtain ⟨hturn, hdue, rfl, _⟩ := Schedule.of_tick_frame htick
      have hnext := h.serve_next hperiod hlate hdue
      rw [hturn] at hnext
      have hrest := ih hnext.1 hnext.2
      rw [List.append_assoc] at hrest
      exact hrest
  | instruction htick rest ih =>
      obtain ⟨hturn, hdue, rfl, _⟩ := Schedule.of_tick_instruction htick
      have hnext := h.serve_next hperiod hlate hdue
      rw [hturn] at hnext
      have hrest := ih hnext.1 hnext.2
      rw [List.append_assoc] at hrest
      exact hrest

/-- A row of instants that are no more than two periods apart keeps both clocks
on time. -/
theorem polled {polls : List Nat} {last : Nat}
    (hperiod : ∀ t, 0 < settings.period t)
    (hpolls : (now :: polls).IsChain fun a b =>
      a < b ∧ ∀ t, b ≤ a + 2 * settings.period t)
    (hlast : polls.getLast? = some last)
    (h : OnTime settings start now s es) (hnow : now < s.nextDeadline)
    (hrun : Polled σ s polls es' s' until_) :
    OnTime settings start last s' (es ++ es') ∧ last < s'.nextDeadline ∧
      until_ = s'.nextDeadline := by
  -- Looked at in time, no clock is two periods behind: its deadline is later
  -- than the instant before.
  have hlate {s : Schedule} {now next : Nat} (hnow : now < s.nextDeadline)
      (hgap : ∀ t, next ≤ now + 2 * settings.period t) (t : Turn) :
      next ≤ (s.clock t).deadline + 2 * settings.period t := by
    have hfirst := s.deadline_turn_le t
    have hgap := hgap t
    rw [s.deadline_turn] at hfirst
    omega
  induction hrun generalizing es now with
  | last hdrain =>
      obtain ⟨⟨hlt, hgap⟩, _⟩ := List.isChain_cons_cons.mp hpolls
      cases hlast
      exact (h.mono (Nat.le_of_lt hlt)).drained hperiod (hlate hnow hgap) hdrain
  | more hdrain rest ih =>
      obtain ⟨⟨hlt, hgap⟩, hrest⟩ := List.isChain_cons_cons.mp hpolls
      obtain ⟨honTime, hnext, _⟩ :=
        (h.mono (Nat.le_of_lt hlt)).drained hperiod (hlate hnow hgap) hdrain
      obtain ⟨first, later, rfl⟩ := rest.exists_cons
      rw [List.getLast?_cons_cons] at hlast
      have hall := ih hrest hlast honTime hnext
      rw [List.append_assoc] at hall
      exact hall

end Run

/-- What has been served is what the settings name up to now, if nothing is
left. -/
theorem mem_iff (h : OnTime settings start now s es)
    (hnext : now < s.nextDeadline) (e : Service) :
    e ∈ es ↔ settings.Deadline start e ∧ e.due ≤ now := by
  rw [h.mem]
  constructor
  · rintro ⟨k, hk, hcount, hdue⟩
    have hreached := h.reached e.turn
    have hmul := Nat.mul_le_mul_right (settings.period e.turn) hcount
    exact ⟨⟨k, hk, hdue⟩, by omega⟩
  · rintro ⟨⟨k, hk, hdue⟩, hle⟩
    refine ⟨k, hk, ?_, hdue⟩
    have hfirst := s.deadline_turn_le e.turn
    rw [s.deadline_turn, h.deadline] at hfirst
    have hlt : k * settings.period e.turn <
        (s.count e.turn + 1) * settings.period e.turn := by omega
    exact Nat.le_of_lt_succ (Nat.lt_of_mul_lt_mul_right hlt)

/-- A clock has been served as often as its period fits into the time. -/
theorem count_eq (h : OnTime settings start now s es)
    (hnext : now < s.nextDeadline) (t : Turn) :
    s.count t = (now - start) / settings.period t := by
  have hreached := h.reached t
  have hfirst := s.deadline_turn_le t
  rw [s.deadline_turn, h.deadline] at hfirst
  symm
  apply Nat.div_eq_of_lt_le
  · omega
  · omega

end OnTime

/-- Services in order are told by their members. -/
theorem Service.eq_of_sorted {es es' : List Service}
    (h : es.Pairwise Before) (h' : es'.Pairwise Before)
    (hmem : ∀ e, e ∈ es ↔ e ∈ es') : es = es' := by
  have hne {a b : Service} (hab : a.Before b) : a ≠ b := by
    rintro rfl
    exact Before.irrefl a hab
  have hperm : es.Perm es' :=
    (List.perm_ext_iff_of_nodup (h.imp hne) (h'.imp hne)).mpr hmem
  refine List.Perm.eq_of_pairwise ?_ h h' hperm
  intro a b _ _ hab hba
  exact absurd (hab.trans hba) (Before.irrefl a)

/-! ## Runs come to rest -/

section Rest

variable {σ : Type} [Screen σ] {c stepped framed : Console σ}

/-- A schedule whose clocks have periods can be drained, as long as the console
does not fail and the exit key is up. -/
theorem Drained.exists_of_console (hstep : c.step = .ok stepped)
    (hexit : stepped.exitRequested = false) (hframe : c.frame = (.ok (), framed))
    (now : Nat) (s : Schedule) (hperiod : ∀ t, 0 < (s.clock t).period) :
    ∃ es s' until_, Drained σ now s es s' until_ ∧
      ∀ t, 0 < (s'.clock t).period := by
  -- Each service moves a deadline on, so both pass the instant in the end.
  induction hn : (now + 1 - s.frames.deadline) +
    (now + 1 - s.instructions.deadline) using Nat.strongRecOn generalizing s with
  | ind n ih =>
      by_cases hdue : s.nextDeadline ≤ now
      · have hserved (t : Turn) (ht : s.turn = t) :
            ∃ es s' until_, Drained σ now (s.served now t) es s' until_ ∧
              ∀ t, 0 < (s'.clock t).period := by
          have hmoved := (s.clock t).deadline_add_period_le now
          have hpos := hperiod t
          rw [← s.deadline_turn, ht] at hdue
          refine ih _ ?_ (s.served now t) (s.period_served_pos now t hperiod) rfl
          cases t <;>
            simp only [Schedule.clock, Schedule.served] at hmoved hpos hdue ⊢ <;>
            omega
        cases hturn : s.turn with
        | frame =>
            obtain ⟨es, s', until_, hrest, hp⟩ := hserved _ hturn
            have htick : s.tick c now =
                (.ok .frame, s.served now .frame, framed) := by
              rw [Schedule.tick_frame c hturn hdue, hframe]
            exact ⟨_, s', until_, .frame htick hrest, hp⟩
        | instruction =>
            obtain ⟨es, s', until_, hrest, hp⟩ := hserved _ hturn
            have htick : s.tick c now =
                (.ok .instruction, s.served now .instruction, stepped) := by
              rw [Schedule.tick_instruction c hturn hdue, hstep]
              simp only [hexit]
              rfl
            exact ⟨_, s', until_, .instruction htick hrest, hp⟩
      · exact ⟨[], s, s.nextDeadline,
          .idle (Schedule.tick_idle c (Nat.lt_of_not_le hdue)), hperiod⟩

/-- Such a schedule can be drained at one instant after the other. -/
theorem Polled.exists_of_console (hstep : c.step = .ok stepped)
    (hexit : stepped.exitRequested = false) (hframe : c.frame = (.ok (), framed))
    (now : Nat) (polls : List Nat) (s : Schedule)
    (hperiod : ∀ t, 0 < (s.clock t).period) :
    ∃ es s' until_, Polled σ s (now :: polls) es s' until_ := by
  induction polls generalizing s now with
  | nil =>
      obtain ⟨es, s', until_, hdrain, _⟩ :=
        Drained.exists_of_console hstep hexit hframe now s hperiod
      exact ⟨es, s', until_, .last hdrain⟩
  | cons next polls ih =>
      obtain ⟨es, s', until_, hdrain, hperiod'⟩ :=
        Drained.exists_of_console hstep hexit hframe now s hperiod
      obtain ⟨es', s'', until_', hrest⟩ := ih next s' hperiod'
      exact ⟨es ++ es', s'', until_', .more hdrain hrest⟩

end Rest

/-! ## The timetable -/

section Timetable

variable {σ : Type} [Screen σ] {settings : Settings} {start last until_ : Nat}
  {polls : List Nat} {es : List Service} {s : Schedule}

/-- The instants are in order, and no two of them, nor the start and the first,
are further apart than two periods of the faster clock. -/
def Settings.Frequent (settings : Settings) (start : Nat)
    (polls : List Nat) : Prop :=
  (start :: polls).IsChain fun a b => a < b ∧
    b ≤ a + 2 * min (settings.period .instruction) (settings.period .frame)

/-- A run from the start stays on time. -/
theorem Schedule.onTime_of_polled
    (hrate : ∀ t, 1 ≤ settings.rate t ∧ settings.rate t ≤ second)
    (hpolls : settings.Frequent start polls)
    (hlast : polls.getLast? = some last)
    (hrun : Polled σ (.start settings start) polls es s until_) :
    OnTime settings start last s es ∧ last < s.nextDeadline ∧
      until_ = s.nextDeadline := by
  have hperiod (t : Turn) : 0 < settings.period t :=
    Settings.period_pos (hrate t).1 (hrate t).2
  have hstart : start < (Schedule.start settings start).nextDeadline := by
    rw [← Schedule.deadline_turn, Schedule.clock_start (hrate _).1]
    exact Nat.lt_add_of_pos_right (hperiod _)
  have hgaps : (start :: polls).IsChain fun a b =>
      a < b ∧ ∀ t, b ≤ a + 2 * settings.period t := by
    refine hpolls.imp fun a b hab => ⟨hab.1, fun t => ?_⟩
    have hgap := hab.2
    cases t <;> omega
  exact (OnTime.start_schedule fun t => (hrate t).1).polled hperiod hgaps hlast
    hstart hrun

/-- **No drift.**  A schedule that is drained at each of a row of instants,
which are frequent enough, has served all deadlines of both clocks up to the
last instant, in order, and the frame first where two fall together.  So each
clock has been served as often as its period fits into the time, the last look
names the earlier of the two next deadlines, and another row of instants that
ends at the same one serves the same.  A second is exactly as many services as
the rate says, if the rate is not too high. -/
theorem Schedule.serves_timetable
    (hrate : ∀ t, 1 ≤ settings.rate t ∧ settings.rate t ≤ second)
    (hpolls : settings.Frequent start polls)
    (hlast : polls.getLast? = some last)
    (hrun : Polled σ (.start settings start) polls es s until_) :
    es.Pairwise Service.Before ∧
      (∀ e, e ∈ es ↔ settings.Deadline start e ∧ e.due ≤ last) ∧
      s.instructionCount = (last - start) / settings.period .instruction ∧
      s.frameCount = (last - start) / settings.period .frame ∧
      until_ =
        min (start + (s.frameCount + 1) * settings.period .frame)
          (start + (s.instructionCount + 1) * settings.period .instruction) ∧
      (∀ polls' es' s' until_', settings.Frequent start polls' →
        polls'.getLast? = some last →
        Polled σ (.start settings start) polls' es' s' until_' → es' = es) ∧
      (last = start + second → ∀ t,
        settings.rate t * settings.rate t ≤ second →
          s.count t = settings.rate t) := by
  obtain ⟨honTime, hnext, huntil⟩ :=
    Schedule.onTime_of_polled hrate hpolls hlast hrun
  have hmem := honTime.mem_iff hnext
  have hcount := honTime.count_eq hnext
  refine ⟨honTime.sorted, hmem, hcount .instruction, hcount .frame, ?_, ?_, ?_⟩
  · rw [huntil, Schedule.nextDeadline]
    exact congrArg₂ min (honTime.deadline .frame)
      (honTime.deadline .instruction)
  · intro polls' es' s' until_' hpolls' hlast' hrun'
    obtain ⟨honTime', hnext', _⟩ :=
      Schedule.onTime_of_polled hrate hpolls' hlast' hrun'
    apply Service.eq_of_sorted honTime'.sorted honTime.sorted
    intro e
    rw [honTime'.mem_iff hnext', hmem]
  · intro hsecond t hsquare
    rw [hcount, hsecond, Nat.add_sub_cancel_left]
    exact Settings.second_div_period (hrate t).1 hsquare

end Timetable

/-- Two instructions and a frame a second, looked at once late and once at the
second: the frame and the second instruction fall together. -/
theorem Schedule.serves_timetable_second :
    ∃ es s until_,
      Polled Headless (.start { clockRate := 2, frameRate := 1 } 0)
        [700000000, 1000000000] es s until_ ∧
      s.instructionCount = 2 ∧ s.frameCount = 1 ∧ until_ = 1500000000 ∧
      ⟨.frame, 1000000000⟩ ∈ es ∧ ⟨.instruction, 1000000000⟩ ∈ es := by
  have hrate (t : Turn) :
      1 ≤ Settings.rate { clockRate := 2, frameRate := 1 } t ∧
        Settings.rate { clockRate := 2, frameRate := 1 } t ≤ second := by
    cases t <;> decide
  have hperiod (t : Turn) :
      0 < ((Schedule.start { clockRate := 2, frameRate := 1 } 0).clock
        t).period := by
    cases t <;> decide
  have hpolls : Settings.Frequent { clockRate := 2, frameRate := 1 } 0
      [700000000, 1000000000] := by
    simp [Settings.Frequent, Settings.period, Settings.rate, second]
  obtain ⟨es, s, until_, hrun⟩ :=
    Polled.exists_of_console (Console.step_circling {} 0) rfl
      (Console.frame_circling 0 rfl) 700000000 [1000000000] _ hperiod
  obtain ⟨_, hmem, hinstructions, hframes, huntil, _⟩ :=
    Schedule.serves_timetable hrate hpolls rfl hrun
  rw [hinstructions, hframes] at huntil
  refine ⟨es, s, until_, hrun, hinstructions, hframes, huntil, ?_, ?_⟩
  · exact (hmem _).mpr ⟨⟨1, by decide, by decide⟩, by decide⟩
  · exact (hmem _).mpr ⟨⟨2, by decide, by decide⟩, by decide⟩

end Chip8
