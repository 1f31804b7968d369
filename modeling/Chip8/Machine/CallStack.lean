/-!
# The call stack

The stack holds the addresses of the calls that are open, at most sixteen.
The newest comes first.
-/

namespace Chip8

/-- How many calls can be open at once. -/
def maxDepth : Nat := 16

/-- The calls that are open. -/
structure CallStack where
  /-- The addresses of the call instructions, the newest first. -/
  callers : List UInt16
  /-- There is room for them. -/
  depth_le : callers.length ≤ maxDepth
  deriving DecidableEq, Repr

namespace CallStack

/-- No open calls. -/
def empty : CallStack where
  callers := []
  depth_le := Nat.zero_le _

/-- How many calls are open. -/
def depth (s : CallStack) : Nat :=
  s.callers.length

/-- Opens a call, unless the stack is full. -/
def push? (s : CallStack) (caller : UInt16) : Option CallStack :=
  if h : s.callers.length < maxDepth then
    some { callers := caller :: s.callers, depth_le := h }
  else none

/-- Closes the newest call, unless none is open. -/
def pop? (s : CallStack) : Option (UInt16 × CallStack) :=
  match s with
  | ⟨[], _⟩ => none
  | ⟨caller :: rest, h⟩ =>
    some (caller, { callers := rest, depth_le := Nat.le_of_succ_le h })

/-! ## What calls and returns do to the depth -/

/-- No more calls are open than there is room for. -/
theorem depth_le_maxDepth (s : CallStack) : s.depth ≤ maxDepth :=
  s.depth_le

/-- A call fails exactly on a full stack. -/
theorem push?_eq_none_iff {s : CallStack} {caller : UInt16} :
    s.push? caller = none ↔ s.depth = maxDepth := by
  have hs := s.depth_le
  unfold push? depth
  split <;> simp <;> omega

/-- A call puts its address in front. -/
theorem callers_of_push? {s t : CallStack} {caller : UInt16}
    (h : s.push? caller = some t) : t.callers = caller :: s.callers := by
  unfold push? at h
  split at h
  · cases h
    rfl
  · cases h

/-- A return fails exactly on an empty stack. -/
theorem pop?_eq_none_iff {s : CallStack} : s.pop? = none ↔ s.depth = 0 := by
  obtain ⟨callers, hs⟩ := s
  cases callers <;> simp [pop?, depth]

/-- A return takes the newest address away. -/
theorem callers_of_pop? {s t : CallStack} {caller : UInt16}
    (h : s.pop? = some (caller, t)) : s.callers = caller :: t.callers := by
  obtain ⟨callers, hs⟩ := s
  cases callers with
  | nil => cases h
  | cons newest rest =>
    cases h
    rfl

/-- A return closes the call that was opened last. -/
theorem pop?_of_push? {s t : CallStack} {caller : UInt16}
    (h : s.push? caller = some t) : t.pop? = some (caller, s) := by
  have ht := callers_of_push? h
  obtain ⟨callers, hc⟩ := t
  subst ht
  rfl

end CallStack

end Chip8
