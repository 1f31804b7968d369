import Chip8.Proofs.Gap
import Chip8.Proofs.Tickets
import Mathlib.Data.List.DropRight
import Mathlib.Data.List.Sort

/-!
# The keys that are held

A key is held if it went down after the last frame.  So which keys are held is
read off what happened to the keypad since then (`Keypad.sinceTick`), however
often a key went down meanwhile and whatever else was asked.

The keypad keeps a number for every key, held or not.  The keys that are held
can as well be kept alone, in a map that is ordered by key
(`Keypad.PressedKeys`): a press puts its key into the map, and a frame goes
through the map, takes one from each number and drops the keys that come to
zero.  Key by key that is the same (`getElem?_hears`), so the map lists exactly
the keys that are held, and in the same order.

## Main results

* `Keypad.framesLeft_hears` — for how long a key is held, in what happened since
  the last frame.
* `Keypad.heldButton_eq_some_iff` — the hex key that is found is the least.
* `Keypad.PressedKeys.keys_hears` — the map lists the keys that are held.
* `Keypad.held_since_tick` — all of this for every history.
-/

namespace Chip8

/-! ## The order of the keys -/

namespace Key

/-- The place of a key in their order: hex keys by their values, and then the
exit key. -/
def rank : Key → Nat
  | hex value => value.toNat
  | exit => UInt8.size

/-- The order of the keys. -/
def order : Key → Key → Ordering :=
  compareOn rank

/-- The value of a hex key. -/
def value? : Key → Option UInt8
  | hex value => some value
  | exit => none

theorem rank_inj {a b : Key} : a.rank = b.rank ↔ a = b := by
  constructor
  · intro h
    cases a with
    | hex value =>
        cases b with
        | hex other => exact congrArg hex (UInt8.toNat_inj.mp h)
        | exit => exact absurd h (Nat.ne_of_lt value.toNat_lt)
    | exit =>
        cases b with
        | hex other => exact absurd h.symm (Nat.ne_of_lt other.toNat_lt)
        | exit => rfl
  · exact congrArg rank

theorem order_eq_lt_iff {a b : Key} : order a b = .lt ↔ a.rank < b.rank :=
  Nat.compare_eq_lt

theorem order_eq_eq_iff {a b : Key} : order a b = .eq ↔ a = b :=
  Nat.compare_eq_eq.trans rank_inj

instance : Std.TransCmp order :=
  inferInstanceAs (Std.TransCmp (compareOn rank))

instance : Std.LawfulEqCmp order where
  eq_of_compare := order_eq_eq_iff.mp

instance : Std.Irrefl fun a b => order a b = .lt where
  irrefl a := by
    rw [order_eq_lt_iff]
    exact Nat.lt_irrefl a.rank

instance : Std.Antisymm fun a b => order a b = .lt where
  antisymm a b hab hba := by
    rw [order_eq_lt_iff] at hab hba
    omega

end Key

namespace Keypad

/-! ## What happens to a keypad -/

/-- Something that happens to a keypad. -/
inductive Event where
  /-- It is called. -/
  | call (c : Call)
  /-- The device fails. -/
  | fail (e : IoError)
  /-- Someone asks whether the device is well. -/
  | check
  deriving DecidableEq, Repr

/-- The keypad after something happened. -/
def hear (k : Keypad) : Event → Keypad
  | .call c => k.call c
  | .fail e => k.fail e
  | .check => k

/-- The keypad after one thing happened after the other. -/
def hears (k : Keypad) (history : List Event) : Keypad :=
  history.foldl hear k

/-- What happened since the last frame. -/
def sinceTick (history : List Event) : List Event :=
  history.rtakeWhile (· ≠ .call .tick)

/-- What becomes of the number of frames that a key is held for. -/
def Event.left (key : Key) (frames : Nat) : Event → Nat
  | .call (.press pressed) => if pressed = key then Key.pressFrames else frames
  | .call .tick => frames - 1
  | _ => frames

variable {history : List Event} {event : Event} {key : Key} {value : UInt8}

theorem hears_concat (k : Keypad) (history : List Event) (event : Event) :
    k.hears (history ++ [event]) = (k.hears history).hear event :=
  List.foldl_concat _ _ _ _

theorem sinceTick_concat_tick (history : List Event) :
    sinceTick (history ++ [.call .tick]) = [] := by
  simp [sinceTick]

theorem sinceTick_concat (h : event ≠ .call .tick) (history : List Event) :
    sinceTick (history ++ [event]) = sinceTick history ++ [event] := by
  simp [sinceTick, h]

theorem Event.left_of_ne (htick : event ≠ .call .tick)
    (hpress : event ≠ .call (.press key)) (frames : Nat) :
    event.left key frames = frames := by
  unfold left
  split
  · next pressed =>
      apply if_neg
      rintro rfl
      exact hpress rfl
  · exact absurd rfl htick
  · rfl

/-- What happens to one key. -/
theorem framesLeft_hear (k : Keypad) (event : Event) (key : Key) :
    (k.hear event).framesLeft key = event.left key (k.framesLeft key) := by
  cases event with
  | fail e => exact framesLeft_fail k e key
  | check => rfl
  | call c =>
      cases c with
      | subscribe => exact framesLeft_subscribe k key
      | tick => exact framesLeft_tick k key
      | giveUp t => exact framesLeft_giveUp k t key
      | receive t =>
          show (k.receive t).2.framesLeft key = k.framesLeft key
          rw [receive_snd, framesLeft_giveUp]
      | press pressed =>
          show (k.press pressed).framesLeft key = if pressed = key then _ else _
          split
          · next h => rw [h, framesLeft_press_self]
          · next h => exact framesLeft_press_of_ne k h

/-- On a new keypad no key is held. -/
theorem framesLeft_new (key : Key) : ({} : Keypad).framesLeft key = 0 := by
  cases key with
  | hex value => exact framesLeft_fresh value
  | exit => rfl

/-- A key is held if it went down since the last frame, and for the frames of
one press then. -/
theorem framesLeft_hears (history : List Event) (key : Key) :
    (({} : Keypad).hears history).framesLeft key =
      if .call (.press key) ∈ sinceTick history then Key.pressFrames
      else 0 := by
  induction history using List.reverseRecOn with
  | nil => exact framesLeft_new key
  | append_singleton history event ih =>
      rw [hears_concat, framesLeft_hear, ih]
      by_cases htick : event = .call .tick
      · -- A press is held for one frame, so this is its last.
        rw [htick, sinceTick_concat_tick, if_neg List.not_mem_nil]
        show (if _ then Key.pressFrames else 0) - 1 = 0
        split <;> rfl
      · simp only [sinceTick_concat htick, List.mem_append, List.mem_singleton]
        by_cases hpress : event = .call (.press key)
        · rw [hpress]
          simp [Event.left]
        · rw [Event.left_of_ne htick hpress]
          simp only [Ne.symm hpress, or_false]

/-! ## The least of the keys that are held -/

theorem mem_heldHex {k : Keypad} :
    value ∈ k.heldHex ↔ 0 < k.framesLeft (.hex value) := by
  simp only [heldHex, List.mem_map, List.mem_filter, List.mem_finRange,
    true_and, decide_eq_true_eq]
  constructor
  · rintro ⟨i, hi, rfl⟩
    exact hi
  · intro h
    exact ⟨value.toFin, h, rfl⟩

theorem mem_held {k : Keypad} : key ∈ k.held ↔ k.isHeld key = true := by
  rw [held, List.mem_append, isHeld, decide_eq_true_iff]
  cases key with
  | hex value =>
      rw [List.mem_map_of_injective fun _ _ => Key.hex.inj, mem_heldHex]
      split <;> simp
  | exit =>
      show _ ↔ 0 < k.exitFrames
      split <;> simp_all

/-- Hex keys are listed by their values. -/
theorem pairwise_heldHex (k : Keypad) : k.heldHex.Pairwise (· < ·) := by
  rw [heldHex, List.pairwise_map]
  exact ((List.sortedLT_finRange UInt8.size).pairwise.filter _).imp id

/-- The keys that are held are listed in their order. -/
theorem pairwise_held (k : Keypad) :
    k.held.Pairwise fun a b => Key.order a b = .lt := by
  simp only [Key.order_eq_lt_iff]
  rw [held, List.pairwise_append]
  refine ⟨?_, ?_, ?_⟩
  · rw [List.pairwise_map]
    exact k.pairwise_heldHex
  · split <;> simp
  · intro a ha b hb
    obtain ⟨value, _, rfl⟩ := List.mem_map.mp ha
    split at hb
    · rw [List.mem_singleton.mp hb]
      exact value.toNat_lt
    · cases hb

/-- The hex key that is found is the first that is listed. -/
theorem heldButton_eq_head? (k : Keypad) : k.heldButton = k.heldHex.head? := by
  rw [heldButton, heldHex, List.head?_map, List.head?_filter]

/-- The hex key that is found is the least that is held. -/
theorem heldButton_eq_some_iff {k : Keypad} :
    k.heldButton = some value ↔
      0 < k.framesLeft (.hex value) ∧
        ∀ other, 0 < k.framesLeft (.hex other) → value ≤ other := by
  simp only [← mem_heldHex]
  rw [heldButton_eq_head?]
  have hsorted := k.pairwise_heldHex
  cases hlist : k.heldHex with
  | nil => simp
  | cons first rest =>
      rw [hlist, List.pairwise_cons] at hsorted
      rw [List.head?_cons, Option.some.injEq]
      constructor
      · rintro rfl
        refine ⟨List.mem_cons_self, fun other hother => ?_⟩
        rcases List.mem_cons.mp hother with rfl | hrest
        · exact UInt8.le_refl _
        · exact UInt8.le_of_lt (hsorted.1 other hrest)
      · rintro ⟨hmem, hleast⟩
        rcases List.mem_cons.mp hmem with rfl | hrest
        · rfl
        · have hlt := hsorted.1 value hrest
          exact absurd hlt (UInt8.not_lt.mpr (hleast first List.mem_cons_self))

/-! ## The keys in a map -/

/-- The keys that are held, each with the number of frames that it is held for,
in the order of the keys. -/
abbrev PressedKeys := Std.TreeMap Key Nat Key.order

namespace PressedKeys

/-- A key went down. -/
def press (m : PressedKeys) (key : Key) : PressedKeys :=
  m.insert key Key.pressFrames

/-- A frame has passed.  Keys that are not held any longer are dropped. -/
def tick (m : PressedKeys) : PressedKeys :=
  m.filterMap fun _ frames => if 0 < frames - 1 then some (frames - 1) else none

/-- The first hex key. -/
def button (m : PressedKeys) : Option UInt8 :=
  m.keys.findSome? Key.value?

/-- The keys that are held after something happened. -/
def hear (m : PressedKeys) : Event → PressedKeys
  | .call (.press key) => m.press key
  | .call .tick => m.tick
  | _ => m

/-- The keys that are held after one thing happened after the other. -/
def hears (m : PressedKeys) (history : List Event) : PressedKeys :=
  history.foldl hear m

theorem hears_concat (m : PressedKeys) (history : List Event) (event : Event) :
    m.hears (history ++ [event]) = (m.hears history).hear event :=
  List.foldl_concat _ _ _ _

/-- What a map keeps for a key that is held for a number of frames. -/
def entry (frames : Nat) : Option Nat :=
  if 0 < frames then some frames else none

/-- A map keeps right what it kept right before. -/
theorem getElem?_hear {m : PressedKeys} {frames : Nat}
    (h : m[key]? = entry frames) (event : Event) :
    (m.hear event)[key]? = entry (event.left key frames) := by
  cases event with
  | fail e => exact h
  | check => exact h
  | call c =>
      cases c with
      | subscribe => exact h
      | giveUp t => exact h
      | receive t => exact h
      | press pressed =>
          show (m.insert pressed Key.pressFrames)[key]? =
            entry (if pressed = key then Key.pressFrames else frames)
          simp only [Std.TreeMap.getElem?_insert, Key.order_eq_eq_iff]
          split
          · rfl
          · exact h
      | tick =>
          show (m.filterMap _)[key]? = entry (frames - 1)
          rw [Std.TreeMap.getElem?_filterMap, Option.pbind_eq_bind, h]
          cases frames with
          | zero => rfl
          | succ n => rfl

/-- So it is kept right throughout. -/
theorem getElem?_hears (history : List Event) (key : Key) :
    ((∅ : PressedKeys).hears history)[key]? =
      entry ((({} : Keypad).hears history).framesLeft key) := by
  induction history using List.reverseRecOn with
  | nil =>
      rw [hears, Keypad.hears, List.foldl_nil, List.foldl_nil, framesLeft_new]
      exact Std.TreeMap.getElem?_emptyc
  | append_singleton history event ih =>
      rw [hears_concat, Keypad.hears_concat, getElem?_hear ih, framesLeft_hear]

theorem mem_hears : key ∈ (∅ : PressedKeys).hears history ↔
    (({} : Keypad).hears history).isHeld key = true := by
  rw [Std.TreeMap.mem_iff_isSome_getElem?, getElem?_hears, isHeld,
    decide_eq_true_iff, entry]
  split <;> simp_all

/-- The map lists the keys that are held. -/
theorem keys_hears (history : List Event) :
    ((∅ : PressedKeys).hears history).keys =
      (({} : Keypad).hears history).held := by
  apply List.Pairwise.eq_of_mem_iff Std.TreeMap.ordered_keys (pairwise_held _)
  intro key
  rw [Std.TreeMap.mem_keys, mem_hears, mem_held]

/-- The first hex key of the map is the one that is found. -/
theorem button_hears (history : List Event) :
    ((∅ : PressedKeys).hears history).button =
      (({} : Keypad).hears history).heldButton := by
  rw [button, keys_hears, heldButton_eq_head?, held, List.findSome?_append,
    List.findSome?_map]
  cases (({} : Keypad).hears history).heldHex with
  | nil =>
      rw [List.findSome?_nil, Option.none_or, List.head?_nil]
      split <;> rfl
  | cons first rest => rfl

end PressedKeys

/-! ## Every history -/

/-- A key that has all frames of a press left can go down again. -/
theorem framesLeft_foldl_press {k : Keypad} {keys : List Key}
    (h : ∀ pressed ∈ keys, k.framesLeft pressed = Key.pressFrames) (key : Key) :
    (keys.foldl press k).framesLeft key = k.framesLeft key := by
  induction keys generalizing k with
  | nil => rfl
  | cons first rest ih =>
      have hfirst (other : Key) :
          (k.press first).framesLeft other = k.framesLeft other := by
        by_cases heq : first = other
        · rw [← heq, framesLeft_press_self, h first List.mem_cons_self]
        · exact framesLeft_press_of_ne k heq
      rw [List.foldl_cons, ih, hfirst]
      intro pressed hpressed
      rw [hfirst]
      exact h pressed (List.mem_cons_of_mem first hpressed)

/-- Which keys are listed as held is told by the frames that are left. -/
theorem held_congr {k k' : Keypad}
    (h : ∀ key, k.framesLeft key = k'.framesLeft key) : k.held = k'.held := by
  apply List.Pairwise.eq_of_mem_iff k.pairwise_held k'.pairwise_held
  intro key
  rw [mem_held, mem_held, isHeld, isHeld, h]

theorem isHeld_hears : (({} : Keypad).hears history).isHeld key = true ↔
    .call (.press key) ∈ sinceTick history := by
  rw [isHeld, decide_eq_true_iff, framesLeft_hears]
  split <;> simp_all [Key.pressFrames]

/-- **Held keys.**  Whatever happened to a new keypad:

* a key is held if it went down since the last frame;
* the hex key that is found is the least of those, and none is found if no hex
  key went down since then;
* keys that are held can go down again, any number of them in any order, and
  that changes nothing about what is held;
* a map that keeps the held keys alone lists the same keys in the same order
  and finds the same hex key, and the numbers in it are those of the keypad and
  lie between one and the frames of a press. -/
theorem held_since_tick (history : List Event) :
    let k := ({} : Keypad).hears history
    let m := (∅ : PressedKeys).hears history
    (∀ key, k.isHeld key = true ↔ .call (.press key) ∈ sinceTick history) ∧
    (∀ value, k.heldButton = some value ↔
      .call (.press (.hex value)) ∈ sinceTick history ∧
        ∀ other, .call (.press (.hex other)) ∈ sinceTick history →
          value ≤ other) ∧
    (k.heldButton = none ↔
      ∀ value, .call (.press (.hex value)) ∉ sinceTick history) ∧
    (∀ keys : List Key, (∀ key ∈ keys, k.isHeld key = true) →
      (keys.foldl press k).held = k.held ∧
        ∀ key, (keys.foldl press k).framesLeft key = k.framesLeft key) ∧
    m.keys = k.held ∧ m.button = k.heldButton ∧
    (∀ key, m.contains key = k.isHeld key) ∧
    ∀ key frames, m[key]? = some frames →
      1 ≤ frames ∧ frames ≤ Key.pressFrames ∧ k.framesLeft key = frames := by
  intro k m
  have hheld {key : Key} :
      0 < k.framesLeft key ↔ .call (.press key) ∈ sinceTick history := by
    rw [← isHeld_hears, isHeld, decide_eq_true_iff]
  refine ⟨fun key => isHeld_hears, ?_, ?_, ?_, ?_, ?_, ?_, ?_⟩
  · intro value
    rw [heldButton_eq_some_iff]
    simp only [hheld]
  · rw [heldButton_eq_none_iff]
    simp only [← hheld, Nat.not_lt, Nat.le_zero]
  · intro keys hkeys
    have hfull : ∀ key ∈ keys, k.framesLeft key = Key.pressFrames := by
      intro key hkey
      have hpressed := isHeld_hears.mp (hkeys key hkey)
      rw [framesLeft_hears, if_pos hpressed]
    have hsame := framesLeft_foldl_press hfull
    exact ⟨held_congr hsame, hsame⟩
  · exact PressedKeys.keys_hears history
  · exact PressedKeys.button_hears history
  · intro key
    rw [Bool.eq_iff_iff, ← PressedKeys.mem_hears, Std.TreeMap.mem_iff_contains]
  · intro key frames hframes
    rw [PressedKeys.getElem?_hears, PressedKeys.entry] at hframes
    split at hframes
    · next hpos =>
        have hleft := Option.some.inj hframes
        have hfull : k.framesLeft key = Key.pressFrames := by
          rw [framesLeft_hears, if_pos (hheld.mp hpos)]
        exact ⟨hleft ▸ hpos, Nat.le_of_eq (hleft.symm.trans hfull), hleft⟩
    · cases hframes

/-- A frame passes after the first of these presses.  Then a key goes down that
no keypad has, and is the only one of the hex keys until others do. -/
def severalPresses : List Event :=
  [.call (.press (.hex 0x2)), .call .tick, .call (.press .exit),
    .call (.press (.hex 0x1f)), .call .subscribe, .call (.press (.hex 0xb)),
    .fail ⟨.other, "unplugged"⟩, .check,
    .call (.press (.hex 0xb))]

/-- The first key is forgotten, the last is the least, and it can go down
again. -/
theorem held_since_tick_several :
    let k := ({} : Keypad).hears severalPresses
    k.isHeld (.hex 0x2) = false ∧ k.isHeld (.hex 0x1f) = true ∧
      k.isHeld .exit = true ∧ k.heldButton = some 0xb ∧
      ((k.press (.hex 0xb)).press (.hex 0x1f)).held = k.held := by
  intro k
  obtain ⟨hheld, hbutton, -, hagain, -⟩ := held_since_tick severalPresses
  have hrecent : sinceTick severalPresses =
      [.call (.press .exit), .call (.press (.hex 0x1f)), .call .subscribe,
        .call (.press (.hex 0xb)), .fail ⟨.other, "unplugged"⟩, .check,
        .call (.press (.hex 0xb))] := by decide
  have hlong : k.isHeld (.hex 0x1f) = true := (hheld _).mpr (by decide)
  have hleast : k.heldButton = some 0xb := by
    refine (hbutton 0xb).mpr ⟨by decide, ?_⟩
    intro other hother
    rw [hrecent] at hother
    obtain rfl | rfl : other = 0x1f ∨ other = 0xb := by simpa using hother
    · decide
    · decide
  refine ⟨?_, hlong, (hheld _).mpr (by decide), hleast, ?_⟩
  · exact Bool.eq_false_iff.mpr fun h =>
      absurd ((hheld _).mp h) (by decide)
  · apply And.left (hagain [.hex 0xb, .hex 0x1f] ?_)
    intro key hkey
    obtain rfl | rfl : key = .hex 0xb ∨ key = .hex 0x1f := by simpa using hkey
    · exact (hheld _).mpr (by decide)
    · exact hlong

end Keypad
end Chip8
