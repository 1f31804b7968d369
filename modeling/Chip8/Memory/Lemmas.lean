import Chip8.Memory.Image

/-!
# The contents of memory

What a byte is after an operation, and which accesses are in range.

## Main results

* `getElem_store` — a byte that is stored over holds what was stored, and every
  other byte holds what it held.
* `read_eq_ok_iff`, `write_eq_ok_iff` — whether an access is in range depends
  on its address and its length alone.
* `word_of_read` — instructions are fetched from the bytes that are read.
-/

namespace Chip8

namespace Memory

/-! ## Storing -/

/-- A byte that is stored over holds what was stored, every other byte what it
held. -/
theorem getElem_store {n : Nat} (cells : Vector UInt8 n) (start : Nat)
    (data : List UInt8) (j : Nat) (hj : j < n) :
    (store cells start data)[j] =
      if start ≤ j then data.getD (j - start) cells[j] else cells[j] := by
  induction data generalizing cells start with
  | nil => simp [store]
  | cons b rest ih =>
    rw [store, ih]
    rcases Nat.lt_trichotomy start j with h | h | h
    · have hs : j - start = j - (start + 1) + 1 := by omega
      simp [Nat.le_of_lt h, Nat.succ_le_of_lt h, Nat.ne_of_lt h, hs]
    · subst h
      rw [if_neg (Nat.not_succ_le_self start), if_pos (Nat.le_refl start)]
      simp
    · have h1 : ¬ start + 1 ≤ j := by omega
      have h2 : ¬ start ≤ j := by omega
      simp [h1, h2, Nat.ne_of_gt h]

/-- Bytes behind what is stored are kept. -/
theorem getElem_store_of_ge {n : Nat} (cells : Vector UInt8 n) {start : Nat}
    (data : List UInt8) {j : Nat} (hj : j < n)
    (h : start + data.length ≤ j) :
    (store cells start data)[j] = cells[j] := by
  have hd : data[j - start]? = none :=
    List.getElem?_eq_none (by omega)
  rw [getElem_store, if_pos (by omega), List.getD_eq_getElem?_getD, hd,
    Option.getD_none]

/-! ## Accesses in range -/

/-- A read succeeds exactly if it lies within memory. -/
theorem read_eq_ok_iff {m : Memory} {address : UInt16} {length : Nat} :
    (∃ data, m.read address length = .ok data) ↔
      address.toNat + length ≤ size := by
  unfold read
  split <;> simp_all

/-- A read beyond memory is refused with what was asked for. -/
theorem read_eq_error {m : Memory} {address : UInt16} {length : Nat}
    (h : size < address.toNat + length) :
    m.read address length = .error ⟨address, length⟩ := by
  unfold read
  rw [dif_neg (Nat.not_le_of_lt h)]

/-- A read delivers as many bytes as were asked for. -/
theorem length_of_read {m : Memory} {address : UInt16} {length : Nat}
    {data : List UInt8} (h : m.read address length = .ok data) :
    data.length = length := by
  unfold read at h
  split at h
  · cases h
    simp
  · cases h

/-- A write succeeds exactly if it lies within memory. -/
theorem write_eq_ok_iff {m : Memory} {address : UInt16} {data : List UInt8} :
    (∃ after, m.write address data = .ok after) ↔
      address.toNat + data.length ≤ size := by
  unfold write
  split <;> simp_all

/-- A write beyond memory is refused with what was asked for. -/
theorem write_eq_error {m : Memory} {address : UInt16} {data : List UInt8}
    (h : size < address.toNat + data.length) :
    m.write address data = .error ⟨address, data.length⟩ := by
  unfold write
  rw [if_neg (Nat.not_le_of_lt h)]

/-- A write stores its bytes. -/
theorem bytes_of_write {m after : Memory} {address : UInt16}
    {data : List UInt8} (h : m.write address data = .ok after) :
    after.bytes = store m.bytes address.toNat data := by
  unfold write at h
  split at h
  · cases h
    rfl
  · cases h

/-- A write leaves the program as long as it was. -/
theorem programLength_of_write {m after : Memory} {address : UInt16}
    {data : List UInt8} (h : m.write address data = .ok after) :
    after.programLength = m.programLength := by
  unfold write at h
  split at h
  · cases h
    rfl
  · cases h

/-- A write that is refused would not have lain within memory. -/
theorem of_write_eq_error {m : Memory} {address : UInt16} {data : List UInt8}
    {e : OutOfRange} (h : m.write address data = .error e) :
    size < address.toNat + data.length ∧ e = ⟨address, data.length⟩ := by
  unfold write at h
  split at h
  · cases h
  · next hroom =>
    cases h
    exact ⟨Nat.lt_of_not_le hroom, rfl⟩

/-- A word that is fetched lies within memory. -/
theorem le_of_word_eq_ok {m : Memory} {address opcode : UInt16}
    (h : m.word address = .ok opcode) : address.toNat + 2 ≤ size := by
  unfold word at h
  split at h
  · assumption
  · cases h

/-- A word that is refused does not lie within memory. -/
theorem of_word_eq_error {m : Memory} {address : UInt16} {e : OutOfRange}
    (h : m.word address = .error e) :
    size < address.toNat + 2 ∧ e = ⟨address, 2⟩ := by
  unfold word at h
  split at h
  · cases h
  · next hroom =>
    cases h
    exact ⟨Nat.lt_of_not_le hroom, rfl⟩

/-- The word at an address is made of the two bytes from there on. -/
theorem word_of_read {m : Memory} {address : UInt16} {high low : UInt8}
    (h : m.read address 2 = .ok [high, low]) :
    m.word address = .ok (Word.ofBytes high low) := by
  unfold read at h
  split at h
  · next hr =>
    simp only [Except.ok.injEq, List.ofFn_succ, List.ofFn_zero] at h
    injection h with hhigh hrest
    injection hrest with hlow _
    unfold word
    rw [dif_pos hr, ← hhigh, ← hlow]
    rfl
  · cases h

end Memory

end Chip8
