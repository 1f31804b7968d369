import Chip8.Hex
import Mathlib.Algebra.GroupWithZero.Nat

/-!
# Reading hexadecimal numerals

Numbers are shown with `Hex.digits`, which pads them to a width.  They are read
back here without it, one digit after the other (`Hex.number?`).  So a column of
a text can be said to show a number by what is read there (`Hex.Numeral`), and
what was written there does not matter.

## Main results

* `Hex.number?_digits` — numbers are read back, whatever they were padded to.
* `Hex.length_digits_of_lt` — a number that the width has room for takes as many
  digits as that.
* `Hex.numeral_digits` — both, for a number that the width has room for.
* `Hex.notMem_digits` — nothing but digits stands in a number.
-/

namespace Chip8.Hex

/-! ## Digits -/

/-- What a hexadecimal digit stands for.  Letters are in lower case. -/
def digitValue? (c : Char) : Option Nat :=
  if '0' ≤ c ∧ c ≤ '9' then some (c.toNat - '0'.toNat)
  else if 'a' ≤ c ∧ c ≤ 'f' then some (c.toNat - 'a'.toNat + 10)
  else none

/-- The number that some digits stand for, the most significant first. -/
def number? (text : List Char) : Option Nat :=
  text.foldlM (fun n c => (digitValue? c).map (16 * n + ·)) 0

theorem digitValue?_digitChar {d : Nat} (hd : d < 16) :
    digitValue? (Nat.digitChar d) = some d := by
  revert d
  decide

/-- Every character of a number is a digit. -/
theorem exists_of_mem_digits {width n : Nat} {c : Char}
    (h : c ∈ digits width n) : ∃ d < 16, c = Nat.digitChar d := by
  fun_induction digits width n with
  | case1 width n hn =>
      rcases List.mem_append.mp h with hzero | hlast
      · exact ⟨0, by decide, List.eq_of_mem_replicate hzero⟩
      · exact ⟨n, hn, List.mem_singleton.mp hlast⟩
  | case2 width n hn ih =>
      rcases List.mem_append.mp h with hfront | hlast
      · exact ih hfront
      · exact ⟨n % 16, Nat.mod_lt _ (by decide), List.mem_singleton.mp hlast⟩

/-- What is no digit is in no number. -/
theorem notMem_digits {c : Char} (hc : digitValue? c = none) (width n : Nat) :
    c ∉ digits width n := by
  intro h
  obtain ⟨d, hd, rfl⟩ := exists_of_mem_digits h
  rw [digitValue?_digitChar hd] at hc
  cases hc

/-! ## Numbers -/

/-- A digit behind a number counts once, and the number sixteen times. -/
theorem number?_concat {front : List Char} {n d : Nat}
    (hfront : number? front = some n) (hd : d < 16) :
    number? (front ++ [Nat.digitChar d]) = some (16 * n + d) := by
  unfold number? at hfront ⊢
  rw [List.foldlM_append, hfront]
  simp [digitValue?_digitChar hd]

theorem number?_zeros (width : Nat) :
    number? (List.replicate width '0') = some 0 := by
  induction width with
  | zero => rfl
  | succ width ih =>
      rw [List.replicate_succ']
      exact number?_concat (d := 0) ih (by decide)

/-- A number is read back, whatever it was padded to. -/
theorem number?_digits (width n : Nat) : number? (digits width n) = some n := by
  fun_induction digits width n with
  | case1 width n hn =>
      rw [number?_concat (number?_zeros _) hn]
      simp
  | case2 width n hn ih =>
      rw [number?_concat ih (Nat.mod_lt n (by decide)), Nat.div_add_mod]

/-- What is no digit starts no number. -/
theorem number?_cons_eq_none {c : Char} (hc : digitValue? c = none)
    (text : List Char) : number? (c :: text) = none := by
  simp [number?, hc]

/-! ## Widths -/

/-- No number is narrower than it was asked to be. -/
theorem le_length_digits (width n : Nat) : width ≤ (digits width n).length := by
  fun_induction digits width n with
  | case1 width n hn =>
      rw [List.length_append, List.length_replicate, List.length_singleton]
      omega
  | case2 width n hn ih =>
      rw [List.length_append, List.length_singleton]
      omega

/-- A number that the width has room for is not wider either. -/
theorem length_digits_of_lt {width n : Nat} (hwidth : 0 < width)
    (h : n < 16 ^ width) : (digits width n).length = width := by
  fun_induction digits width n with
  | case1 width n hn =>
      rw [List.length_append, List.length_replicate, List.length_singleton]
      omega
  | case2 width n hn ih =>
      obtain ⟨rest, rfl⟩ := Nat.exists_eq_add_of_lt hwidth
      have hrest : 0 < rest := by
        rcases Nat.eq_zero_or_pos rest with rfl | hpos
        · simp at h
          omega
        · exact hpos
      rw [Nat.zero_add, Nat.pow_succ] at h
      have hlength := ih (by omega) (by
        rw [Nat.zero_add, Nat.add_sub_cancel]
        omega)
      rw [List.length_append, List.length_singleton, hlength]
      omega

/-- A text stands for a number, in so many digits. -/
structure Numeral (width n : Nat) (text : List Char) : Prop where
  length : text.length = width
  number : number? text = some n

theorem numeral_digits {width n : Nat} (hwidth : 0 < width)
    (h : n < 16 ^ width) : Numeral width n (digits width n) where
  length := length_digits_of_lt hwidth h
  number := number?_digits width n

/-- Two digits have room for every byte. -/
theorem numeral_byte (b : UInt8) : Numeral 2 b.toNat (digits 2 b.toNat) :=
  numeral_digits (by decide) b.toNat_lt

end Chip8.Hex
