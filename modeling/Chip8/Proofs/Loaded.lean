import Chip8.Memory.Lemmas

/-!
# Memory with a program in it

The memory that a run starts with, and the words that are fetched from it.
-/

namespace Chip8.Memory

/-- Memory with the font and a program. -/
def loaded (program : List UInt8) (h : program.length ≤ programRoom) :
    Memory where
  bytes := store fresh.bytes programStart.toNat program
  programLength := program.length
  programLength_le := h

/-- A program that is not too long is loaded. -/
theorem loadBytes_fresh {program : List UInt8}
    (h : program.length ≤ programRoom) :
    fresh.loadBytes program = .ok (loaded program h) :=
  dif_pos h

/-- The bytes of a program are read back. -/
theorem getElem_loaded {program : List UInt8}
    (h : program.length ≤ programRoom) {j : Nat} (hj : j < program.length)
    (hin : programStart.toNat + j < size) :
    (loaded program h).bytes[programStart.toNat + j] = program[j] := by
  show (store fresh.bytes programStart.toNat program)[_] = _
  rw [getElem_store, if_pos (Nat.le_add_right _ _), Nat.add_sub_cancel_left]
  simp [List.getD_eq_getElem?_getD, hj]

/-- The words of a program are fetched from its bytes. -/
theorem word_loaded {program : List UInt8}
    (h : program.length ≤ programRoom) {j : Nat}
    (hj : j + 1 < program.length) {address : UInt16}
    (haddress : address.toNat = programStart.toNat + j) :
    (loaded program h).word address =
      .ok (Word.ofBytes program[j] program[j + 1]) := by
  have hroom := programStart_add_programRoom
  have hin : address.toNat + 2 ≤ size := by omega
  unfold word
  rw [dif_pos hin]
  simp only [haddress, Nat.add_assoc]
  rw [getElem_loaded h (by omega) (by omega), getElem_loaded h hj (by omega)]

end Chip8.Memory
