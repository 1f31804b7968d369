import Chip8.Memory.Lemmas

/-!
# Memory without promises

The type of `Memory` promises that there are 4096 bytes and that the program
lies within them, so no access to it can go astray.  `LooseMemory` promises
neither.  Its bytes are as many as they are, the length of the program is any
number, and every access first looks whether there is such a slice.  Where that
is an error, the access is refused and memory is left as it was; where nobody
looks out for an error, the access breaks down and there is no answer.

The two agree, so what the type promises is what the operations keep up by
themselves.

## Main results

* `Memory.toList_store` — storing overwrites a slice, and leaves what is in
  front of it and behind it.
* `LooseMemory.fresh?_eq`, `Memory.loose_load`, `Memory.loose_read`,
  `Memory.loose_write`, `Memory.loose_fill` — each operation on loose memory
  does what it does otherwise, and does not break down.
* `Memory.loose_program?` — nor does looking at the program.
-/

namespace Chip8

/-! ## Slices -/

namespace Slice

variable {α : Type}

/-- A slice, if there is one of that length. -/
def get? (cells : List α) (start length : Nat) : Option (List α) :=
  if start + length ≤ cells.length then some ((cells.drop start).take length)
  else none

/-- The cells with a slice overwritten, if there is one of that length. -/
def put? (cells : List α) (start : Nat) (data : List α) : Option (List α) :=
  if start + data.length ≤ cells.length then
    some (cells.take start ++ data ++ cells.drop (start + data.length))
  else none

/-- What lies in front of a slice and behind it stays there. -/
theorem put?_append {before old behind data : List α} {start : Nat}
    (hstart : start = before.length) (hlength : old.length = data.length) :
    put? (before ++ old ++ behind) start data =
      some (before ++ data ++ behind) := by
  have hfits : start + data.length ≤ (before ++ old ++ behind).length := by
    rw [List.length_append, List.length_append]
    omega
  have hfront : (before ++ old).length = start + data.length := by
    rw [List.length_append]
    omega
  have htake : (before ++ old ++ behind).take start = before := by
    rw [List.append_assoc, List.take_left' hstart.symm]
  rw [put?, if_pos hfits, htake, List.drop_left' hfront]

end Slice

/-- Memory of which nothing is promised: neither how many bytes there are, nor
that the program lies within them. -/
structure LooseMemory where
  /-- The contents. -/
  bytes : List UInt8
  /-- The length of the program. -/
  programLength : Nat
  deriving DecidableEq, Repr

namespace LooseMemory

/-- Memory before any program is loaded. -/
def fresh? : Option LooseMemory :=
  (Slice.put? (List.replicate Memory.size 0) Font.start.toNat Font.glyphs).map
    (⟨·, 0⟩)

/-- Reads a program image and puts it into memory.  That the room for programs
lies within memory is taken for granted. -/
def load (m : LooseMemory) (image : List Chunk) :
    Option (Except LoadError Unit × LooseMemory) :=
  match Chunk.readAll image with
  | .error e => some (.error (.io e), m)
  | .ok program =>
    if Memory.size - Memory.programStart.toNat < program.length then
      some (.error (.tooLarge program.length), m)
    else
      (Slice.put? m.bytes Memory.programStart.toNat program).map fun bytes =>
        (.ok (), ⟨bytes, program.length⟩)

/-- Reads bytes from an address on. -/
def read (m : LooseMemory) (address : UInt16) (length : Nat) :
    Except OutOfRange (List UInt8) :=
  match Slice.get? m.bytes address.toNat length with
  | some data => .ok data
  | none => .error ⟨address, length⟩

/-- Writes bytes from an address on. -/
def write (m : LooseMemory) (address : UInt16) (data : List UInt8) :
    Except OutOfRange Unit × LooseMemory :=
  match Slice.put? m.bytes address.toNat data with
  | some bytes => (.ok (), { m with bytes })
  | none => (.error ⟨address, data.length⟩, m)

/-- Sets bytes from an address on to one value. -/
def fill (m : LooseMemory) (address : UInt16) (length : Nat) (value : UInt8) :
    Except OutOfRange Unit × LooseMemory :=
  match Slice.put? m.bytes address.toNat (List.replicate length value) with
  | some bytes => (.ok (), { m with bytes })
  | none => (.error ⟨address, length⟩, m)

/-- The program that was loaded last.  That it lies within memory is taken for
granted. -/
def program? (m : LooseMemory) : Option (List UInt8) :=
  Slice.get? m.bytes Memory.programStart.toNat m.programLength

end LooseMemory

/-! ## Storing overwrites a slice -/

namespace Memory

/-- Storing overwrites a slice, and leaves what is in front of it and behind
it. -/
theorem toList_store {n : Nat} (cells : Vector UInt8 n) {start : Nat}
    {data : List UInt8} (h : start + data.length ≤ n) :
    (store cells start data).toList =
      cells.toList.take start ++ data ++
        cells.toList.drop (start + data.length) := by
  have hcells : cells.toList.length = n := Vector.length_toList
  have hfront : (cells.toList.take start).length = start := by
    rw [List.length_take]
    omega
  have hleft : (cells.toList.take start ++ data).length =
      start + data.length := by
    rw [List.length_append, hfront]
  apply List.ext_getElem
  · rw [List.length_append, hleft, List.length_drop, Vector.length_toList]
    omega
  intro j hj _
  rw [Vector.length_toList] at hj
  rw [Vector.getElem_toList, getElem_store]
  by_cases hlow : j < start
  · rw [if_neg (by omega), List.getElem_append_left (by omega),
      List.getElem_append_left (by omega), List.getElem_take,
      Vector.getElem_toList]
  rw [if_pos (by omega), List.getD_eq_getElem?_getD]
  by_cases hhigh : j < start + data.length
  · have hdata : j - start < data.length := by omega
    rw [List.getElem_append_left (by omega),
      List.getElem_append_right (by omega), List.getElem?_eq_getElem hdata,
      Option.getD_some]
    simp only [hfront]
  · rw [List.getElem?_eq_none (by omega), Option.getD_none,
      List.getElem_append_right (by omega), List.getElem_drop,
      Vector.getElem_toList]
    congr 1
    omega

/-- Where there is a slice, it is overwritten by storing. -/
theorem put?_toList {n : Nat} (cells : Vector UInt8 n) {start : Nat}
    {data : List UInt8} (h : start + data.length ≤ n) :
    Slice.put? cells.toList start data =
      some (store cells start data).toList := by
  rw [Slice.put?, if_pos (by rwa [Vector.length_toList]), toList_store cells h]

theorem put?_toList_eq_none {n : Nat} (cells : Vector UInt8 n) {start : Nat}
    {data : List UInt8} (h : ¬ start + data.length ≤ n) :
    Slice.put? cells.toList start data = none := by
  rw [Slice.put?, if_neg (by rwa [Vector.length_toList])]

/-! ## The two memories agree -/

/-- The bytes from an address on, where they are. -/
theorem ofFn_eq_take_drop {n : Nat} (cells : Vector UInt8 n)
    {start length : Nat} (h : start + length ≤ n) :
    (List.ofFn fun i : Fin length => cells[start + i.val]) =
      (cells.toList.drop start).take length := by
  apply List.ext_getElem
  · rw [List.length_ofFn, List.length_take, List.length_drop,
      Vector.length_toList]
    omega
  · intro j _ _
    simp

/-- A program lies within memory. -/
theorem programStart_add_le (m : Memory) :
    programStart.toNat + m.programLength ≤ size := by
  have hlength := m.programLength_le
  have hroom := programStart_add_programRoom
  omega

/-- The program is a slice of memory. -/
theorem program_eq (m : Memory) :
    m.program =
      (m.bytes.toList.drop programStart.toNat).take m.programLength :=
  ofFn_eq_take_drop m.bytes m.programStart_add_le

/-- A memory, without its promises. -/
def loose (m : Memory) : LooseMemory where
  bytes := m.bytes.toList
  programLength := m.programLength

/-- Loading an image does to loose memory what it does otherwise. -/
theorem loose_load (m : Memory) (image : List Chunk) :
    m.loose.load image =
      some (match m.load image with
        | .ok after => (.ok (), after.loose)
        | .error e => (.error e, m.loose)) := by
  unfold LooseMemory.load load
  cases Chunk.readAll image with
  | error e => rfl
  | ok program =>
      have hroom : size - programStart.toNat = programRoom := by
        rw [← programStart_add_programRoom, Nat.add_sub_cancel_left]
      simp only [hroom, loadBytes]
      by_cases h : program.length ≤ programRoom
      · have hfits : programStart.toNat + program.length ≤ size := by
          have hsize := programStart_add_programRoom
          omega
        rw [if_neg (Nat.not_lt_of_le h), dif_pos h]
        simp only [loose, put?_toList m.bytes hfits, Option.map_some]
      · rw [if_pos (Nat.lt_of_not_le h), dif_neg h]

/-- Reading delivers a slice, or is refused where there is none. -/
theorem loose_read (m : Memory) (address : UInt16) (length : Nat) :
    m.loose.read address length = m.read address length := by
  have hsize : m.loose.bytes.length = size := Vector.length_toList
  unfold LooseMemory.read Slice.get? read
  rw [hsize]
  by_cases h : address.toNat + length ≤ size
  · rw [if_pos h, dif_pos h]
    exact congrArg Except.ok (ofFn_eq_take_drop m.bytes h).symm
  · rw [if_neg h, dif_neg h]

theorem loose_write (m : Memory) (address : UInt16) (data : List UInt8) :
    m.loose.write address data =
      match m.write address data with
      | .ok after => (.ok (), after.loose)
      | .error e => (.error e, m.loose) := by
  unfold LooseMemory.write write
  by_cases h : address.toNat + data.length ≤ size
  · rw [if_pos h]
    simp only [loose, put?_toList m.bytes h]
  · rw [if_neg h]
    simp only [loose, put?_toList_eq_none m.bytes h]

theorem loose_fill (m : Memory) (address : UInt16) (length : Nat)
    (value : UInt8) :
    m.loose.fill address length value =
      match m.fill address length value with
      | .ok after => (.ok (), after.loose)
      | .error e => (.error e, m.loose) := by
  have hlength : (List.replicate length value).length = length :=
    List.length_replicate
  unfold LooseMemory.fill fill
  by_cases h : address.toNat + length ≤ size
  · rw [if_pos h]
    simp only [loose, put?_toList m.bytes (hlength.symm ▸ h)]
  · rw [if_neg h]
    simp only [loose, put?_toList_eq_none m.bytes (hlength.symm ▸ h)]

/-- The program of a loose memory can be looked at. -/
theorem loose_program? (m : Memory) : m.loose.program? = some m.program := by
  rw [program_eq, LooseMemory.program?, Slice.get?]
  exact if_pos (by
    show _ ≤ m.bytes.toList.length
    rw [Vector.length_toList]
    exact m.programStart_add_le)

end Memory

/-- The font finds its place. -/
theorem LooseMemory.fresh?_eq : fresh? = some Memory.fresh.loose := by
  have hfits : Font.start.toNat + Font.glyphs.length ≤ Memory.size := by
    decide
  rw [fresh?, ← Vector.toList_replicate, Memory.put?_toList _ hfits]
  rfl

end Chip8
