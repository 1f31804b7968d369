import Chip8.Proofs.LooseMemory

/-!
# Loading a program

What a reader delivers is told by its chunks alone: it comes to an end at the
first empty chunk, it fails with the first failure in front of that which is no
interruption, and it delivers all bytes in front of the end.  An image is put
into memory if it was read to the end and is not too long; otherwise memory is
as it was.

Memory is edited by loading programs, by writing and by filling.  Whatever was
done, the program is what lies at its start now, as far as the image reached
that was loaded last.

## Main results

* `Chunk.readAll_eq` — what reading an image gives.
* `Memory.load_of_failure`, `Memory.load_of_tooLarge`, `Memory.load_of_fits` —
  what loading one does.
* `Memory.edits?_loose`, `Memory.programLength_edits` — what rows of edits do
  to memory without promises, and to the length of the program.
* `Memory.load_all_or_nothing` — the three together.
-/

namespace Chip8

/-! ## Readers -/

namespace Chunk

/-- The chunks in front of the end. -/
def beforeEnd (image : List Chunk) : List Chunk :=
  image.takeWhile (· ≠ .data [])

/-- The bytes of a chunk. -/
def bytes : Chunk → List UInt8
  | data bs => bs
  | failure _ => []

/-- The failure that a chunk is, unless the read is tried again. -/
def final? : Chunk → Option IoError
  | data _ => none
  | failure e => if e.isInterrupted then none else some e

/-- How a reader fails, if it does so before it comes to its end. -/
def failure? (image : List Chunk) : Option IoError :=
  (beforeEnd image).findSome? final?

/-- All bytes in front of the end. -/
def delivered (image : List Chunk) : List UInt8 :=
  (beforeEnd image).flatMap bytes

/-- A reader that fails delivers nothing, any other all its bytes. -/
theorem readAll_eq (image : List Chunk) :
    readAll image =
      match failure? image with
      | some e => .error e
      | none => .ok (delivered image) := by
  induction image with
  | nil => rfl
  | cons chunk rest ih =>
      cases chunk with
      | data bs =>
          cases bs with
          | nil => rfl
          | cons b bs =>
              have hfailure : failure? (.data (b :: bs) :: rest) =
                  failure? rest := rfl
              have hdelivered : delivered (.data (b :: bs) :: rest) =
                  b :: bs ++ delivered rest := rfl
              rw [readAll, ih, hfailure, hdelivered]
              cases failure? rest <;> rfl
      | failure e =>
          have hdelivered : delivered (.failure e :: rest) =
              delivered rest := rfl
          rw [readAll, hdelivered]
          by_cases h : e.isInterrupted = true
          · have hfailure : failure? (.failure e :: rest) =
                failure? rest := by
              simp [failure?, beforeEnd, final?, h]
            rw [if_pos h, ih, hfailure]
          · have hfailure : failure? (.failure e :: rest) = some e := by
              simp [failure?, beforeEnd, final?, h]
            rw [if_neg h, hfailure]

end Chunk

/-! ## One load -/

namespace Memory

variable {m : Memory} {image : List Chunk}

/-- A reader that fails is told, however much it has delivered. -/
theorem load_of_failure {e : IoError} (h : Chunk.failure? image = some e) :
    m.load image = .error (.io e) := by
  simp only [load, Chunk.readAll_eq, h]

/-- An image that is too long is told, with its length. -/
theorem load_of_tooLarge (h : Chunk.failure? image = none)
    (hlarge : programRoom < (Chunk.delivered image).length) :
    m.load image = .error (.tooLarge (Chunk.delivered image).length) := by
  simp only [load, Chunk.readAll_eq, h]
  exact dif_neg (Nat.not_le_of_lt hlarge)

/-- Any other image is put into memory. -/
theorem load_of_fits (h : Chunk.failure? image = none)
    (hfits : (Chunk.delivered image).length ≤ programRoom) :
    m.load image =
      .ok { bytes := store m.bytes programStart.toNat (Chunk.delivered image)
            programLength := (Chunk.delivered image).length
            programLength_le := hfits } := by
  simp only [load, Chunk.readAll_eq, h]
  exact dif_pos hfits

/-- A program that lies behind as many bytes as there are in front of programs
is read back. -/
theorem program_of_bytes {before data behind : List UInt8}
    (hbytes : m.bytes.toList = before ++ data ++ behind)
    (hbefore : before.length = programStart.toNat)
    (hlength : m.programLength = data.length) : m.program = data := by
  rw [program_eq, hlength, hbytes, List.append_assoc,
    List.drop_left' hbefore, List.take_left]

end Memory

/-! ## Rows of edits -/

/-- What changes memory. -/
inductive Edit where
  /-- A program is loaded. -/
  | load (image : List Chunk)
  /-- Bytes are written. -/
  | write (address : UInt16) (data : List UInt8)
  /-- Bytes are set to one value. -/
  | fill (address : UInt16) (length : Nat) (value : UInt8)
  deriving DecidableEq, Repr

/-- The length of the program that an edit loads, if it loads one. -/
def Edit.loads? : Edit → Option Nat
  | load image =>
    if Chunk.failure? image = none ∧ (Chunk.delivered image).length ≤ 3584 then
      some (Chunk.delivered image).length
    else none
  | _ => none

/-- The length of the last program that a row of edits loads, or the length
from before it loads one. -/
def Edit.lastLength (before : Nat) (edits : List Edit) : Nat :=
  (edits.reverse.findSome? loads?).getD before

theorem Edit.lastLength_cons (before : Nat) (edit : Edit) (rest : List Edit) :
    lastLength before (edit :: rest) =
      lastLength ((loads? edit).getD before) rest := by
  unfold lastLength
  rw [List.reverse_cons, List.findSome?_append, List.findSome?_singleton]
  cases rest.reverse.findSome? loads? <;> rfl

namespace LooseMemory

/-- Loose memory after an edit.  An edit that is refused leaves what it
leaves. -/
def edit? (m : LooseMemory) : Edit → Option LooseMemory
  | .load image => (m.load image).map Prod.snd
  | .write address data => some (m.write address data).2
  | .fill address length value => some (m.fill address length value).2

/-- Loose memory after some edits, one after the other. -/
def edits? (m : LooseMemory) (edits : List Edit) : Option LooseMemory :=
  edits.foldlM edit? m

end LooseMemory

namespace Memory

/-- Memory after something that may have failed. -/
def afterwards {ε : Type} (m : Memory) : Except ε Memory → Memory
  | .ok after => after
  | .error _ => m

/-- Memory after an edit.  An edit that is refused leaves it as it was. -/
def edit (m : Memory) : Edit → Memory
  | .load image => m.afterwards (m.load image)
  | .write address data => m.afterwards (m.write address data)
  | .fill address length value => m.afterwards (m.fill address length value)

/-- Memory after some edits, one after the other. -/
def edits (m : Memory) (edits : List Edit) : Memory :=
  edits.foldl edit m

/-- An edit of loose memory does what it does otherwise. -/
theorem edit?_loose (m : Memory) (edit : Edit) :
    m.loose.edit? edit = some (m.edit edit).loose := by
  cases edit with
  | load image =>
      rw [LooseMemory.edit?, loose_load, Memory.edit]
      cases m.load image <;> rfl
  | write address data =>
      rw [LooseMemory.edit?, loose_write, Memory.edit]
      cases m.write address data <;> rfl
  | fill address length value =>
      rw [LooseMemory.edit?, loose_fill, Memory.edit]
      cases m.fill address length value <;> rfl

theorem edits?_loose (m : Memory) (edits : List Edit) :
    m.loose.edits? edits = some (m.edits edits).loose := by
  induction edits generalizing m with
  | nil => rfl
  | cons edit rest ih =>
      rw [LooseMemory.edits?, List.foldlM_cons, edit?_loose]
      exact ih (m.edit edit)

/-- Only a load changes the length of the program. -/
theorem programLength_edit (m : Memory) (edit : Edit) :
    (m.edit edit).programLength = edit.loads?.getD m.programLength := by
  cases edit with
  | load image =>
      cases hfailure : Chunk.failure? image with
      | some e =>
          simp [Memory.edit, load_of_failure hfailure, afterwards, Edit.loads?,
            hfailure]
      | none =>
          by_cases h : (Chunk.delivered image).length ≤ programRoom
          · rw [Memory.edit, load_of_fits hfailure h, Edit.loads?,
              if_pos ⟨hfailure, h⟩]
            rfl
          · rw [Memory.edit, load_of_tooLarge hfailure (Nat.lt_of_not_le h),
              Edit.loads?, if_neg fun hloads => h hloads.2]
            rfl
  | write address data =>
      show (m.afterwards (m.write address data)).programLength = _
      cases hwrite : m.write address data with
      | ok after => exact programLength_of_write hwrite
      | error e => rfl
  | fill address length value =>
      show (m.afterwards (m.fill address length value)).programLength = _
      unfold fill
      split <;> rfl

/-- The length of the program is that of the last one that was loaded. -/
theorem programLength_edits (m : Memory) (edits : List Edit) :
    (m.edits edits).programLength = Edit.lastLength m.programLength edits := by
  induction edits generalizing m with
  | nil => rfl
  | cons edit rest ih =>
      rw [Edit.lastLength_cons, ← programLength_edit]
      exact ih (m.edit edit)

/-- **Loading is all or nothing.**  A reader that fails in front of its end
makes a load fail with what it failed with, however much it has delivered; an
image that is read to its end, but longer than 3584 bytes, makes it fail with
its length; and both leave all of memory as it was.  Any other image takes its
place from `0x200` on, nothing else is touched, and it is the program then.
Whatever else was loaded, written or filled, looking at the program does not go
beyond memory, and shows what lies from `0x200` on now, for the length of what
was loaded last. -/
theorem load_all_or_nothing (m : Memory) (image : List Chunk) :
    (∀ e, Chunk.failure? image = some e →
      m.load image = .error (.io e) ∧
        m.loose.load image = some (.error (.io e), m.loose)) ∧
    (Chunk.failure? image = none →
      ∀ data, data = Chunk.delivered image →
        (3584 < data.length →
          m.load image = .error (.tooLarge data.length) ∧
            m.loose.load image =
              some (.error (.tooLarge data.length), m.loose)) ∧
        (data.length ≤ 3584 →
          ∃ after, m.load image = .ok after ∧
            m.loose.load image = some (.ok (), after.loose) ∧
            after.bytes.toList = m.bytes.toList.take 0x200 ++ data ++
              m.bytes.toList.drop (0x200 + data.length) ∧
            after.program = data)) ∧
    ∀ (edits : List Edit) (now : Memory) (length : Nat),
      now = m.edits edits → length = Edit.lastLength m.programLength edits →
        m.loose.edits? edits = some now.loose ∧
          now.loose.programLength = length ∧ length ≤ 3584 ∧
          now.loose.program? = some now.program ∧
          now.program = (now.loose.bytes.drop 0x200).take length ∧
          now.program.length = length := by
  refine ⟨fun e hfailure => ?_, fun hfailure data hdata => ⟨?_, ?_⟩, ?_⟩
  · have hload := load_of_failure (m := m) hfailure
    exact ⟨hload, by rw [loose_load, hload]⟩
  · intro hlarge
    have hload := load_of_tooLarge (m := m) hfailure (hdata ▸ hlarge)
    rw [← hdata] at hload
    exact ⟨hload, by rw [loose_load, hload]⟩
  · intro hfits
    have hload := load_of_fits (m := m) hfailure (hdata ▸ hfits)
    have hroom : programStart.toNat + data.length ≤ size := by
      have hsize := programStart_add_programRoom
      have hlimit : programRoom = 3584 := rfl
      omega
    have hbefore : (m.bytes.toList.take programStart.toNat).length =
        programStart.toNat := by
      rw [List.length_take, Vector.length_toList]
      omega
    have hbytes := toList_store m.bytes hroom
    simp only [← hdata] at hload
    exact ⟨_, hload, by rw [loose_load, hload], hbytes,
      program_of_bytes hbytes hbefore rfl⟩
  · rintro edits now length rfl rfl
    have hlength := programLength_edits m edits
    have hprogram := program_eq (m.edits edits)
    rw [hlength] at hprogram
    refine ⟨edits?_loose m edits, hlength,
      hlength ▸ (m.edits edits).programLength_le, loose_program? _, hprogram,
      ?_⟩
    rw [← hlength, program, List.length_ofFn]

/-- An image that comes in two pieces with an interruption between them.  What
lies behind its end is not read. -/
def interruptedImage : List Chunk :=
  [.data [0x12], .failure ⟨.interrupted, "again"⟩, .data [0x00], .data [],
    .failure ⟨.brokenPipe, "gone"⟩]

/-- It is loaded, and a write into it shows in the program. -/
theorem load_all_or_nothing_interrupted :
    (∃ after, fresh.load interruptedImage = .ok after ∧
      after.program = [0x12, 0x00]) ∧
      (fresh.edits [.load interruptedImage, .write 0x201 [0x02]]).program.length
        = 2 := by
  obtain ⟨_, hload, hrow⟩ := load_all_or_nothing fresh interruptedImage
  obtain ⟨_, hfits⟩ := hload rfl _ rfl
  obtain ⟨after, hafter, _, _, hprogram⟩ := hfits (by decide)
  obtain ⟨_, _, _, _, _, hlength⟩ :=
    hrow [.load interruptedImage, .write 0x201 [0x02]] _ _ rfl rfl
  exact ⟨⟨after, hafter, hprogram⟩, hlength⟩

end Memory

end Chip8
