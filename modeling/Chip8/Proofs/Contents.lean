import Chip8.Proofs.Loading
import Mathlib.Data.List.Induction

/-!
# What memory holds

Memory is accessed by loading programs, by writing and filling, and by reading
bytes, single bytes and words, in any order and over one another.  Whether an
access succeeds depends on where it lies and on nothing that happened before.
What is read at a place is what the last edit put there that was not refused
and reached it, and otherwise what was there at first: the font at the bottom,
and zeros.

So memory is told by the row of edits alone (`Edit.lastPut`), with no need to
store anything.

## Main results

* `Memory.bytes_edit`, `Memory.getElem_edits` — a place after an edit, and after
  a row of edits.
* `Memory.reply_eq_ok_iff`, `Memory.reply_eq_error` — which accesses are refused,
  and with what answer.
* `Memory.loose_access?` — accesses of memory without promises.
* `Memory.faithful_store` — the three together, along any row of accesses.
-/

namespace Chip8

/-! ## Places, by the edits -/

namespace Edit

/-- Where an edit stores, and what, unless it is refused. -/
def stored? : Edit → Option (Nat × List UInt8)
  | load image =>
    if Chunk.failure? image = none ∧ (Chunk.delivered image).length ≤ 3584 then
      some (0x200, Chunk.delivered image)
    else none
  | write address data =>
    if address.toNat + data.length ≤ 4096 then some (address.toNat, data)
    else none
  | fill address length value =>
    if address.toNat + length ≤ 4096 then
      some (address.toNat, List.replicate length value)
    else none

/-- The byte that an edit puts at a place, if it is not refused and reaches the
place. -/
def puts? (place : Nat) (edit : Edit) : Option UInt8 :=
  match edit.stored? with
  | some (start, data) => if start ≤ place then data[place - start]? else none
  | none => none

/-- What is at a place before any edit: the font, and zeros behind it. -/
def initial (place : Nat) : UInt8 :=
  if place < 0x50 then Font.glyphs.getD place 0 else 0

/-- What is at a place after a row of edits: what the last one put there that
put anything there. -/
def lastPut (edits : List Edit) (place : Nat) : UInt8 :=
  (edits.reverse.findSome? (puts? place)).getD (initial place)

theorem lastPut_concat (edits : List Edit) (edit : Edit) (place : Nat) :
    lastPut (edits ++ [edit]) place =
      (edit.puts? place).getD (lastPut edits place) := by
  rw [lastPut, List.reverse_append, List.reverse_singleton,
    List.singleton_append, List.findSome?_cons]
  cases edit.puts? place <;> rfl

end Edit

/-! ## Places, as they are -/

namespace Memory

variable {m : Memory}

/-- An edit stores what it is to store, or nothing. -/
theorem bytes_edit (m : Memory) (edit : Edit) :
    (m.edit edit).bytes =
      match edit.stored? with
      | some (start, data) => store m.bytes start data
      | none => m.bytes := by
  cases edit with
  | load image =>
      cases hfailure : Chunk.failure? image with
      | some e =>
          simp [Memory.edit, load_of_failure hfailure, afterwards,
            Edit.stored?, hfailure]
      | none =>
          by_cases h : (Chunk.delivered image).length ≤ programRoom
          · have hstored : (Edit.load image).stored? =
                some (0x200, Chunk.delivered image) := if_pos ⟨hfailure, h⟩
            rw [hstored, Memory.edit, load_of_fits hfailure h]
            rfl
          · have hstored : (Edit.load image).stored? = none :=
              if_neg fun hboth => h hboth.2
            rw [hstored, Memory.edit,
              load_of_tooLarge hfailure (Nat.lt_of_not_le h)]
            rfl
  | write address data =>
      show (m.afterwards (m.write address data)).bytes = _
      by_cases h : address.toNat + data.length ≤ size
      · have hstored : (Edit.write address data).stored? =
            some (address.toNat, data) := if_pos h
        rw [hstored, write, if_pos h]
        rfl
      · have hstored : (Edit.write address data).stored? = none := if_neg h
        rw [hstored, write, if_neg h]
        rfl
  | fill address length value =>
      show (m.afterwards (m.fill address length value)).bytes = _
      by_cases h : address.toNat + length ≤ size
      · have hstored : (Edit.fill address length value).stored? =
            some (address.toNat, List.replicate length value) := if_pos h
        rw [hstored, fill, if_pos h]
        rfl
      · have hstored : (Edit.fill address length value).stored? = none :=
          if_neg h
        rw [hstored, fill, if_neg h]
        rfl

/-- A place holds what an edit puts there, and what it held if that is
nothing. -/
theorem getElem_edit (m : Memory) (edit : Edit) {place : Nat}
    (h : place < size) :
    (m.edit edit).bytes[place] =
      (edit.puts? place).getD m.bytes[place] := by
  have hbytes := m.bytes_edit edit
  unfold Edit.puts?
  cases hstored : edit.stored? with
  | none =>
      simp only [hstored] at hbytes
      simp only [hbytes, Option.getD_none]
  | some put =>
      simp only [hstored] at hbytes
      simp only [hbytes, getElem_store, List.getD_eq_getElem?_getD]
      split <;> rfl

/-- Nothing but the font is there at first. -/
theorem getElem_fresh_eq_initial {place : Nat} (h : place < size) :
    fresh.bytes[place] = Edit.initial place := by
  show (store (Vector.replicate size 0) 0 Font.glyphs)[place] = _
  rw [getElem_store, if_pos (Nat.zero_le place), Nat.sub_zero,
    Vector.getElem_replicate, Edit.initial]
  split
  · rfl
  · next hbehind =>
      rw [List.getD_eq_getElem?_getD, List.getElem?_eq_none, Option.getD_none]
      exact Nat.le_of_not_lt hbehind

/-- Every place holds what was put there last. -/
theorem getElem_edits (edits : List Edit) {place : Nat} (h : place < size) :
    (fresh.edits edits).bytes[place] = Edit.lastPut edits place := by
  induction edits using List.reverseRecOn with
  | nil => exact getElem_fresh_eq_initial h
  | append_singleton edits edit ih =>
      have hlast : fresh.edits (edits ++ [edit]) =
          (fresh.edits edits).edit edit := List.foldl_append
      simp only [hlast, getElem_edit, ih, Edit.lastPut_concat]

end Memory

/-! ## Accesses -/

/-- What is done to memory, or asked of it. -/
inductive Access where
  /-- Memory is edited. -/
  | edit (edit : Edit)
  /-- Bytes are read. -/
  | read (address : UInt16) (length : Nat)
  /-- One byte is read. -/
  | byte (address : UInt16)
  /-- One word is read. -/
  | word (address : UInt16)
  deriving DecidableEq, Repr

/-- What an access answers. -/
inductive Reply where
  /-- Memory is edited. -/
  | done
  /-- The bytes that were asked for. -/
  | bytes (data : List UInt8)
  /-- The byte that was asked for. -/
  | byte (value : UInt8)
  /-- The word that was asked for. -/
  | word (value : UInt16)
  deriving DecidableEq, Repr

/-- Why an access is refused. -/
inductive Refusal where
  /-- It does not lie within memory, which has so many bytes. -/
  | outOfRange (address : UInt16) (length size : Nat)
  /-- The program was not loaded. -/
  | notLoaded (e : LoadError)
  deriving DecidableEq, Repr

/-- What comes of an access within a range of bytes. -/
def Reply.ofRange {α : Type} (size : Nat) (reply : α → Reply) :
    Except OutOfRange α → Except Refusal Reply
  | .ok value => .ok (reply value)
  | .error e => .error (.outOfRange e.address e.length size)

/-- What comes of loading a program. -/
def Reply.ofLoad {α : Type} : Except LoadError α → Except Refusal Reply
  | .ok _ => .ok .done
  | .error e => .error (.notLoaded e)

namespace Access

/-- The edit that an access is, if it is one. -/
def edit? : Access → Option Edit
  | edit e => some e
  | _ => none

/-- Where an access begins, and how far it reaches.  A program is loaded to
where programs lie, and nobody says where that is. -/
def range? : Access → Option (UInt16 × Nat)
  | edit (.load _) => none
  | edit (.write address data) => some (address, data.length)
  | edit (.fill address length _) => some (address, length)
  | read address length => some (address, length)
  | byte address => some (address, 1)
  | word address => some (address, 2)

end Access

namespace Memory

variable {m : Memory}

/-- What an access of memory answers. -/
def reply (m : Memory) : Access → Except Refusal Reply
  | .edit (.load image) => Reply.ofLoad (m.load image)
  | .edit (.write address data) =>
    Reply.ofRange size (fun _ => .done) (m.write address data)
  | .edit (.fill address length value) =>
    Reply.ofRange size (fun _ => .done) (m.fill address length value)
  | .read address length => Reply.ofRange size .bytes (m.read address length)
  | .byte address => Reply.ofRange size .byte (m.byte address)
  | .word address => Reply.ofRange size .word (m.word address)

/-- Memory after an access. -/
def access (m : Memory) : Access → Memory
  | .edit edit => m.edit edit
  | _ => m

/-- Memory after some accesses, one after the other. -/
def accesses (m : Memory) (row : List Access) : Memory :=
  row.foldl access m

/-- Only edits count. -/
theorem accesses_eq_edits (m : Memory) (row : List Access) :
    m.accesses row = m.edits (row.filterMap Access.edit?) := by
  induction row generalizing m with
  | nil => rfl
  | cons a rest ih =>
      cases a with
      | edit edit => exact ih (m.edit edit)
      | _ => exact ih m

/-! ### What is refused -/

/-- A word within memory is made of the byte at its address and the next
one. -/
theorem word_of_lt {address : UInt16} (h : address.toNat < size)
    (hnext : address.toNat + 1 < size) :
    m.word address =
      .ok (Word.ofBytes m.bytes[address.toNat] m.bytes[address.toNat + 1]) :=
  dif_pos hnext

theorem byte_of_le {address : UInt16} (h : address.toNat + 1 ≤ size) :
    m.byte address = .ok m.bytes[address.toNat] :=
  dif_pos h

/-- An access beyond memory is refused, and memory is as it was. -/
theorem reply_eq_error {a : Access} {address : UInt16} {length : Nat}
    (ha : a.range? = some (address, length))
    (h : size < address.toNat + length) :
    m.reply a = .error (.outOfRange address length size) ∧ m.access a = m := by
  have hnot : ¬ address.toNat + length ≤ size := Nat.not_le_of_lt h
  cases a with
  | edit edit =>
      cases edit with
      | load image => cases ha
      | write address data =>
          cases ha
          have hwrite := write_eq_error (m := m) h
          simp only [reply, access, Memory.edit, hwrite]
          exact ⟨rfl, rfl⟩
      | fill address length value =>
          cases ha
          have hfill : m.fill address length value =
              .error ⟨address, length⟩ := if_neg hnot
          simp only [reply, access, Memory.edit, hfill]
          exact ⟨rfl, rfl⟩
  | read address length =>
      cases ha
      simp only [reply, read_eq_error h]
      exact ⟨rfl, rfl⟩
  | byte address =>
      cases ha
      have hbyte : m.byte address = .error ⟨address, 1⟩ := dif_neg hnot
      simp only [reply, hbyte]
      exact ⟨rfl, rfl⟩
  | word address =>
      cases ha
      have hword : m.word address = .error ⟨address, 2⟩ := dif_neg hnot
      simp only [reply, hword]
      exact ⟨rfl, rfl⟩

/-- An access within memory is answered. -/
theorem exists_reply {a : Access} {address : UInt16} {length : Nat}
    (ha : a.range? = some (address, length))
    (h : address.toNat + length ≤ size) : ∃ reply, m.reply a = .ok reply := by
  cases a with
  | edit edit =>
      cases edit with
      | load image => cases ha
      | write address data =>
          cases ha
          obtain ⟨after, hwrite⟩ := write_eq_ok_iff (m := m).mpr h
          exact ⟨.done, by rw [reply, hwrite]; rfl⟩
      | fill address length value =>
          cases ha
          have hfill : ∃ after, m.fill address length value = .ok after :=
            ⟨_, if_pos h⟩
          obtain ⟨after, hfill⟩ := hfill
          exact ⟨.done, by rw [reply, hfill]; rfl⟩
  | read address length =>
      cases ha
      obtain ⟨data, hread⟩ := read_eq_ok_iff (m := m).mpr h
      exact ⟨.bytes data, by rw [reply, hread]; rfl⟩
  | byte address =>
      cases ha
      exact ⟨_, by rw [reply, byte_of_le h]; rfl⟩
  | word address =>
      cases ha
      exact ⟨_, by rw [reply, word_of_lt (Nat.lt_of_succ_lt h) h]; rfl⟩

/-- Whether an access is answered depends on its range alone. -/
theorem reply_eq_ok_iff {a : Access} {address : UInt16} {length : Nat}
    (ha : a.range? = some (address, length)) :
    (∃ reply, m.reply a = .ok reply) ↔ address.toNat + length ≤ size := by
  refine ⟨fun ⟨reply, hok⟩ => ?_, exists_reply ha⟩
  by_contra hnot
  have herror := (reply_eq_error (m := m) ha (Nat.lt_of_not_le hnot)).1
  cases hok.symm.trans herror

/-- Loading a program succeeds if the reader comes to its end and the program
is not too long. -/
theorem reply_load_eq_ok_iff {image : List Chunk} :
    (∃ reply, m.reply (.edit (.load image)) = .ok reply) ↔
      Chunk.failure? image = none ∧
        (Chunk.delivered image).length ≤ programRoom := by
  cases hfailure : Chunk.failure? image with
  | some e => simp [reply, load_of_failure hfailure, Reply.ofLoad]
  | none =>
      by_cases h : (Chunk.delivered image).length ≤ programRoom
      · simp [reply, load_of_fits hfailure h, Reply.ofLoad, h]
      · simp [reply, load_of_tooLarge hfailure (Nat.lt_of_not_le h),
          Reply.ofLoad, h]

/-- A load that is refused leaves memory as it was. -/
theorem access_load_of_error {image : List Chunk} {refusal : Refusal}
    (h : m.reply (.edit (.load image)) = .error refusal) :
    m.access (.edit (.load image)) = m := by
  rw [reply] at h
  show m.afterwards (m.load image) = m
  cases hload : m.load image with
  | ok after =>
      rw [hload] at h
      cases h
  | error e => rfl

end Memory

/-! ## Accesses of memory without promises -/

/-- The word of two bytes, with the first one shifted and the second one put
into the gap. -/
theorem Word.shift_or_eq_ofBytes (high low : UInt8) :
    high.toUInt16 <<< 8 ||| low.toUInt16 = ofBytes high low := by
  have hhigh := high.toNat_lt
  have hlow := low.toNat_lt
  apply UInt16.toNat_inj.mp
  rw [toNat_ofBytes, UInt16.toNat_or, UInt16.toNat_shiftLeft,
    UInt8.toNat_toUInt16, UInt8.toNat_toUInt16]
  show high.toNat <<< 8 % 2 ^ 16 ||| low.toNat = _
  rw [Nat.shiftLeft_eq, Nat.mod_eq_of_lt (by omega), Nat.mul_comm,
    ← Nat.two_pow_add_eq_or_of_lt (by omega)]

namespace LooseMemory

/-- What comes of an access to a range of loose memory: a refusal tells how
many bytes there are. -/
def tells {α : Type} (m : LooseMemory) (reply : α → Reply)
    (outcome : Except OutOfRange α) : Except Refusal Reply :=
  Reply.ofRange m.bytes.length reply outcome

/-- What an access of loose memory answers, and the memory after it.  A single
byte and a word are made of the bytes of a slice, which is taken to be as long
as it should. -/
def access? (m : LooseMemory) :
    Access → Option (Except Refusal Reply × LooseMemory)
  | .edit (.load image) => do
    let (outcome, after) ← m.load image
    return (Reply.ofLoad outcome, after)
  | .edit (.write address data) =>
    let (outcome, after) := m.write address data
    some (m.tells (fun _ => .done) outcome, after)
  | .edit (.fill address length value) =>
    let (outcome, after) := m.fill address length value
    some (m.tells (fun _ => .done) outcome, after)
  | .read address length => some (m.tells .bytes (m.read address length), m)
  | .byte address =>
    match m.read address 1 with
    | .ok bytes => do return (.ok (.byte (← bytes[0]?)), m)
    | .error e => some (m.tells .byte (.error e), m)
  | .word address =>
    match m.read address 2 with
    | .ok bytes => do
      let high ← bytes[0]?
      let low ← bytes[1]?
      return (.ok (.word (high.toUInt16 <<< 8 ||| low.toUInt16)), m)
    | .error e => some (m.tells .word (.error e), m)

/-- Loose memory after some accesses, one after the other. -/
def accesses? (m : LooseMemory) (row : List Access) : Option LooseMemory :=
  row.foldlM (fun m a => (m.access? a).map Prod.snd) m

end LooseMemory

namespace Memory

variable {m : Memory}

theorem length_loose (m : Memory) : m.loose.bytes.length = size :=
  Vector.length_toList

/-- A read of one byte delivers that byte. -/
theorem read_one_of_le {address : UInt16} (h : address.toNat + 1 ≤ size) :
    m.read address 1 = .ok [m.bytes[address.toNat]] := by
  simp [read, h]

/-- A read of two bytes delivers those of a word. -/
theorem read_two_of_lt {address : UInt16} (h : address.toNat < size)
    (hnext : address.toNat + 1 < size) :
    m.read address 2 =
      .ok [m.bytes[address.toNat], m.bytes[address.toNat + 1]] := by
  have hend : address.toNat + 2 ≤ size := hnext
  simp [read, hend]

/-- Accesses of loose memory answer what they answer otherwise, and do not break
down. -/
theorem loose_access? (m : Memory) (a : Access) :
    m.loose.access? a = some (m.reply a, (m.access a).loose) := by
  have hlength := m.length_loose
  cases a with
  | edit edit =>
      cases edit with
      | load image =>
          rw [LooseMemory.access?, loose_load, reply]
          show _ = some (_, (m.afterwards (m.load image)).loose)
          cases m.load image <;> rfl
      | write address data =>
          simp only [LooseMemory.access?, loose_write, LooseMemory.tells,
            hlength, reply]
          show _ = some (_, (m.afterwards (m.write address data)).loose)
          cases m.write address data <;> rfl
      | fill address length value =>
          simp only [LooseMemory.access?, loose_fill, LooseMemory.tells,
            hlength, reply]
          show _ = some (_, (m.afterwards (m.fill address length value)).loose)
          cases m.fill address length value <;> rfl
  | read address length =>
      rw [LooseMemory.access?, loose_read, LooseMemory.tells, hlength]
      rfl
  | byte address =>
      simp only [LooseMemory.access?, loose_read, reply, LooseMemory.tells,
        hlength]
      by_cases h : address.toNat + 1 ≤ size
      · rw [read_one_of_le h, byte_of_le h]
        rfl
      · rw [read_eq_error (Nat.lt_of_not_le h), byte, dif_neg h]
        rfl
  | word address =>
      simp only [LooseMemory.access?, loose_read, reply, LooseMemory.tells,
        hlength]
      by_cases h : address.toNat + 2 ≤ size
      · have hfirst := Nat.lt_of_succ_lt h
        rw [read_two_of_lt hfirst h, word_of_lt hfirst h,
          ← Word.shift_or_eq_ofBytes]
        rfl
      · rw [read_eq_error (Nat.lt_of_not_le h), word, dif_neg h]
        rfl

theorem loose_accesses? (m : Memory) (row : List Access) :
    m.loose.accesses? row = some (m.accesses row).loose := by
  induction row generalizing m with
  | nil => rfl
  | cons a rest ih =>
      rw [LooseMemory.accesses?, List.foldlM_cons, loose_access?]
      exact ih (m.access a)

/-! ## The whole story -/

section Held

variable {edits : List Edit} {address : UInt16}

/-- Bytes that are read are what was put there last. -/
theorem read_edits {length : Nat} (h : address.toNat + length ≤ size) :
    (fresh.edits edits).read address length =
      .ok ((List.range length).map fun j =>
        Edit.lastPut edits (address.toNat + j)) := by
  rw [read, dif_pos h]
  congr 1
  apply List.ext_getElem
  · rw [List.length_ofFn, List.length_map, List.length_range]
  · intro j _ _
    simp only [List.getElem_ofFn, List.getElem_map, List.getElem_range,
      getElem_edits]

theorem byte_edits (h : address.toNat + 1 ≤ size) :
    (fresh.edits edits).byte address =
      .ok (Edit.lastPut edits address.toNat) := by
  rw [byte_of_le h, getElem_edits]

theorem word_edits (h : address.toNat + 2 ≤ size) :
    (fresh.edits edits).word address =
      .ok (Word.ofBytes (Edit.lastPut edits address.toNat)
        (Edit.lastPut edits (address.toNat + 1))) := by
  rw [word_of_lt (Nat.lt_of_succ_lt h) h, getElem_edits, getElem_edits]

end Held

/-- **Memory keeps what it is given, and nothing else.**  Whatever was done to
it from the start, in any order, no access breaks down, and with what was put
at each place last:

* An access is answered if it ends within the 4096 bytes.  If not it is refused,
  with its address, its length and the number of bytes there are, and memory is
  as it was.
* A program is loaded if it can be read and is not too long, and if not memory
  is as it was.
* Bytes, a byte and a word that are read are made of what was put there last;
  the first byte of a word counts 256 times. -/
theorem faithful_store (row : List Access) {m : Memory} {held : Nat → UInt8}
    (hm : m = fresh.accesses row)
    (hheld : held = Edit.lastPut (row.filterMap Access.edit?)) :
    (LooseMemory.fresh?.bind fun start => start.accesses? row) =
      some m.loose ∧
    (∀ a, m.loose.access? a = some (m.reply a, (m.access a).loose)) ∧
    (∀ a address length, a.range? = some (address, length) →
      ((∃ reply, m.reply a = .ok reply) ↔ address.toNat + length ≤ 4096) ∧
      (¬ address.toNat + length ≤ 4096 →
        m.reply a = .error (.outOfRange address length 4096) ∧
          m.access a = m)) ∧
    (∀ image, ((∃ reply, m.reply (.edit (.load image)) = .ok reply) ↔
        Chunk.failure? image = none ∧
          (Chunk.delivered image).length ≤ 3584) ∧
      ∀ refusal, m.reply (.edit (.load image)) = .error refusal →
        m.access (.edit (.load image)) = m) ∧
    (∀ address length, address.toNat + length ≤ 4096 →
      m.reply (.read address length) =
        .ok (.bytes ((List.range length).map fun j =>
          held (address.toNat + j)))) ∧
    (∀ address, address.toNat + 1 ≤ 4096 →
      m.reply (.byte address) = .ok (.byte (held address.toNat))) ∧
    ∀ address, address.toNat + 2 ≤ 4096 →
      ∃ value, m.reply (.word address) = .ok (.word value) ∧
        value.toNat = 256 * (held address.toNat).toNat +
          (held (address.toNat + 1)).toNat := by
  have hedits : m = fresh.edits (row.filterMap Access.edit?) := by
    rw [hm, accesses_eq_edits]
  refine ⟨?_, m.loose_access?, ?_, ?_, ?_, ?_, ?_⟩
  · rw [LooseMemory.fresh?_eq, Option.bind_some, loose_accesses?, hm]
  · intro a address length ha
    exact ⟨reply_eq_ok_iff ha, fun h => reply_eq_error ha (Nat.lt_of_not_le h)⟩
  · exact fun image => ⟨reply_load_eq_ok_iff, fun _ => access_load_of_error⟩
  · intro address length h
    rw [reply, hedits, read_edits h, hheld]
    rfl
  · intro address h
    rw [reply, hedits, byte_edits h, hheld]
    rfl
  · intro address h
    rw [reply, hedits, word_edits h, hheld]
    exact ⟨_, rfl, Word.toNat_ofBytes _ _⟩

/-- A program is loaded; a write beyond the end is refused; then a part of the
program is filled, and a part of that is written over. -/
def overlapping : List Access :=
  [.edit (.load [.data [0x12, 0x00, 0x34]]), .edit (.write 0xFFE [1, 2, 3]),
    .edit (.fill 0x201 3 7), .edit (.write 0x202 [9])]

/-- The last of them wins where it lies.  The last two bytes of memory were not
reached, and the last byte of the font is in front of a zero. -/
theorem faithful_store_overlapping :
    ∃ m, m = fresh.accesses overlapping ∧
      m.reply (.read 0x200 4) = .ok (.bytes [0x12, 7, 9, 7]) ∧
      m.reply (.read 0xFFE 2) = .ok (.bytes [0, 0]) ∧
      m.reply (.read 0xFFE 3) = .error (.outOfRange 0xFFE 3 4096) ∧
      ∃ value, m.reply (.word 0x4F) = .ok (.word value) ∧
        value.toNat = 0x8000 := by
  obtain ⟨_, _, hrange, _, hread, _, hword⟩ :=
    faithful_store overlapping rfl rfl
  refine ⟨_, rfl, hread 0x200 4 (by decide), hread 0xFFE 2 (by decide),
    ((hrange (.read 0xFFE 3) 0xFFE 3 rfl).2 (by decide)).1, ?_⟩
  exact hword 0x4F (by decide)

end Memory

end Chip8
