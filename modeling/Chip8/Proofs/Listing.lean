import Chip8.Listing.Sink
import Chip8.Proofs.Loading
import Chip8.Proofs.Numerals
import Chip8.Proofs.Step

/-!
# A listing shows what runs

A listing goes through the bytes of a program two at a time; the machine
fetches words from the memory that the program was loaded into.  Where the
program has an odd number of bytes, the one supplies a zero and the other finds
one, since memory is blank behind the font.  So each line shows the word that is
fetched at its address, and the two read it with the same decoder: what is
listed as an instruction is carried out as that instruction, and what is not is
refused.

That a line is no instruction can be told from its text alone, by the first word
behind the bytes, because no instruction is called `SYS` or `UNKNOWN`.

## Main results

* `Listing.splitOn_letters` — the listing, cut at its line ends, is its lines.
* `Listing.firstWord_letters`, `Listing.Line.isRefused_meaning_iff` — what the
  text of a line says about its word.
* `Listing.getElem?_linesFrom`, `Memory.read_loaded` — the lines, and the words
  in memory, in the bytes of the program.
* `Sink.writeEach_of_le` — a writer with enough room takes everything.
* `Listing.shows_what_runs` — the lines of a program, and the steps at their
  addresses.
-/

namespace Chip8

/-! ## The characters of a listing -/

/-- A character that is seen, or a space. -/
def Printable (c : Char) : Prop :=
  0x20 ≤ c.toNat ∧ c.toNat < 0x7F

instance (c : Char) : Decidable (Printable c) :=
  inferInstanceAs (Decidable (_ ∧ _))

/-- A text that is known is looked through character by character. -/
theorem printable_of_all {text : List Char}
    (h : text.all (fun c => decide (Printable c)) = true) :
    ∀ c ∈ text, Printable c :=
  fun c hc => of_decide_eq_true (List.all_eq_true.mp h c hc)

theorem Hex.printable_of_mem_digits {width n : Nat} {c : Char}
    (h : c ∈ digits width n) : Printable c := by
  obtain ⟨d, hd, rfl⟩ := exists_of_mem_digits h
  clear h
  decide +revert

theorem Mnemonic.printable_of_mem_letters {m : Mnemonic} :
    ∀ c ∈ m.letters, Printable c := by
  apply printable_of_all
  cases m <;> decide

theorem Operand.printable_of_mem_letters {o : Operand} :
    ∀ c ∈ o.letters, Printable c := by
  cases o with
  | register x =>
      intro c hc
      rcases List.mem_cons.mp hc with rfl | hx
      · decide
      · exact Hex.printable_of_mem_digits hx
  | byte nn => exact fun c => Hex.printable_of_mem_digits
  | nibble n => exact fun c => Hex.printable_of_mem_digits
  | place nnn => exact fun c => Hex.printable_of_mem_digits
  | _ => exact printable_of_all (by decide)

/-- What holds of the characters of the parts, and of those between them, holds
of those of the whole. -/
theorem forall_mem_intercalate {p : Char → Prop} {between : List Char}
    {parts : List (List Char)} (hbetween : ∀ c ∈ between, p c)
    (hparts : ∀ part ∈ parts, ∀ c ∈ part, p c) :
    ∀ c ∈ between.intercalate parts, p c := by
  induction parts with
  | nil => simp
  | cons part rest ih =>
      obtain ⟨hpart, hrest⟩ := List.forall_mem_cons.mp hparts
      cases rest with
      | nil => rwa [List.intercalate_singleton]
      | cons next rest =>
          rw [List.intercalate_cons_cons]
          exact List.forall_mem_append.mpr
            ⟨List.forall_mem_append.mpr ⟨hpart, hbetween⟩, ih hrest⟩

theorem Statement.printable_of_mem_letters {s : Statement} :
    ∀ c ∈ s.letters, Printable c := by
  have hcolumn : ∀ c ∈ Column.left 10 s.mnemonic.letters, Printable c := by
    refine List.forall_mem_append.mpr
      ⟨Mnemonic.printable_of_mem_letters, fun c hc => ?_⟩
    rw [List.eq_of_mem_replicate hc]
    decide
  have hoperands : ∀ c ∈
      ", ".toList.intercalate (s.operands.map Operand.letters), Printable c := by
    refine forall_mem_intercalate (printable_of_all (by decide))
      fun part hpart => ?_
    obtain ⟨o, _, rfl⟩ := List.mem_map.mp hpart
    exact Operand.printable_of_mem_letters
  unfold letters
  dsimp only
  split
  · exact hcolumn
  · exact List.forall_mem_append.mpr
      ⟨hcolumn, List.forall_mem_cons.mpr ⟨by decide, hoperands⟩⟩

/-! ## First words -/

namespace Listing

/-- The first word of a text. -/
def firstWord (text : List Char) : List Char :=
  text.takeWhile (· ≠ ' ')

/-- Whether the text behind the bytes of a line says that they are no
instruction. -/
def IsRefused (meaning : List Char) : Prop :=
  firstWord meaning = "SYS".toList ∨ firstWord meaning = "UNKNOWN".toList

theorem firstWord_append {word rest : List Char} (h : ' ' ∉ word) :
    firstWord (word ++ ' ' :: rest) = word := by
  unfold firstWord
  rw [List.takeWhile_append_of_pos fun c hc => ?_]
  · simp
  · simpa using fun hspace : c = ' ' => h (hspace ▸ hc)

end Listing

open Listing

theorem Mnemonic.space_notMem_letters (m : Mnemonic) : ' ' ∉ m.letters := by
  cases m <;> decide

theorem Mnemonic.letters_eq_sys_iff {m : Mnemonic} :
    m.letters = "SYS".toList ↔ m = .sys := by
  cases m <;> decide

theorem Mnemonic.letters_ne_unknown (m : Mnemonic) :
    m.letters ≠ "UNKNOWN".toList := by
  cases m <;> decide

/-- No mnemonic fills its column. -/
theorem Mnemonic.length_letters_lt (m : Mnemonic) : m.letters.length < 10 := by
  cases m <;> decide

/-- The first word of a statement is its mnemonic. -/
theorem Statement.firstWord_letters (s : Statement) :
    firstWord s.letters = s.mnemonic.letters := by
  have hlength := s.mnemonic.length_letters_lt
  obtain ⟨n, hn⟩ := Nat.exists_eq_add_of_lt hlength
  have hcolumn : Column.left 10 s.mnemonic.letters =
      s.mnemonic.letters ++ ' ' :: List.replicate n ' ' := by
    have hspaces : 10 - s.mnemonic.letters.length = n + 1 := by omega
    rw [Column.left, hspaces, List.replicate_succ]
  unfold letters
  dsimp only
  rw [hcolumn]
  split
  · exact firstWord_append s.mnemonic.space_notMem_letters
  · rw [List.append_assoc]
    exact firstWord_append s.mnemonic.space_notMem_letters

/-- No instruction is a call of machine code. -/
theorem Instruction.mnemonic_ne_sys (i : Instruction) :
    i.statement.mnemonic ≠ .sys := by
  cases i with
  | alu op x y => cases op <;> exact nofun
  | _ => exact nofun

theorem Instruction.not_isRefused_letters (i : Instruction) :
    ¬ IsRefused i.letters := by
  unfold IsRefused letters
  rw [Statement.firstWord_letters, Mnemonic.letters_eq_sys_iff]
  rintro (h | h)
  · exact i.mnemonic_ne_sys h
  · exact Mnemonic.letters_ne_unknown _ h

namespace Listing

/-! ## Lines -/

/-- An instruction is listed by its text. -/
theorem Line.meaning_of_decode {l : Line} {i : Instruction}
    (h : Instruction.decode l.word = some i) : l.meaning = i.letters := by
  simp only [meaning, h]

/-- The first family are the words below `0x1000`. -/
theorem op_eq_zero_iff (w : UInt16) :
    (Fields.ofWord w).op = 0 ↔ w.toNat < 0x1000 := by
  have hw := w.toNat_lt
  rw [Fin.ext_iff, Fields.ofWord, Fin.val_ofNat]
  show w.toNat / 4096 % 16 = 0 ↔ _
  omega

/-- What is no instruction is listed as one of the two others. -/
theorem Line.meaning_of_decode_eq_none {l : Line}
    (h : Instruction.decode l.word = none) :
    l.meaning =
      if l.word.toNat < 0x1000 then
        (Statement.mk .sys [.place (Fields.ofWord l.word).nnn]).letters
      else "UNKNOWN".toList := by
  simp only [meaning, h, op_eq_zero_iff]

/-- A line says that its word is no instruction exactly if it is none. -/
theorem Line.isRefused_meaning_iff (l : Line) :
    IsRefused l.meaning ↔ Instruction.decode l.word = none := by
  cases hdecode : Instruction.decode l.word with
  | some i =>
      rw [meaning_of_decode hdecode]
      exact iff_of_false i.not_isRefused_letters nofun
  | none =>
      refine iff_of_true ?_ rfl
      rw [meaning_of_decode_eq_none hdecode]
      split
      · exact .inl (Statement.firstWord_letters _)
      · exact .inr rfl

theorem Line.printable_of_mem_letters {l : Line} :
    ∀ c ∈ l.letters, Printable c := by
  have hmeaning : ∀ c ∈ l.meaning, Printable c := by
    cases hdecode : Instruction.decode l.word with
    | some i =>
        rw [meaning_of_decode hdecode]
        exact Statement.printable_of_mem_letters
    | none =>
        rw [meaning_of_decode_eq_none hdecode]
        split
        · exact Statement.printable_of_mem_letters
        · exact printable_of_all (by decide)
  have hspace {rest : List Char} (hrest : ∀ c ∈ rest, Printable c) :
      ∀ c ∈ ' ' :: rest, Printable c :=
    List.forall_mem_cons.mpr ⟨by decide, hrest⟩
  have hdigits (width n : Nat) : ∀ c ∈ Hex.digits width n, Printable c :=
    fun _ => Hex.printable_of_mem_digits
  unfold letters
  exact List.forall_mem_append.mpr ⟨List.forall_mem_append.mpr
    ⟨List.forall_mem_append.mpr ⟨hdigits _ _, hspace (hdigits _ _)⟩,
      hspace (hdigits _ _)⟩, hspace hmeaning⟩

theorem Line.lineEnd_notMem_letters (l : Line) : '\n' ∉ l.letters := fun h =>
  absurd (l.printable_of_mem_letters _ h) (by decide)

/-- A text of lines, cut at its line ends, is its lines, and nothing behind the
last. -/
theorem splitOn_flatMap_written (lines : List Line) :
    (lines.flatMap Line.written).splitOn '\n' =
      lines.map Line.letters ++ [[]] := by
  induction lines with
  | nil => rfl
  | cons l rest ih =>
      rw [List.flatMap_cons, Line.written, List.append_assoc,
        List.singleton_append,
        List.splitOn_append_cons_self_of_not_mem l.lineEnd_notMem_letters, ih]
      rfl

theorem splitOn_letters (program : List UInt8) :
    (letters program).splitOn '\n' =
      (lines program).map Line.letters ++ [[]] :=
  splitOn_flatMap_written (lines program)

/-! ## The bytes of a line -/

/-- There is one line for every two bytes, and one for what is left. -/
theorem length_linesFrom (address : Nat) (program : List UInt8) :
    (linesFrom address program).length = (program.length + 1) / 2 := by
  fun_induction linesFrom address program with
  | case1 => rfl
  | case2 => simp
  | case3 address high low rest ih =>
      simp only [List.length_cons, ih]
      omega

/-- A line shows the two bytes at its place in the program, and a zero where
there is no second one. -/
theorem getElem?_linesFrom (address : Nat) (program : List UInt8) {k : Nat}
    (hk : k < (program.length + 1) / 2) :
    (linesFrom address program)[k]? =
      some ⟨address + 2 * k, program.getD (2 * k) 0,
        program.getD (2 * k + 1) 0⟩ := by
  fun_induction linesFrom address program generalizing k with
  | case1 => exact absurd hk (Nat.not_lt_zero k)
  | case2 address high =>
      have hzero : k = 0 := by simpa using hk
      subst hzero
      rfl
  | case3 address high low rest ih =>
      cases k with
      | zero => rfl
      | succ k =>
          have hrest : k < (rest.length + 1) / 2 := by
            simp only [List.length_cons] at hk
            omega
          rw [List.getElem?_cons_succ, ih hrest]
          have haddress : address + 2 + 2 * k = address + 2 * (k + 1) := by
            omega
          rw [haddress]
          rfl

end Listing

/-! ## Writing a listing out -/

namespace Sink

/-- A writer that has taken a text. -/
def taken (s : Sink) (text : List Char) : Sink :=
  { s with
    accepted := s.accepted ++ String.ofList text
    room := s.room - text.length }

theorem taken_nil (s : Sink) : s.taken [] = s := by
  simp [taken]

theorem taken_taken (s : Sink) (before after : List Char) :
    (s.taken before).taken after = s.taken (before ++ after) := by
  simp [taken, String.ofList_append, String.append_assoc, Nat.sub_sub]

/-- A writer with room for a text takes all of it at once. -/
theorem write_of_le {s : Sink} {text : List Char} (htext : text ≠ [])
    (h : text.length ≤ s.room) :
    s.write text = (.ok text.length, s.taken text) := by
  have hpos := List.length_pos_iff.mpr htext
  rw [write, if_neg (by omega), List.take_of_length_le h]
  rfl

theorem writeAll_of_le {s : Sink} {text : List Char}
    (h : text.length ≤ s.room) : s.writeAll text = (.ok (), s.taken text) := by
  cases text with
  | nil => rw [writeAll, taken_nil]
  | cons c cs =>
      have hwrite := write_of_le (List.cons_ne_nil c cs) h
      rw [writeAll]
      split
      · next heq => cases hwrite.symm.trans heq
      · next heq =>
          cases hwrite.symm.trans heq
          rw [List.drop_succ_cons, List.drop_length, writeAll]
      · next heq => cases hwrite.symm.trans heq

/-- A writer with room for some texts takes them one behind the other. -/
theorem writeEach_of_le {s : Sink} {texts : List (List Char)}
    (h : texts.flatten.length ≤ s.room) :
    s.writeEach texts = (.ok (), s.taken texts.flatten) := by
  induction texts generalizing s with
  | nil => rw [writeEach, List.flatten_nil, taken_nil]
  | cons text rest ih =>
      rw [List.flatten_cons, List.length_append] at h
      have htext : s.writeAll text = (.ok (), s.taken text) :=
        writeAll_of_le (by omega)
      have hrest : rest.flatten.length ≤ (s.taken text).room := by
        show _ ≤ s.room - text.length
        omega
      simp only [writeEach, htext]
      rw [ih hrest, taken_taken, List.flatten_cons]

end Sink

/-- A writer with room for a listing takes all of it. -/
theorem Listing.writeTo_of_le {program : List UInt8} {s : Sink}
    (h : (letters program).length ≤ s.room) :
    writeTo program s = (.ok (), s.taken (letters program)) :=
  Sink.writeEach_of_le h

/-! ## The memory of a program -/

namespace Memory

/-- Memory is blank behind the font. -/
theorem getElem_fresh {a : Nat} (ha : a < size)
    (hfont : Font.glyphs.length ≤ a) : fresh.bytes[a] = 0 := by
  have hbehind : Font.start.toNat + Font.glyphs.length ≤ a := by
    show 0 + _ ≤ a
    omega
  show (store (Vector.replicate size 0) Font.start.toNat Font.glyphs)[a] = 0
  rw [getElem_store_of_ge _ _ ha hbehind, Vector.getElem_replicate]

/-- From `0x200` on lie the bytes of the program, and zeros behind them. -/
theorem getElem_loaded_eq_getD {program : List UInt8}
    (h : program.length ≤ programRoom) {j : Nat}
    (hin : programStart.toNat + j < size) :
    (loaded program h).bytes[programStart.toNat + j] = program.getD j 0 := by
  have hfont : Font.glyphs.length ≤ programStart.toNat + j :=
    Nat.le_trans (by decide) (Nat.le_add_right programStart.toNat j)
  show (store fresh.bytes programStart.toNat program)[_] = _
  rw [getElem_store, if_pos (Nat.le_add_right _ _), Nat.add_sub_cancel_left,
    getElem_fresh hin hfont]

/-- So the word that starts at an even distance from there is that of a line. -/
theorem read_loaded {program : List UInt8} (h : program.length ≤ programRoom)
    {k : Nat} (hk : k < (program.length + 1) / 2) {address : UInt16}
    (haddress : address.toNat = programStart.toNat + 2 * k) :
    (loaded program h).read address 2 =
      .ok [program.getD (2 * k) 0, program.getD (2 * k + 1) 0] := by
  have hroom := programStart_add_programRoom
  have hlimit : programRoom = 3584 := rfl
  have hin : address.toNat + 2 ≤ size := by omega
  rw [read, dif_pos hin]
  simp only [List.ofFn_succ, List.ofFn_zero, Fin.val_zero, Fin.val_succ,
    haddress, Nat.add_zero, Nat.zero_add, Nat.add_assoc]
  rw [getElem_loaded_eq_getD h (by omega), getElem_loaded_eq_getD h (by omega)]

/-- An image that is read to its end, and not too long, is loaded. -/
theorem load_fresh {image : List Chunk} {program : List UInt8}
    (himage : Chunk.readAll image = .ok program)
    (h : program.length ≤ programRoom) :
    fresh.load image = .ok (loaded program h) := by
  simp only [load, himage]
  exact loadBytes_fresh h

theorem program_loaded {program : List UInt8}
    (h : program.length ≤ programRoom) :
    (loaded program h).program = program := by
  have hroom := programStart_add_programRoom
  have hinside : programStart.toNat + program.length ≤ size := by omega
  have hbytes := toList_store fresh.bytes hinside
  refine program_of_bytes (m := loaded program h) hbytes ?_ rfl
  rw [List.length_take, Vector.length_toList]
  omega

end Memory

/-- A step finds no instruction exactly if its word is none. -/
theorem Machine.step_eq_unknown_iff {m : Machine} {opcode : UInt16}
    (keys : Keypad) (hword : m.memory.word m.pc = .ok opcode) :
    m.step keys = .error (.unknownInstruction m.pc opcode) ↔
      Instruction.decode opcode = none := by
  cases hdecode : Instruction.decode opcode with
  | none => simp only [step, hword, hdecode]
  | some i =>
      refine iff_of_false (fun h => ?_) (Option.some_ne_none i)
      rw [step_of_decode keys hword hdecode] at h
      split at h <;> cases h

namespace Listing

/-- A machine that is about to run the word of a line does what the line
says. -/
theorem Line.step_eq (l : Line) {m : Machine} (keys : Keypad)
    (hword : m.memory.word m.pc = .ok l.word) :
    (m.step keys = .error (.unknownInstruction m.pc l.word) ↔
        IsRefused l.meaning) ∧
      (¬ IsRefused l.meaning →
        ∃ i, Instruction.decode l.word = some i ∧ l.meaning = i.letters ∧
          m.step keys =
            match m.execute keys i with
            | .error cause => .error (.trap m.pc l.word cause)
            | .ok (flow, after, keys) =>
              .ok ({ after with pc := flow.target m.pc }, keys)) := by
  rw [Machine.step_eq_unknown_iff keys hword, l.isRefused_meaning_iff]
  refine ⟨Iff.rfl, fun hlisted => ?_⟩
  obtain ⟨i, hdecode⟩ := Option.ne_none_iff_exists'.mp hlisted
  exact ⟨i, hdecode, l.meaning_of_decode hdecode,
    Machine.step_of_decode keys hword hdecode⟩

/-- **A listing shows what runs.**  A program of at most 3584 bytes is loaded
into blank memory, and listed from there.  A writer with enough room takes the
listing, which, cut at its line ends, has one line for every two bytes and one
for what is left.  Each shows its address and the two bytes that are fetched as
a word there, in columns of four and two digits that are read as these numbers.
A machine with this memory, and otherwise in any state, that is about to run the
instruction at that address finds that it is none exactly if the line says so;
otherwise it carries out the instruction that the line shows. -/
theorem shows_what_runs (image : List Chunk) (program : List UInt8)
    (himage : Chunk.readAll image = .ok program)
    (hfits : program.length ≤ 3584) :
    ∃ memory, Memory.fresh.load image = .ok memory ∧
      memory.program = program ∧
      (∀ out : Sink, (letters program).length ≤ out.room →
        ∃ left, writeTo memory.program out = (.ok (), left) ∧
          left.accepted = out.accepted ++ text program) ∧
      ((letters program).splitOn '\n').length =
        (program.length + 1) / 2 + 1 ∧
      ∀ k < (program.length + 1) / 2, ∃ address high low meaning,
        address.toNat = 0x200 + 2 * k ∧
        ((letters program).splitOn '\n')[k]? =
          some (Hex.digits 4 (0x200 + 2 * k) ++ ' ' ::
            Hex.digits 2 high.toNat ++ ' ' ::
            Hex.digits 2 low.toNat ++ ' ' :: meaning) ∧
        Hex.Numeral 4 address.toNat (Hex.digits 4 (0x200 + 2 * k)) ∧
        Hex.Numeral 2 high.toNat (Hex.digits 2 high.toNat) ∧
        Hex.Numeral 2 low.toNat (Hex.digits 2 low.toNat) ∧
        memory.read address 2 = .ok [high, low] ∧
        memory.word address = .ok (Word.ofBytes high low) ∧
        ∀ (m : Machine) (keys : Keypad), m.memory = memory → m.pc = address →
          (m.step keys =
              .error (.unknownInstruction address (Word.ofBytes high low)) ↔
            IsRefused meaning) ∧
          (¬ IsRefused meaning →
            ∃ i, Instruction.decode (Word.ofBytes high low) = some i ∧
              meaning = i.letters ∧
              m.step keys =
                match m.execute keys i with
                | .error cause =>
                  .error (.trap address (Word.ofBytes high low) cause)
                | .ok (flow, after, keys) =>
                  .ok ({ after with pc := flow.target address }, keys)) := by
  have hroom := Memory.programStart_add_programRoom
  refine ⟨.loaded program hfits, Memory.load_fresh himage hfits,
    Memory.program_loaded hfits, fun out hout => ?_, ?_, fun k hk => ?_⟩
  · rw [Memory.program_loaded hfits]
    exact ⟨_, writeTo_of_le hout, rfl⟩
  · rw [splitOn_letters, List.length_append, List.length_map, lines,
      length_linesFrom]
    rfl
  have hlimit : 0x200 + 2 * k < 65536 := by omega
  have haddress : (UInt16.ofNat (0x200 + 2 * k)).toNat = 0x200 + 2 * k :=
    UInt16.toNat_ofNat_of_lt' hlimit
  have hread := Memory.read_loaded hfits hk haddress
  have hword := Memory.word_of_read hread
  have hline := getElem?_linesFrom Memory.programStart.toNat program hk
  generalize UInt16.ofNat (0x200 + 2 * k) = address at *
  generalize program.getD (2 * k) 0 = high at *
  generalize program.getD (2 * k + 1) 0 = low at *
  let l : Line := ⟨0x200 + 2 * k, high, low⟩
  have htext : ((letters program).splitOn '\n')[k]? = some l.letters := by
    have hlines : ((lines program).map Line.letters)[k]? =
        some l.letters := by
      rw [List.getElem?_map, lines, hline]
      rfl
    rw [splitOn_letters, List.getElem?_append_left, hlines]
    exact (List.getElem?_eq_some_iff.mp hlines).1
  have hplace : Hex.Numeral 4 address.toNat (Hex.digits 4 (0x200 + 2 * k)) := by
    rw [haddress]
    exact Hex.numeral_digits (by decide) (by omega)
  refine ⟨address, high, low, l.meaning, haddress, htext, hplace,
    Hex.numeral_byte high, Hex.numeral_byte low, hread, hword, ?_⟩
  rintro m keys hmemory rfl
  exact l.step_eq keys (hmemory ▸ hword)

/-- A program of five bytes: a call of machine code, an instruction that clears
the picture, and the first half of another. -/
def oddProgram : List UInt8 :=
  [0x01, 0x23, 0x00, 0xE0, 0x61]

/-- Its last line shows the zero that follows it in memory, and is that of an
instruction. -/
theorem shows_what_runs_odd :
    Chunk.readAll [.data oddProgram] = .ok oddProgram ∧
      oddProgram.length ≤ 3584 ∧
      ∃ memory, Memory.fresh.load [.data oddProgram] = .ok memory ∧
        memory.read 0x204 2 = .ok [0x61, 0x00] ∧
        ((letters oddProgram).splitOn '\n')[2]? =
          some (Hex.digits 4 0x204 ++ ' ' :: Hex.digits 2 0x61 ++ ' ' ::
            Hex.digits 2 0x00 ++ ' ' :: (Instruction.setByte 1 0).letters) ∧
        Hex.Numeral 4 0x204 (Hex.digits 4 0x204) := by
  have himage : Chunk.readAll [.data oddProgram] = .ok oddProgram := rfl
  have hfits : oddProgram.length ≤ 3584 := by decide
  obtain ⟨memory, hload, _, _, _, hlines⟩ :=
    shows_what_runs _ oddProgram himage hfits
  obtain ⟨address, high, low, meaning, haddress, htext, hnumeral, _, _, hread,
    hword, hstep⟩ := hlines 2 (by decide)
  have hmemory := hload.symm.trans (Memory.load_fresh himage hfits)
  have hplace : address = 0x204 := UInt16.toNat_inj.mp haddress
  obtain rfl := Except.ok.inj hmemory
  subst hplace
  have hbytes := hread.symm.trans
    (Memory.read_loaded hfits (k := 2) (by decide) haddress)
  obtain ⟨rfl, hrest⟩ := List.cons.inj (Except.ok.inj hbytes)
  obtain ⟨rfl, _⟩ := List.cons.inj hrest
  have hdecode : Instruction.decode (Word.ofBytes 0x61 0x00) =
      some (.setByte 1 0) := by
    decide
  let m : Machine :=
    { Machine.start (.loaded oddProgram hfits) .standard 0 with pc := 0x204 }
  obtain ⟨hrefused, hlisted⟩ := hstep m {} rfl rfl
  have hunknown := Machine.step_eq_unknown_iff (m := m) {} hword
  obtain ⟨i, hi, hmeaning, _⟩ := hlisted fun h => by
    cases hdecode.symm.trans (hunknown.mp (hrefused.mpr h))
  cases hdecode.symm.trans hi
  exact ⟨himage, hfits, _, hload, hread, hmeaning ▸ htext, hnumeral⟩

end Listing

end Chip8
