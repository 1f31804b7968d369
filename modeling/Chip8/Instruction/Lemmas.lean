import Chip8.Instruction.Basic

/-!
# Instructions and words

Reading and writing words are inverse to each other, so an instruction has
one word, and no two instructions share one.  The fields that an instruction's
word is written from are read back first; what is left is to compare the rows
of the two tables.

## Main results

* `decode_word` — the word of an instruction is read back as that instruction.
* `word_of_decode` — a word that is read as an instruction is its word.
* `word_inj` — no two instructions are written as the same word.
-/

namespace Chip8

/-! ## Fields of written words -/

namespace Fields

/-- The number that a word of a family and twelve bits is. -/
theorem toNat_wordOfPlace (op : Nibble) (nnn : Place) :
    (Instruction.wordOfPlace op nnn).toNat = 4096 * op.val + nnn.val := by
  have hop := op.isLt
  have hnnn := nnn.isLt
  simp only [Instruction.wordOfPlace, UInt16.toNat_ofNat']
  omega

/-- The number that a word of a family, a register and a byte is. -/
theorem toNat_wordOfByte (op : Nibble) (x : Register) (nn : UInt8) :
    (Instruction.wordOfByte op x nn).toNat =
      4096 * op.val + 256 * x.val + nn.toNat := by
  have hop := op.isLt
  have hx := x.isLt
  have hnn := nn.toNat_lt
  simp only [Instruction.wordOfByte, UInt16.toNat_ofNat']
  omega

/-- The number that a word of four nibbles is. -/
theorem toNat_wordOfNibbles (op : Nibble) (x y : Register) (n : Nibble) :
    (Instruction.wordOfNibbles op x y n).toNat =
      4096 * op.val + 256 * x.val + 16 * y.val + n.val := by
  have hop := op.isLt
  have hx := x.isLt
  have hy := y.isLt
  have hn := n.isLt
  simp only [Instruction.wordOfNibbles, UInt16.toNat_ofNat']
  omega

/-- A family and twelve bits are read back. -/
theorem ofWord_wordOfPlace (op : Nibble) (nnn : Place) :
    (ofWord (Instruction.wordOfPlace op nnn)).op = op ∧
      (ofWord (Instruction.wordOfPlace op nnn)).nnn = nnn := by
  have hop := op.isLt
  have hnnn := nnn.isLt
  refine ⟨Fin.ext ?_, Fin.ext ?_⟩ <;>
    simp only [ofWord, toNat_wordOfPlace, Fin.val_ofNat] <;> omega

/-- A family, a register and a byte are read back. -/
theorem ofWord_wordOfByte (op : Nibble) (x : Register) (nn : UInt8) :
    (ofWord (Instruction.wordOfByte op x nn)).op = op ∧
      (ofWord (Instruction.wordOfByte op x nn)).x = x ∧
      (ofWord (Instruction.wordOfByte op x nn)).nn = nn := by
  have hop := op.isLt
  have hx := x.isLt
  have hnn := nn.toNat_lt
  refine ⟨Fin.ext ?_, Fin.ext ?_, UInt8.toNat_inj.mp ?_⟩ <;>
    simp only [ofWord, toNat_wordOfByte, Fin.val_ofNat, UInt8.toNat_ofNat'] <;>
    omega

/-- Four nibbles are read back. -/
theorem ofWord_wordOfNibbles (op : Nibble) (x y : Register) (n : Nibble) :
    (ofWord (Instruction.wordOfNibbles op x y n)).op = op ∧
      (ofWord (Instruction.wordOfNibbles op x y n)).x = x ∧
      (ofWord (Instruction.wordOfNibbles op x y n)).y = y ∧
      (ofWord (Instruction.wordOfNibbles op x y n)).n = n := by
  have hop := op.isLt
  have hx := x.isLt
  have hy := y.isLt
  have hn := n.isLt
  refine ⟨Fin.ext ?_, Fin.ext ?_, Fin.ext ?_, Fin.ext ?_⟩ <;>
    simp only [ofWord, toNat_wordOfNibbles, Fin.val_ofNat] <;> omega

/-! ## Words from their fields -/

/-- A word is its family and its low twelve bits. -/
theorem wordOfPlace_ofWord (w : UInt16) :
    Instruction.wordOfPlace (ofWord w).op (ofWord w).nnn = w := by
  have hw := w.toNat_lt
  apply UInt16.toNat_inj.mp
  simp only [toNat_wordOfPlace, ofWord, Fin.val_ofNat]
  omega

/-- A word is its family, its second nibble and its low byte. -/
theorem wordOfByte_ofWord (w : UInt16) :
    Instruction.wordOfByte (ofWord w).op (ofWord w).x (ofWord w).nn = w := by
  have hw := w.toNat_lt
  apply UInt16.toNat_inj.mp
  simp only [toNat_wordOfByte, ofWord, Fin.val_ofNat, UInt8.toNat_ofNat']
  omega

/-- A word is its four nibbles. -/
theorem wordOfNibbles_ofWord (w : UInt16) :
    Instruction.wordOfNibbles (ofWord w).op (ofWord w).x (ofWord w).y
      (ofWord w).n = w := by
  have hw := w.toNat_lt
  apply UInt16.toNat_inj.mp
  simp only [toNat_wordOfNibbles, ofWord, Fin.val_ofNat]
  omega

end Fields

/-- A nibble that selects an operation is its code. -/
theorem Alu.code_of_ofCode? {n : Nibble} {op : Alu}
    (h : ofCode? n = some op) : op.code = n := by
  revert n op
  decide

/-! ## Reading and writing -/

namespace Instruction

/-- The word of an instruction is read back as that instruction. -/
theorem decode_word (i : Instruction) : decode i.word = some i := by
  cases i with
  | clear => rfl
  | ret => rfl
  | jump t =>
    obtain ⟨hop, hnnn⟩ := Fields.ofWord_wordOfPlace 0x1 t
    simp only [decode, word, hop, hnnn]
    rfl
  | call t =>
    obtain ⟨hop, hnnn⟩ := Fields.ofWord_wordOfPlace 0x2 t
    simp only [decode, word, hop, hnnn]
    rfl
  | setIndex t =>
    obtain ⟨hop, hnnn⟩ := Fields.ofWord_wordOfPlace 0xA t
    simp only [decode, word, hop, hnnn]
    rfl
  | jumpBy t =>
    obtain ⟨hop, hnnn⟩ := Fields.ofWord_wordOfPlace 0xB t
    simp only [decode, word, hop, hnnn]
    rfl
  | skipIfByte x nn =>
    obtain ⟨hop, hx, hnn⟩ := Fields.ofWord_wordOfByte 0x3 x nn
    simp only [decode, word, hop, hx, hnn]
    rfl
  | skipUnlessByte x nn =>
    obtain ⟨hop, hx, hnn⟩ := Fields.ofWord_wordOfByte 0x4 x nn
    simp only [decode, word, hop, hx, hnn]
    rfl
  | setByte x nn =>
    obtain ⟨hop, hx, hnn⟩ := Fields.ofWord_wordOfByte 0x6 x nn
    simp only [decode, word, hop, hx, hnn]
    rfl
  | addByte x nn =>
    obtain ⟨hop, hx, hnn⟩ := Fields.ofWord_wordOfByte 0x7 x nn
    simp only [decode, word, hop, hx, hnn]
    rfl
  | random x nn =>
    obtain ⟨hop, hx, hnn⟩ := Fields.ofWord_wordOfByte 0xC x nn
    simp only [decode, word, hop, hx, hnn]
    rfl
  | skipIfSame x y =>
    obtain ⟨hop, hx, hy, hn⟩ := Fields.ofWord_wordOfNibbles 0x5 x y 0
    simp only [decode, word, hop, hx, hy, hn]
    rfl
  | skipUnlessSame x y =>
    obtain ⟨hop, hx, hy, hn⟩ := Fields.ofWord_wordOfNibbles 0x9 x y 0
    simp only [decode, word, hop, hx, hy, hn]
    rfl
  | alu op x y =>
    obtain ⟨hop, hx, hy, hn⟩ := Fields.ofWord_wordOfNibbles 0x8 x y op.code
    simp only [decode, word, hop, hx, hy, hn, Alu.ofCode?_code]
    rfl
  | draw x y n =>
    obtain ⟨hop, hx, hy, hn⟩ := Fields.ofWord_wordOfNibbles 0xD x y n
    simp only [decode, word, hop, hx, hy, hn]
    rfl
  | skipIfHeld x =>
    obtain ⟨hop, hx, hnn⟩ := Fields.ofWord_wordOfByte 0xE x 0x9E
    simp only [decode, word, hop, hx, hnn]
    rfl
  | skipUnlessHeld x =>
    obtain ⟨hop, hx, hnn⟩ := Fields.ofWord_wordOfByte 0xE x 0xA1
    simp only [decode, word, hop, hx, hnn]
    rfl
  | getDelay x =>
    obtain ⟨hop, hx, hnn⟩ := Fields.ofWord_wordOfByte 0xF x 0x07
    simp only [decode, word, hop, hx, hnn]
    rfl
  | awaitKey x =>
    obtain ⟨hop, hx, hnn⟩ := Fields.ofWord_wordOfByte 0xF x 0x0A
    simp only [decode, word, hop, hx, hnn]
    rfl
  | setDelay x =>
    obtain ⟨hop, hx, hnn⟩ := Fields.ofWord_wordOfByte 0xF x 0x15
    simp only [decode, word, hop, hx, hnn]
    rfl
  | setSound x =>
    obtain ⟨hop, hx, hnn⟩ := Fields.ofWord_wordOfByte 0xF x 0x18
    simp only [decode, word, hop, hx, hnn]
    rfl
  | addIndex x =>
    obtain ⟨hop, hx, hnn⟩ := Fields.ofWord_wordOfByte 0xF x 0x1E
    simp only [decode, word, hop, hx, hnn]
    rfl
  | glyph x =>
    obtain ⟨hop, hx, hnn⟩ := Fields.ofWord_wordOfByte 0xF x 0x29
    simp only [decode, word, hop, hx, hnn]
    rfl
  | storeDecimal x =>
    obtain ⟨hop, hx, hnn⟩ := Fields.ofWord_wordOfByte 0xF x 0x33
    simp only [decode, word, hop, hx, hnn]
    rfl
  | storeRegisters x =>
    obtain ⟨hop, hx, hnn⟩ := Fields.ofWord_wordOfByte 0xF x 0x55
    simp only [decode, word, hop, hx, hnn]
    rfl
  | loadRegisters x =>
    obtain ⟨hop, hx, hnn⟩ := Fields.ofWord_wordOfByte 0xF x 0x65
    simp only [decode, word, hop, hx, hnn]
    rfl

/-- A word that is read as an instruction is the word of that instruction. -/
theorem word_of_decode {w : UInt16} {i : Instruction}
    (h : decode w = some i) : i.word = w := by
  have place (op : Nibble) (hop : (Fields.ofWord w).op.val = op.val) :
      wordOfPlace op (Fields.ofWord w).nnn = w := by
    rw [← Fin.ext hop, Fields.wordOfPlace_ofWord]
  have byte (op : Nibble) (hop : (Fields.ofWord w).op.val = op.val) :
      wordOfByte op (Fields.ofWord w).x (Fields.ofWord w).nn = w := by
    rw [← Fin.ext hop, Fields.wordOfByte_ofWord]
  have selected (op : Nibble) (nn : UInt8)
      (hop : (Fields.ofWord w).op.val = op.val)
      (hnn : (Fields.ofWord w).nn.toNat = nn.toNat) :
      wordOfByte op (Fields.ofWord w).x nn = w := by
    rw [← UInt8.toNat_inj.mp hnn, byte op hop]
  have nibbles (op n : Nibble) (hop : (Fields.ofWord w).op.val = op.val)
      (hn : n = (Fields.ofWord w).n) :
      wordOfNibbles op (Fields.ofWord w).x (Fields.ofWord w).y n = w := by
    rw [← Fin.ext hop, hn, Fields.wordOfNibbles_ofWord]
  simp only [decode] at h
  split at h
  case h_1 hop =>
    split at h
    case h_1 hnnn =>
      cases h
      rw [← place 0x0 hop, Fin.ext (b := 0x0E0) hnnn]
      rfl
    case h_2 hnnn =>
      cases h
      rw [← place 0x0 hop, Fin.ext (b := 0x0EE) hnnn]
      rfl
    case h_3 => cases h
  case h_2 hop => cases h; exact place 0x1 hop
  case h_3 hop => cases h; exact place 0x2 hop
  case h_4 hop => cases h; exact byte 0x3 hop
  case h_5 hop => cases h; exact byte 0x4 hop
  case h_6 hop =>
    split at h
    case isTrue hn => cases h; exact nibbles 0x5 0 hop hn.symm
    case isFalse => cases h
  case h_7 hop => cases h; exact byte 0x6 hop
  case h_8 hop => cases h; exact byte 0x7 hop
  case h_9 hop =>
    obtain ⟨op, hn, rfl⟩ := Option.map_eq_some_iff.mp h
    exact nibbles 0x8 op.code hop (Alu.code_of_ofCode? hn)
  case h_10 hop =>
    split at h
    case isTrue hn => cases h; exact nibbles 0x9 0 hop hn.symm
    case isFalse => cases h
  case h_11 hop => cases h; exact place 0xA hop
  case h_12 hop => cases h; exact place 0xB hop
  case h_13 hop => cases h; exact byte 0xC hop
  case h_14 hop => cases h; exact nibbles 0xD _ hop rfl
  case h_15 hop =>
    split at h <;> cases h <;> exact selected 0xE _ hop ‹_›
  case h_16 hop =>
    split at h <;> cases h <;> exact selected 0xF _ hop ‹_›
  case h_17 => cases h

/-- No two instructions are written as the same word. -/
theorem word_inj {i j : Instruction} : i.word = j.word ↔ i = j := by
  constructor
  · intro h
    have := decode_word i
    rw [h, decode_word j] at this
    exact (Option.some.inj this).symm
  · rintro rfl
    rfl

end Instruction

end Chip8
