import Chip8.Proofs.Listing

/-!
# Reading assembly text

The text of an instruction can be read back.  Its first word is the mnemonic,
and the operands are what is left between commas; spaces only fill columns.

Several instructions share a mnemonic, and `LD` alone has eleven shapes, so
everything rests on the operands.  Numbers are written in lower case and names
in upper case: `f` is a nibble where `F` is the glyph of a digit, and `b` is one
where `B` stands for decimal digits.  What kind of number one is follows from
its width, since every field is written with as many digits as it can need.

The assembler refuses what no instruction is written as.  It knows the calls of
machine code too, which a listing shows as `SYS`.

## Main results

* `Operand.ofLetters?_letters`, `Statement.ofLetters?_letters` — operands and
  statements are read back.
* `Instruction.ofStatement?_statement` — no two instructions are stated alike.
* `Instruction.assemble?_letters` — the text of an instruction stands for the
  word of that instruction.
-/

namespace Chip8

/-! ## Operands -/

namespace Operand

/-- The operands that are written as a name. -/
def named : List Operand :=
  [.index, .atIndex, .delay, .sound, .key, .glyph, .decimal]

/-- The operand that a text stands for. -/
def ofLetters? (text : List Char) : Option Operand :=
  match Hex.number? text with
  | some n =>
    match text.length with
    | 1 => some (.nibble (Fin.ofNat 16 n))
    | 2 => some (.byte (UInt8.ofNat n))
    | 3 => some (.place (Fin.ofNat 4096 n))
    | _ => none
  | none =>
    match text with
    | ['V', d] => (Hex.digitValue? d).map fun n => .register (Fin.ofNat 16 n)
    | _ => named.find? (·.letters = text)

/-- An operand is read back from its text. -/
theorem ofLetters?_letters (o : Operand) : ofLetters? o.letters = some o := by
  cases o with
  | register x =>
      have hone : Hex.digits 1 x.val = [Nat.digitChar x.val] := by
        rw [Hex.digits, if_pos x.isLt]
        rfl
      have hname : Hex.number? ['V', Nat.digitChar x.val] = none :=
        Hex.number?_cons_eq_none (by decide) _
      simp only [letters, hone, ofLetters?, hname,
        Hex.digitValue?_digitChar x.isLt, Option.map_some]
      simp
  | nibble n =>
      have hlength : (Hex.digits 1 n.val).length = 1 :=
        Hex.length_digits_of_lt (by decide) n.isLt
      simp only [letters, ofLetters?, Hex.number?_digits, hlength]
      simp
  | byte nn =>
      have hlength : (Hex.digits 2 nn.toNat).length = 2 :=
        Hex.length_digits_of_lt (by decide) nn.toNat_lt
      simp only [letters, ofLetters?, Hex.number?_digits, hlength]
      simp
  | place nnn =>
      have hlength : (Hex.digits 3 nnn.val).length = 3 :=
        Hex.length_digits_of_lt (by decide) nnn.isLt
      simp only [letters, ofLetters?, Hex.number?_digits, hlength]
      simp
  | index => decide
  | atIndex => decide
  | delay => decide
  | sound => decide
  | key => decide
  | glyph => decide
  | decimal => decide

theorem letters_ne_nil (o : Operand) : o.letters ≠ [] := by
  intro h
  have hread := o.ofLetters?_letters
  rw [h] at hread
  simp [ofLetters?, Hex.number?] at hread

/-- What stands between operands stands in none. -/
theorem notMem_letters {c : Char} (hc : c = ' ' ∨ c = ',') (o : Operand) :
    c ∉ o.letters := by
  have hdigit : Hex.digitValue? c = none := by
    rcases hc with rfl | rfl <;> decide
  cases o with
  | register x =>
      intro h
      rcases List.mem_cons.mp h with hv | hx
      · rcases hc with rfl | rfl <;> exact absurd hv (by decide)
      · exact Hex.notMem_digits hdigit _ _ hx
  | byte nn => exact Hex.notMem_digits hdigit _ _
  | nibble n => exact Hex.notMem_digits hdigit _ _
  | place nnn => exact Hex.notMem_digits hdigit _ _
  | _ => rcases hc with rfl | rfl <;> decide

end Operand

/-! ## Statements -/

/-- A row of texts that can be read one by one is read as a whole. -/
theorem mapM_map_eq_some {α β γ : Type} {read : β → Option γ} {write : α → β}
    {value : α → γ} {members : List α}
    (h : ∀ a ∈ members, read (write a) = some (value a)) :
    (members.map write).mapM read = some (members.map value) := by
  induction members with
  | nil => rfl
  | cons a rest ih =>
      have hrest := ih fun b hb => h b (List.mem_cons_of_mem a hb)
      rw [List.map_cons, List.mapM_cons, h a List.mem_cons_self]
      simp [hrest]

namespace Mnemonic

/-- All mnemonics. -/
def all : List Mnemonic :=
  [.cls, .ret, .jp, .call, .se, .sne, .ld, .add, .or, .and, .xor, .sub, .shr,
    .subn, .shl, .rnd, .drw, .skp, .sknp, .sys]

/-- The mnemonic that a text stands for. -/
def ofLetters? (text : List Char) : Option Mnemonic :=
  all.find? (·.letters = text)

/-- A mnemonic is read back from its text. -/
theorem ofLetters?_letters (m : Mnemonic) : ofLetters? m.letters = some m := by
  cases m <;> decide

end Mnemonic

namespace Statement

/-- The texts between commas.  Spaces do not count. -/
def operandTexts (text : List Char) : List (List Char) :=
  let packed := text.filter (· ≠ ' ')
  if packed.isEmpty then [] else packed.splitOn ','

/-- The statement that a text stands for. -/
def ofLetters? (text : List Char) : Option Statement := do
  let name := Listing.firstWord text
  let mnemonic ← Mnemonic.ofLetters? name
  let operands ← (operandTexts (text.drop name.length)).mapM Operand.ofLetters?
  return ⟨mnemonic, operands⟩

/-- Without spaces, only commas are left between the parts. -/
theorem filter_intercalate {parts : List (List Char)}
    (hparts : ∀ part ∈ parts, ' ' ∉ part) :
    (", ".toList.intercalate parts).filter (· ≠ ' ') =
      [','].intercalate parts := by
  have hkeep {part : List Char} (h : ' ' ∉ part) :
      part.filter (· ≠ ' ') = part := by
    rw [List.filter_eq_self]
    intro c hc
    exact decide_eq_true fun heq => h (heq ▸ hc)
  induction parts with
  | nil => rfl
  | cons part rest ih =>
      have hpart := hkeep (hparts part List.mem_cons_self)
      have hrest := ih fun other hother =>
        hparts other (List.mem_cons_of_mem part hother)
      cases rest with
      | nil => simpa using hpart
      | cons next rest =>
          rw [List.intercalate_cons_cons, List.intercalate_cons_cons,
            List.filter_append, List.filter_append, hpart, hrest]
          rfl

/-- Behind the mnemonic stand the operands. -/
theorem filter_drop_letters (s : Statement) :
    (s.letters.drop s.mnemonic.letters.length).filter (· ≠ ' ') =
      [','].intercalate (s.operands.map Operand.letters) := by
  have hparts : ∀ part ∈ s.operands.map Operand.letters, ' ' ∉ part := by
    intro part hpart
    obtain ⟨o, _, rfl⟩ := List.mem_map.mp hpart
    exact o.notMem_letters (.inl rfl)
  rw [← filter_intercalate hparts]
  unfold letters
  dsimp only
  split
  · next hempty =>
    rw [List.isEmpty_iff.mp hempty]
    simp [Column.left]
  · simp [Column.left]

/-- So the texts of the operands are found. -/
theorem operandTexts_letters (s : Statement) :
    operandTexts (s.letters.drop s.mnemonic.letters.length) =
      s.operands.map Operand.letters := by
  unfold operandTexts
  rw [filter_drop_letters]
  dsimp only
  cases hoperands : s.operands with
  | nil => rfl
  | cons o rest =>
      have hne : [','].intercalate ((o :: rest).map Operand.letters) ≠ [] := by
        have ho := o.letters_ne_nil
        cases rest with
        | nil => simpa using ho
        | cons next rest => simp [List.intercalate_cons_cons, ho]
      rw [if_neg (by simpa using hne), List.splitOn_intercalate]
      · intro part hpart
        obtain ⟨other, _, rfl⟩ := List.mem_map.mp hpart
        exact other.notMem_letters (.inr rfl)
      · simp

/-- A statement is read back from its text. -/
theorem ofLetters?_letters (s : Statement) : ofLetters? s.letters = some s := by
  have hoperands : (s.operands.map Operand.letters).mapM Operand.ofLetters? =
      some s.operands := by
    rw [mapM_map_eq_some fun o _ => o.ofLetters?_letters, List.map_id']
  unfold ofLetters?
  rw [firstWord_letters]
  dsimp only
  rw [Mnemonic.ofLetters?_letters, operandTexts_letters, hoperands]
  rfl

end Statement

/-! ## Instructions -/

namespace Instruction

/-- The instruction that is stated so. -/
def ofStatement? : Statement → Option Instruction
  | ⟨.cls, []⟩ => some clear
  | ⟨.ret, []⟩ => some ret
  | ⟨.jp, [.place target]⟩ => some (jump target)
  | ⟨.jp, [.register x, .place base]⟩ =>
    if x = 0 then some (jumpBy base) else none
  | ⟨.call, [.place target]⟩ => some (call target)
  | ⟨.se, [.register x, .byte nn]⟩ => some (skipIfByte x nn)
  | ⟨.se, [.register x, .register y]⟩ => some (skipIfSame x y)
  | ⟨.sne, [.register x, .byte nn]⟩ => some (skipUnlessByte x nn)
  | ⟨.sne, [.register x, .register y]⟩ => some (skipUnlessSame x y)
  | ⟨.ld, [.register x, .byte nn]⟩ => some (setByte x nn)
  | ⟨.ld, [.register x, .register y]⟩ => some (alu .copy x y)
  | ⟨.ld, [.register x, .delay]⟩ => some (getDelay x)
  | ⟨.ld, [.register x, .key]⟩ => some (awaitKey x)
  | ⟨.ld, [.register x, .atIndex]⟩ => some (loadRegisters x)
  | ⟨.ld, [.index, .place target]⟩ => some (setIndex target)
  | ⟨.ld, [.delay, .register x]⟩ => some (setDelay x)
  | ⟨.ld, [.sound, .register x]⟩ => some (setSound x)
  | ⟨.ld, [.glyph, .register x]⟩ => some (glyph x)
  | ⟨.ld, [.decimal, .register x]⟩ => some (storeDecimal x)
  | ⟨.ld, [.atIndex, .register x]⟩ => some (storeRegisters x)
  | ⟨.add, [.register x, .byte nn]⟩ => some (addByte x nn)
  | ⟨.add, [.register x, .register y]⟩ => some (alu .add x y)
  | ⟨.add, [.index, .register x]⟩ => some (addIndex x)
  | ⟨.or, [.register x, .register y]⟩ => some (alu .or x y)
  | ⟨.and, [.register x, .register y]⟩ => some (alu .and x y)
  | ⟨.xor, [.register x, .register y]⟩ => some (alu .xor x y)
  | ⟨.sub, [.register x, .register y]⟩ => some (alu .sub x y)
  | ⟨.shr, [.register x, .register y]⟩ => some (alu .shiftRight x y)
  | ⟨.subn, [.register x, .register y]⟩ => some (alu .subFrom x y)
  | ⟨.shl, [.register x, .register y]⟩ => some (alu .shiftLeft x y)
  | ⟨.rnd, [.register x, .byte nn]⟩ => some (random x nn)
  | ⟨.drw, [.register x, .register y, .nibble n]⟩ => some (draw x y n)
  | ⟨.skp, [.register x]⟩ => some (skipIfHeld x)
  | ⟨.sknp, [.register x]⟩ => some (skipUnlessHeld x)
  | _ => none

/-- No two instructions are stated alike. -/
theorem ofStatement?_statement (i : Instruction) :
    ofStatement? i.statement = some i := by
  cases i with
  | alu op x y => cases op <;> rfl
  | _ => rfl

end Instruction

/-- The word that a statement stands for. -/
def Statement.word? : Statement → Option UInt16
  | ⟨.sys, [.place nnn]⟩ => some (Instruction.wordOfPlace 0 nnn)
  | s => (Instruction.ofStatement? s).map Instruction.word

/-- The word that an assembly text stands for. -/
def assemble? (text : List Char) : Option UInt16 :=
  (Statement.ofLetters? text).bind Statement.word?

/-- The text of an instruction stands for its word. -/
theorem Instruction.assemble?_letters (i : Instruction) :
    assemble? i.letters = some i.word := by
  have hword : i.statement.word? =
      (ofStatement? i.statement).map Instruction.word := by
    unfold Statement.word?
    split
    · next heq => exact absurd (congrArg Statement.mnemonic heq) i.mnemonic_ne_sys
    · rfl
  unfold assemble? letters
  rw [Statement.ofLetters?_letters, Option.bind_some, hword,
    ofStatement?_statement, Option.map_some]

/-- So does the text of a call of machine code. -/
theorem Statement.assemble?_sys (nnn : Place) :
    assemble? (Statement.mk .sys [.place nnn]).letters =
      some (Instruction.wordOfPlace 0 nnn) := by
  unfold assemble?
  rw [ofLetters?_letters]
  rfl

end Chip8
