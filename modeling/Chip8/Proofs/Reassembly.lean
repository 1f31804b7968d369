import Chip8.Proofs.Assembler

/-!
# A listing can be assembled again

A listing gives back the program that it was made of.  What is listed as an
instruction, or as a call of machine code, is assembled from its text alone;
neither the address nor the bytes in front of it are looked at.  Only where the
line says `UNKNOWN` do its byte columns count.

A program of an odd length comes back with the zero that its last line shows.

## Main results

* `Listing.lineBytes?_congr` — what of a line is looked at.
* `Listing.Line.lineBytes?_letters` — a line gives back its two bytes.
* `Listing.reassemble?_letters` — a listing gives back its program.
* `Listing.reassembles` — what a listing is, and what can be told from it.
-/

namespace Chip8

/-! ## Bytes -/

/-- The byte that two digits stand for. -/
def Hex.byte? (text : List Char) : Option UInt8 :=
  if text.length = 2 then (number? text).map UInt8.ofNat else none

theorem Hex.byte?_digits (b : UInt8) : byte? (digits 2 b.toNat) = some b := by
  obtain ⟨hlength, hnumber⟩ := numeral_byte b
  simp [byte?, hlength, hnumber]

/-- The two bytes of a word. -/
def Word.bytes (w : UInt16) : List UInt8 :=
  [UInt8.ofNat (w.toNat / 256), UInt8.ofNat w.toNat]

theorem Word.bytes_ofBytes (high low : UInt8) :
    bytes (ofBytes high low) = [high, low] := by
  have hhigh : UInt8.ofNat ((ofBytes high low).toNat / 256) = high := by
    have hl := low.toNat_lt
    apply UInt8.toNat_inj.mp
    rw [toNat_ofBytes, UInt8.toNat_ofNat']
    have hh := high.toNat_lt
    omega
  have hlow : UInt8.ofNat (ofBytes high low).toNat = low := by
    have hl := low.toNat_lt
    apply UInt8.toNat_inj.mp
    rw [toNat_ofBytes, UInt8.toNat_ofNat']
    omega
  rw [bytes, hhigh, hlow]

/-- No instruction is called unknown, nor is a call of machine code. -/
theorem Statement.letters_ne_unknown (s : Statement) :
    s.letters ≠ "UNKNOWN".toList := by
  intro h
  have hword := s.firstWord_letters
  rw [h] at hword
  exact s.mnemonic.letters_ne_unknown hword.symm

namespace Listing

/-! ## Columns -/

/-- The lines of a text, each of which has an end. -/
def textLines (text : List Char) : List (List Char) :=
  (text.splitOn '\n').dropLast

/-- A line of four columns. -/
def inColumns (address high low meaning : List Char) : List Char :=
  address ++ ' ' :: high ++ ' ' :: low ++ ' ' :: meaning

/-- What is left of a text behind its first word and a space. -/
def behind (text : List Char) : List Char :=
  text.drop ((firstWord text).length + 1)

theorem behind_append {word rest : List Char} (h : ' ' ∉ word) :
    behind (word ++ ' ' :: rest) = rest := by
  rw [behind, firstWord_append h]
  simp

/-- The bytes that a line of a listing stands for. -/
def lineBytes? (line : List Char) : Option (List UInt8) :=
  let columns := behind line
  let meaning := behind (behind columns)
  if meaning = "UNKNOWN".toList then do
    let high ← Hex.byte? (firstWord columns)
    let low ← Hex.byte? (firstWord (behind columns))
    return [high, low]
  else (assemble? meaning).map Word.bytes

/-- The program that a listing was made of. -/
def reassemble? (text : List Char) : Option (List UInt8) :=
  ((textLines text).mapM lineBytes?).map List.flatten

/-- The text behind the bytes is assembled, unless it says that they are
unknown. -/
theorem lineBytes?_inColumns {address high low : List Char}
    (hspaces : ∀ column ∈ [address, high, low], ' ' ∉ column)
    (meaning : List Char) :
    lineBytes? (inColumns address high low meaning) =
      if meaning = "UNKNOWN".toList then do
        let first ← Hex.byte? high
        let second ← Hex.byte? low
        return [first, second]
      else (assemble? meaning).map Word.bytes := by
  have haddress : ' ' ∉ address := hspaces address (by simp)
  have hhigh : ' ' ∉ high := hspaces high (by simp)
  have hlow : ' ' ∉ low := hspaces low (by simp)
  have hcolumns : behind (inColumns address high low meaning) =
      high ++ ' ' :: (low ++ ' ' :: meaning) := by
    simp only [inColumns, List.append_assoc, List.cons_append]
    exact behind_append haddress
  unfold lineBytes?
  dsimp only
  rw [hcolumns, behind_append hhigh, behind_append hlow,
    firstWord_append hhigh, firstWord_append hlow]

/-- So of a line nothing else is looked at. -/
theorem lineBytes?_congr {address high low address' high' low' : List Char}
    (hspaces : ∀ column ∈ [address, high, low], ' ' ∉ column)
    (hspaces' : ∀ column ∈ [address', high', low'], ' ' ∉ column)
    {meaning : List Char}
    (h : meaning = "UNKNOWN".toList → high = high' ∧ low = low') :
    lineBytes? (inColumns address high low meaning) =
      lineBytes? (inColumns address' high' low' meaning) := by
  rw [lineBytes?_inColumns hspaces, lineBytes?_inColumns hspaces']
  split
  · next hunknown =>
    obtain ⟨rfl, rfl⟩ := h hunknown
    rfl
  · rfl

/-! ## Lines -/

/-- A line that does not say that its word is unknown is assembled to it. -/
theorem Line.assemble?_meaning {l : Line}
    (h : l.meaning ≠ "UNKNOWN".toList) : assemble? l.meaning = some l.word := by
  cases hdecode : Instruction.decode l.word with
  | some i =>
      rw [meaning_of_decode hdecode, Instruction.assemble?_letters,
        Instruction.word_of_decode hdecode]
  | none =>
      rw [meaning_of_decode_eq_none hdecode] at h ⊢
      split
      · next hsys =>
        have hop := (op_eq_zero_iff l.word).mpr hsys
        rw [Statement.assemble?_sys, ← hop, Fields.wordOfPlace_ofWord]
      · next hunknown =>
        rw [if_neg hunknown] at h
        exact absurd rfl h

/-- A line is written in columns, none of which but the last has spaces. -/
theorem Line.letters_eq_inColumns (l : Line) :
    l.letters = inColumns (Hex.digits 4 l.address) (Hex.digits 2 l.high.toNat)
      (Hex.digits 2 l.low.toNat) l.meaning := rfl

theorem Line.space_notMem_columns (l : Line) :
    ∀ column ∈ [Hex.digits 4 l.address, Hex.digits 2 l.high.toNat,
      Hex.digits 2 l.low.toNat], ' ' ∉ column := by
  have hdigits (width n : Nat) : ' ' ∉ Hex.digits width n :=
    Hex.notMem_digits (by decide) width n
  simp [hdigits]

/-- A line gives back its two bytes. -/
theorem Line.lineBytes?_letters (l : Line) :
    lineBytes? l.letters = some [l.high, l.low] := by
  rw [letters_eq_inColumns, lineBytes?_inColumns l.space_notMem_columns]
  split
  · rw [Hex.byte?_digits, Hex.byte?_digits]
    rfl
  · next hmeaning =>
    rw [Line.assemble?_meaning hmeaning, Option.map_some]
    exact congrArg some (Word.bytes_ofBytes l.high l.low)

/-! ## Programs -/

/-- A program with a zero behind it if it has an odd number of bytes. -/
def evened (program : List UInt8) : List UInt8 :=
  program ++ List.replicate (program.length % 2) 0

/-- The lines of a program show its bytes, and a zero where one is missing. -/
theorem flatMap_linesFrom (address : Nat) (program : List UInt8) :
    (linesFrom address program).flatMap (fun l => [l.high, l.low]) =
      evened program := by
  fun_induction linesFrom address program with
  | case1 => rfl
  | case2 => rfl
  | case3 address high low rest ih =>
      have hparity : (rest.length + 2) % 2 = rest.length % 2 :=
        Nat.add_mod_right _ 2
      rw [List.flatMap_cons, ih, evened, evened, List.length_cons,
        List.length_cons, hparity]
      rfl

theorem textLines_letters (program : List UInt8) :
    textLines (letters program) = (lines program).map Line.letters := by
  rw [textLines, splitOn_letters, List.dropLast_concat]

/-- A listing gives back its program. -/
theorem reassemble?_letters (program : List UInt8) :
    reassemble? (letters program) = some (evened program) := by
  have hlines : ((lines program).map Line.letters).mapM lineBytes? =
      some ((lines program).map fun l => [l.high, l.low]) :=
    mapM_map_eq_some fun l _ => l.lineBytes?_letters
  rw [reassemble?, textLines_letters, hlines, Option.map_some,
    ← List.flatMap_def]
  exact congrArg some (flatMap_linesFrom _ _)

/-- Each line starts with its address, which is not bounded by the memory. -/
theorem getElem?_textLines {program : List UInt8} {k : Nat}
    (hk : k < (program.length + 1) / 2) :
    ∃ address high low meaning,
      (textLines (letters program))[k]? =
        some (inColumns address high low meaning) ∧
      (∀ column ∈ [address, high, low], ' ' ∉ column) ∧
      4 ≤ address.length ∧ Hex.number? address = some (0x200 + 2 * k) := by
  have hline := getElem?_linesFrom Memory.programStart.toNat program hk
  rw [textLines_letters, List.getElem?_map, lines, hline, Option.map_some]
  generalize program.getD (2 * k) 0 = high
  generalize program.getD (2 * k + 1) 0 = low
  let l : Line := ⟨0x200 + 2 * k, high, low⟩
  exact ⟨_, _, _, _, congrArg some l.letters_eq_inColumns,
    l.space_notMem_columns, Hex.le_length_digits _ _, Hex.number?_digits _ _⟩

/-- Programs of one length that are listed alike are the same. -/
theorem eq_of_letters_eq {program other : List UInt8}
    (hlength : other.length = program.length)
    (h : letters other = letters program) : other = program := by
  have hread := reassemble?_letters other
  rw [h, reassemble?_letters] at hread
  exact (List.append_inj_left (Option.some.inj hread) hlength.symm).symm

/-- **A listing can be assembled again.**  A program of any length is listed.

* A writer with enough room takes the listing.
* It has one line for every two bytes, and one for what is left.  Each starts
  with its address, in at least four digits.
* Its lines, assembled one by one, give back the program, with a zero behind it
  if it has an odd number of bytes.
* What a line gives back does not depend on the address and the bytes in front
  of it, but for the bytes where it says that they are unknown.
* No two words are shown as the same instruction.
* No other program of the same length has this listing. -/
theorem reassembles (program : List UInt8) :
    (∀ out : Sink, (letters program).length ≤ out.room →
      ∃ left, writeTo program out = (.ok (), left) ∧
        left.accepted = out.accepted ++ String.ofList (letters program)) ∧
    (textLines (letters program)).length = (program.length + 1) / 2 ∧
    (∀ k < (program.length + 1) / 2, ∃ address high low meaning,
      (textLines (letters program))[k]? =
        some (inColumns address high low meaning) ∧
      (∀ column ∈ [address, high, low], ' ' ∉ column) ∧
      4 ≤ address.length ∧ Hex.number? address = some (0x200 + 2 * k)) ∧
    reassemble? (letters program) =
      some (program ++ List.replicate (program.length % 2) 0) ∧
    (∀ address high low address' high' low' meaning : List Char,
      (∀ column ∈ [address, high, low], ' ' ∉ column) →
        (∀ column ∈ [address', high', low'], ' ' ∉ column) →
        (meaning = "UNKNOWN".toList → high = high' ∧ low = low') →
          lineBytes? (inColumns address high low meaning) =
            lineBytes? (inColumns address' high' low' meaning)) ∧
    (∀ (w w' : UInt16) (i i' : Instruction),
      Instruction.decode w = some i → Instruction.decode w' = some i' →
        i.assembly = i'.assembly → w = w') ∧
    ∀ other : List UInt8, other.length = program.length →
      letters other = letters program → other = program := by
  refine ⟨?_, ?_, ?_, reassemble?_letters program, ?_, ?_, ?_⟩
  · intro out hroom
    exact ⟨_, writeTo_of_le hroom, rfl⟩
  · rw [textLines_letters, List.length_map]
    exact length_linesFrom _ _
  · intro k hk
    exact getElem?_textLines hk
  · intro address high low address' high' low' meaning hspaces hspaces' h
    exact lineBytes?_congr hspaces hspaces' h
  · intro w w' i i' hw hw' hassembly
    have hletters : i.letters = i'.letters := String.ofList_injective hassembly
    have hassemble := i.assemble?_letters
    rw [hletters, i'.assemble?_letters] at hassemble
    rw [← Instruction.word_of_decode hw, ← Instruction.word_of_decode hw']
    exact (Option.some.inj hassemble).symm
  · intro other hlength h
    exact eq_of_letters_eq hlength h

/-- A program of seven bytes: an instruction that waits for a key, a word that is
none, a call of machine code, and the first half of another instruction. -/
def mixedProgram : List UInt8 :=
  [0xF3, 0x0A, 0xFF, 0xFF, 0x01, 0x23, 0x61]

/-- It comes back with the zero that its last line shows.  That line would give
back the same bytes with any others in front of it, and a program that loads
registers where this one waits has another listing. -/
theorem reassembles_mixed :
    (textLines (letters mixedProgram)).length = 4 ∧
      (∃ address high low meaning,
        (textLines (letters mixedProgram))[3]? =
          some (inColumns address high low meaning) ∧
        Hex.number? address = some 0x206) ∧
      reassemble? (letters mixedProgram) =
        some [0xF3, 0x0A, 0xFF, 0xFF, 0x01, 0x23, 0x61, 0x00] ∧
      lineBytes? (inColumns "0206".toList "61".toList "00".toList
          "LD         V1, 00".toList) =
        lineBytes? (inColumns "0300".toList "ab".toList "cd".toList
          "LD         V1, 00".toList) ∧
      letters (0xF3 :: 0x65 :: mixedProgram.drop 2) ≠ letters mixedProgram := by
  obtain ⟨_, hlength, hlines, hread, hcolumns, _, honly⟩ :=
    reassembles mixedProgram
  obtain ⟨address, high, low, meaning, hline, _, _, haddress⟩ :=
    hlines 3 (by decide)
  refine ⟨hlength, ⟨address, high, low, meaning, hline, haddress⟩, hread, ?_, ?_⟩
  · exact hcolumns _ _ _ _ _ _ _ (by decide) (by decide) (by decide)
  · intro hsame
    exact absurd (honly _ (by decide) hsame) (by decide)

end Listing

end Chip8
