import Chip8.Proofs.Listing
import Mathlib.Algebra.GroupWithZero.Nat

/-!
# A listing that does not fit

A writer takes as much as it has room for, and may fail after that, once, in a
way of its own; from then on it takes nothing.  Whoever writes to it goes on with
what is left of a text when only a part was taken, tries again after an
interruption, and gives up when nothing is taken.  So what arrives is as much of
the whole as there is room for, wherever the cut falls, and how writing ends can
be told from the room and the failure alone.

To see that nobody writes on after that, the writes are watched: a listing that
is watched is written as it is otherwise, and the writes that were made are told
by their answers.

## Main results

* `Sink.watchAll_snd`, `Sink.watchEach_snd` — being watched makes no difference.
* `Sink.watchEach_of_le`, `Sink.watchEach_of_lt` — texts that fit a writer, and
  texts that do not.
* `Listing.cut_short` — what becomes of a listing.
-/

namespace Chip8

namespace Sink

/-! ## Watching -/

/-- Writes all of a text, or fails, and tells the answers to all writes that
were made. -/
def watchAll (s : Sink) (text : List Char) :
    List (Except IoError Nat) × Except IoError Unit × Sink :=
  match text with
  | [] => ([], .ok (), s)
  | c :: cs =>
    match h : s.write (c :: cs) with
    | (.ok 0, t) => ([.ok 0], .error .wroteNothing, t)
    | (.ok (n + 1), t) =>
      let later := t.watchAll ((c :: cs).drop (n + 1))
      (.ok (n + 1) :: later.1, later.2)
    | (.error e, t) =>
      if e.isInterrupted then
        let later := t.watchAll (c :: cs)
        (.error e :: later.1, later.2)
      else ([.error e], .error e, t)
termination_by (text.length, s.failuresLeft)
decreasing_by
  · exact Prod.Lex.left _ _ (by rw [List.length_drop, List.length_cons]; omega)
  · exact Prod.Lex.right _ (failuresLeft_write_lt h)

/-- Writes texts one after the other, and tells the answers to all writes. -/
def watchEach (s : Sink) : List (List Char) →
    List (Except IoError Nat) × Except IoError Unit × Sink
  | [] => ([], .ok (), s)
  | text :: rest =>
    match s.watchAll text with
    | (answers, .ok (), t) =>
      let later := t.watchEach rest
      (answers ++ later.1, later.2)
    | (answers, .error e, t) => (answers, .error e, t)

/-- A text that is watched is written as it is otherwise. -/
theorem watchAll_snd (s : Sink) (text : List Char) :
    (s.watchAll text).2 = s.writeAll text := by
  fun_induction writeAll s text with
  | case1 s => rw [watchAll]
  | case2 s c cs t h =>
      rw [watchAll]
      split <;> next heq => cases h.symm.trans heq <;> rfl
  | case3 s c cs n t h ih =>
      rw [watchAll]
      split <;> next heq => cases h.symm.trans heq <;> exact ih
  | case4 s c cs e t h hinterrupted ih =>
      rw [watchAll]
      split <;> next heq => cases h.symm.trans heq <;> simp [hinterrupted, ih]
  | case5 s c cs e t h hfinal =>
      rw [watchAll]
      split <;> next heq => cases h.symm.trans heq <;> simp [hfinal]

theorem watchEach_snd (s : Sink) (texts : List (List Char)) :
    (s.watchEach texts).2 = s.writeEach texts := by
  induction texts generalizing s with
  | nil => rfl
  | cons text rest ih =>
      have htext := s.watchAll_snd text
      rw [watchEach, writeEach, ← htext]
      obtain ⟨answers, outcome, t⟩ := s.watchAll text
      cases outcome with
      | ok _ => exact ih t
      | error e => rfl

/-! ## One text -/

/-- How writing ends when there is no more room. -/
def shortage (s : Sink) : IoError :=
  match s.failure with
  | some e =>
    if e.kind = .interrupted then ⟨.writeZero, "failed to write whole buffer"⟩
    else e
  | none => ⟨.writeZero, "failed to write whole buffer"⟩

/-- The answers to the last writes that are made then. -/
def lastAnswers (s : Sink) : List (Except IoError Nat) :=
  match s.failure with
  | some e =>
    if e.kind = .interrupted then [.error e, .ok 0] else [.error e]
  | none => [.ok 0]

/-- A writer that has taken of a text what it had room for, and has failed. -/
def exhausted (s : Sink) (text : List Char) : Sink :=
  { s.taken (text.take s.room) with room := 0, failure := none }

/-- How writing a text ends, and what becomes of the writer. -/
def ending (s : Sink) (text : List Char) : Except IoError Unit × Sink :=
  if text.length ≤ s.room then (.ok (), s.taken text)
  else (.error s.shortage, s.exhausted text)

variable {s : Sink}

theorem watchAll_nil (s : Sink) : s.watchAll [] = ([], .ok (), s) := by
  rw [watchAll]

theorem watchAll_of_write_zero {text : List Char} {t : Sink} (htext : text ≠ [])
    (h : s.write text = (.ok 0, t)) :
    s.watchAll text = ([.ok 0], .error .wroteNothing, t) := by
  obtain ⟨c, cs, rfl⟩ := List.exists_cons_of_ne_nil htext
  rw [watchAll]
  split <;> next heq => cases h.symm.trans heq <;> rfl

theorem watchAll_of_write {text : List Char} {t : Sink} {n : Nat}
    (htext : text ≠ []) (hn : 0 < n) (h : s.write text = (.ok n, t)) :
    s.watchAll text =
      (.ok n :: (t.watchAll (text.drop n)).1, (t.watchAll (text.drop n)).2) := by
  obtain ⟨c, cs, rfl⟩ := List.exists_cons_of_ne_nil htext
  obtain ⟨n, rfl⟩ := Nat.exists_eq_add_one_of_ne_zero (Nat.ne_of_gt hn)
  rw [watchAll]
  split <;> next heq => cases h.symm.trans heq <;> rfl

theorem watchAll_of_write_error {text : List Char} {t : Sink} {e : IoError}
    (htext : text ≠ []) (h : s.write text = (.error e, t)) :
    s.watchAll text =
      if e.isInterrupted then
        (.error e :: (t.watchAll text).1, (t.watchAll text).2)
      else ([.error e], .error e, t) := by
  obtain ⟨c, cs, rfl⟩ := List.exists_cons_of_ne_nil htext
  rw [watchAll]
  split <;> next heq => cases h.symm.trans heq <;> rfl

/-- Writes each of which took something, and how much all of them took. -/
structure Took (takes : List Nat) (total : Nat) : Prop where
  pos : ∀ n ∈ takes, 0 < n
  sum : takes.sum = total

theorem Took.nil : Took [] 0 :=
  ⟨nofun, rfl⟩

theorem Took.singleton {n : Nat} (h : 0 < n) : Took [n] n :=
  ⟨by simpa using h, List.sum_singleton⟩

theorem Took.append {first rest : List Nat} {m n : Nat} (hfirst : Took first m)
    (hrest : Took rest n) : Took (first ++ rest) (m + n) :=
  ⟨List.forall_mem_append.mpr ⟨hfirst.pos, hrest.pos⟩, by
    rw [List.sum_append, hfirst.sum, hrest.sum]⟩

/-- A text that fits is taken at once. -/
theorem watchAll_of_le {text : List Char} (h : text.length ≤ s.room) :
    ∃ takes, Took takes text.length ∧
      s.watchAll text = (takes.map .ok, .ok (), s.taken text) := by
  by_cases htext : text = []
  · subst htext
    exact ⟨[], .nil, by rw [watchAll_nil, taken_nil]; rfl⟩
  · have hpos := List.length_pos_iff.mpr htext
    refine ⟨[text.length], .singleton hpos, ?_⟩
    rw [watchAll_of_write htext hpos (write_of_le htext h), List.drop_length,
      watchAll_nil]
    rfl

/-- A writer without room takes nothing, and fails if it is to fail. -/
theorem watchAll_of_room_eq_zero {text : List Char} (htext : text ≠ [])
    (h : s.room = 0) :
    s.watchAll text =
      (s.lastAnswers, .error s.shortage, { s with failure := none }) := by
  have hzero {t : Sink} (hroom : t.room = 0) (hfailure : t.failure = none) :
      t.watchAll text = ([.ok 0], .error .wroteNothing, t) := by
    refine watchAll_of_write_zero htext ?_
    simp only [write, hroom, hfailure, if_true]
  cases hfailure : s.failure with
  | none =>
      rw [hzero h hfailure, lastAnswers, shortage, hfailure]
      congr
      rw [← hfailure]
  | some e =>
      have hwrite : s.write text = (.error e, { s with failure := none }) := by
        simp only [write, h, hfailure, if_true]
      rw [watchAll_of_write_error htext hwrite,
        hzero (t := { s with failure := none }) h rfl, lastAnswers, shortage,
        hfailure]
      by_cases hkind : e.kind = .interrupted
      · simp [IoError.isInterrupted, hkind, IoError.wroteNothing]
      · simp [IoError.isInterrupted, hkind]

/-- A text that does not fit is taken as far as it does. -/
theorem watchAll_of_lt {text : List Char} (h : s.room < text.length) :
    ∃ takes, Took takes s.room ∧
      s.watchAll text =
        (takes.map .ok ++ s.lastAnswers, .error s.shortage,
          s.exhausted text) := by
  have htext : text ≠ [] := by
    rintro rfl
    cases h
  rcases Nat.eq_zero_or_pos s.room with hroom | hroom
  · refine ⟨[], hroom ▸ .nil, ?_⟩
    rw [watchAll_of_room_eq_zero htext hroom, exhausted, hroom, List.take_zero,
      taken_nil]
    simp
  · -- One write takes all there is room for; the next one finds none.
    have hlength : (text.take s.room).length = s.room := by
      rw [List.length_take]
      omega
    have hwrite : s.write text = (.ok s.room, s.taken (text.take s.room)) := by
      simp only [write, taken, hlength]
      exact if_neg (Nat.ne_of_gt hroom)
    have hleft : text.drop s.room ≠ [] := by
      rw [Ne, List.drop_eq_nil_iff]
      omega
    have hnone : (s.taken (text.take s.room)).room = 0 := by
      simp only [taken, hlength, Nat.sub_self]
    refine ⟨[s.room], .singleton hroom, ?_⟩
    rw [watchAll_of_write htext hroom hwrite,
      watchAll_of_room_eq_zero hleft hnone]
    simp only [exhausted, taken, hlength, Nat.sub_self]
    rfl

/-! ## Texts -/

theorem watchEach_of_ok {text : List Char} {rest : List (List Char)}
    {answers : List (Except IoError Nat)} {t : Sink}
    (h : s.watchAll text = (answers, .ok (), t)) :
    s.watchEach (text :: rest) =
      (answers ++ (t.watchEach rest).1, (t.watchEach rest).2) := by
  simp only [watchEach, h]

theorem watchEach_of_error {text : List Char} {rest : List (List Char)}
    {answers : List (Except IoError Nat)} {e : IoError} {t : Sink}
    (h : s.watchAll text = (answers, .error e, t)) :
    s.watchEach (text :: rest) = (answers, .error e, t) := by
  simp only [watchEach, h]

/-- A writer with room for some texts takes all of them. -/
theorem watchEach_of_le {texts : List (List Char)}
    (h : texts.flatten.length ≤ s.room) :
    ∃ takes, Took takes texts.flatten.length ∧
      s.watchEach texts = (takes.map .ok, .ok (), s.taken texts.flatten) := by
  induction texts generalizing s with
  | nil => exact ⟨[], .nil, by rw [List.flatten_nil, taken_nil]; rfl⟩
  | cons text rest ih =>
      rw [List.flatten_cons, List.length_append] at h ⊢
      have hrest : rest.flatten.length ≤ (s.taken text).room := by
        show _ ≤ s.room - text.length
        omega
      have hfits : text.length ≤ s.room := by omega
      obtain ⟨first, hfirst, htext⟩ := watchAll_of_le hfits
      obtain ⟨later, hlater, hwatch⟩ := ih hrest
      refine ⟨first ++ later, hfirst.append hlater, ?_⟩
      rw [watchEach_of_ok htext, hwatch, List.map_append, taken_taken]

/-- Texts that do not fit are taken as far as they do, wherever one of them
ends, and nobody writes on after that. -/
theorem watchEach_of_lt {texts : List (List Char)}
    (h : s.room < texts.flatten.length) :
    ∃ takes, Took takes s.room ∧
      s.watchEach texts =
        (takes.map .ok ++ s.lastAnswers, .error s.shortage,
          s.exhausted texts.flatten) := by
  induction texts generalizing s with
  | nil => cases h
  | cons text rest ih =>
      rw [List.flatten_cons] at h ⊢
      by_cases hfits : text.length ≤ s.room
      · rw [List.length_append] at h
        have hrest : (s.taken text).room < rest.flatten.length := by
          show s.room - text.length < _
          omega
        obtain ⟨first, hfirst, htext⟩ := watchAll_of_le hfits
        obtain ⟨later, hlater, hwatch⟩ := ih hrest
        have hroom : text.length + (s.taken text).room = s.room :=
          Nat.add_sub_cancel' hfits
        have hexhausted : (s.taken text).exhausted rest.flatten =
            s.exhausted (text ++ rest.flatten) := by
          have htake : (text ++ rest.flatten).take s.room =
              text ++ rest.flatten.take (s.taken text).room := by
            rw [List.take_append, List.take_of_length_le hfits]
            rfl
          rw [exhausted, exhausted, taken_taken, htake]
        refine ⟨first ++ later, hroom ▸ hfirst.append hlater, ?_⟩
        rw [watchEach_of_ok htext, hwatch, hexhausted, List.map_append,
          List.append_assoc]
        rfl
      · have hcut : s.room < text.length := Nat.lt_of_not_le hfits
        obtain ⟨takes, htakes, htext⟩ := watchAll_of_lt hcut
        have hexhausted : s.exhausted text =
            s.exhausted (text ++ rest.flatten) := by
          rw [exhausted, exhausted,
            List.take_append_of_le_length (Nat.le_of_lt hcut)]
        exact ⟨takes, htakes, by rw [watchEach_of_error htext, hexhausted]⟩

/-- So it makes no difference what the pieces of the whole are. -/
theorem watchEach_eq (s : Sink) (texts : List (List Char)) :
    ∃ takes, Took takes (min s.room texts.flatten.length) ∧
      s.watchEach texts =
        (takes.map .ok ++
            (if texts.flatten.length ≤ s.room then [] else s.lastAnswers),
          s.ending texts.flatten) := by
  by_cases h : texts.flatten.length ≤ s.room
  · obtain ⟨takes, htakes, hwatch⟩ := watchEach_of_le h
    rw [Nat.min_eq_right h]
    exact ⟨takes, htakes, by rw [hwatch, ending, if_pos h, if_pos h,
      List.append_nil]⟩
  · have hlt := Nat.lt_of_not_le h
    obtain ⟨takes, htakes, hwatch⟩ := watchEach_of_lt hlt
    rw [Nat.min_eq_left (Nat.le_of_lt hlt)]
    exact ⟨takes, htakes, by rw [hwatch, ending, if_neg h, if_neg h]⟩

theorem writeEach_eq (s : Sink) (texts : List (List Char)) :
    s.writeEach texts = s.ending texts.flatten := by
  obtain ⟨_, _, hwatch⟩ := s.watchEach_eq texts
  rw [← watchEach_snd, hwatch]

end Sink

/-! ## Characters and bytes -/

/-- The bytes of a text. -/
def bytesOf (text : String) : List UInt8 :=
  text.toByteArray.data.toList

theorem bytesOf_append (first rest : String) :
    bytesOf (first ++ rest) = bytesOf first ++ bytesOf rest := by
  rw [bytesOf, String.toByteArray_append, ByteArray.data_append,
    Array.toList_append]
  rfl

/-- A text of plain characters has one byte for each of them. -/
theorem bytesOf_ofList {letters : List Char}
    (h : ∀ c ∈ letters, c.utf8Size = 1) :
    bytesOf (String.ofList letters) =
      letters.map fun c => c.val.toUInt8 := by
  have hencode : letters.flatMap String.utf8EncodeChar =
      letters.map fun c => c.val.toUInt8 := by
    induction letters with
    | nil => rfl
    | cons c rest ih =>
        obtain ⟨hc, hrest⟩ := List.forall_mem_cons.mp h
        rw [List.flatMap_cons, String.utf8EncodeChar_eq_singleton hc, ih hrest]
        rfl
  rw [bytesOf, String.toByteArray_ofList, List.utf8Encode,
    List.data_toByteArray, List.toList_toArray, hencode]

namespace Listing

/-- The characters of a listing are plain. -/
theorem utf8Size_of_mem_letters {program : List UInt8} {c : Char}
    (h : c ∈ letters program) : c.utf8Size = 1 := by
  have hplain : c.toNat ≤ 127 := by
    obtain ⟨l, _, hc⟩ := List.mem_flatMap.mp h
    rcases List.mem_append.mp hc with hc | hc
    · have hprintable := Line.printable_of_mem_letters c hc
      have hlast := hprintable.2
      omega
    · rw [List.mem_singleton.mp hc]
      decide
  exact Char.utf8Size_eq_one_iff.mpr (UInt32.le_iff_toNat_le.mpr hplain)

/-- As many characters of a listing are as many bytes of it. -/
theorem bytesOf_take_letters (program : List UInt8) (n : Nat) :
    bytesOf (String.ofList ((letters program).take n)) =
      (bytesOf (text program)).take n := by
  have hall : ∀ c ∈ letters program, c.utf8Size = 1 := fun c =>
    utf8Size_of_mem_letters
  have htake : ∀ c ∈ (letters program).take n, c.utf8Size = 1 := fun c hc =>
    hall c (List.mem_of_mem_take hc)
  rw [text, bytesOf_ofList hall, bytesOf_ofList htake, List.map_take]

theorem length_bytesOf_text (program : List UInt8) :
    (bytesOf (text program)).length = (letters program).length := by
  have hall : ∀ c ∈ letters program, c.utf8Size = 1 := fun c =>
    utf8Size_of_mem_letters
  rw [text, bytesOf_ofList hall, List.length_map]

/-- A writer that has been sent a listing has as many bytes of it as it had room
for. -/
theorem bytesOf_ending (program : List UInt8) (out : Sink) :
    bytesOf (out.ending (letters program)).2.accepted =
      bytesOf out.accepted ++ (bytesOf (text program)).take out.room := by
  unfold Sink.ending
  split
  · next h =>
      rw [← length_bytesOf_text] at h
      rw [List.take_of_length_le h]
      exact bytesOf_append _ _
  · rw [← bytesOf_take_letters]
    exact bytesOf_append _ _

/-- **A writer that fails has received as much of a listing as it had room
for.**  The program may be of any length, and the writer may have any room, and
any failure or none to show when that is used up:

* What it has received is as many bytes of the listing as it had room for.
* Writing succeeds if there was room for all of them.  If not it fails as the
  writer did, or because nothing more was written, if the writer did not fail or
  was only interrupted.
* A writer with enough room receives the listing.
* In whatever pieces the listing is written, all this comes to the same.  The
  writes that are made took something each, and once there is no more room there
  are only the one that fails, or is interrupted, and the one that takes
  nothing. -/
theorem cut_short (program : List UInt8) (out : Sink) {listing : List UInt8}
    (hlisting : listing = bytesOf (text program)) :
    bytesOf (writeTo program out).2.accepted =
      bytesOf out.accepted ++ listing.take out.room ∧
    (writeTo program out).1 =
      (if listing.length ≤ out.room then .ok () else .error out.shortage) ∧
    (∀ wide : Sink, listing.length ≤ wide.room →
      bytesOf (writeTo program wide).2.accepted =
        bytesOf wide.accepted ++ listing) ∧
    ∀ pieces : List (List Char), pieces.flatten = letters program →
      out.writeEach pieces = writeTo program out ∧
      ∃ takes : List Nat, (∀ n ∈ takes, 0 < n) ∧
        takes.sum = min out.room listing.length ∧
        out.watchEach pieces =
          (takes.map .ok ++
              (if listing.length ≤ out.room then [] else out.lastAnswers),
            writeTo program out) := by
  have hlength : listing.length = (letters program).length := by
    rw [hlisting, length_bytesOf_text]
  have hwrite (out : Sink) :
      writeTo program out = out.ending (letters program) :=
    out.writeEach_eq _
  have hbytes (out : Sink) : bytesOf (writeTo program out).2.accepted =
      bytesOf out.accepted ++ listing.take out.room := by
    rw [hwrite, bytesOf_ending, hlisting]
  refine ⟨hbytes out, ?_, ?_, ?_⟩
  · rw [hwrite, hlength, Sink.ending]
    split <;> rfl
  · intro wide hwide
    rw [hbytes, List.take_of_length_le hwide]
  · intro pieces hpieces
    obtain ⟨takes, htakes, hwatch⟩ := out.watchEach_eq pieces
    rw [hpieces, ← hlength] at htakes hwatch
    refine ⟨by rw [Sink.writeEach_eq, hpieces, hwrite], takes, htakes.pos,
      htakes.sum, ?_⟩
    rw [hwatch, hwrite]

/-- A writer that has room for the address and half of the first byte of a line,
and is interrupted then. -/
def narrow : Sink where
  room := 6
  failure := some ⟨.interrupted, "again"⟩

/-- It has received that much, and the write after the interruption is the last
one, whether the byte is a piece by itself or not. -/
theorem cut_short_narrow :
    bytesOf (writeTo [0x6A, 0x05] narrow).2.accepted = bytesOf "0200 6" ∧
      (writeTo [0x6A, 0x05] narrow).1 =
        .error ⟨.writeZero, "failed to write whole buffer"⟩ ∧
      ["0200 ".toList, "6a".toList, " 05 LD         Va, 05\n".toList].flatten =
        letters [0x6A, 0x05] ∧
      ∃ takes : List Nat, takes.sum = 6 ∧
        narrow.watchEach ["0200 ".toList, "6a".toList,
            " 05 LD         Va, 05\n".toList] =
          (takes.map .ok ++ [.error ⟨.interrupted, "again"⟩, .ok 0],
            writeTo [0x6A, 0x05] narrow) := by
  have hpieces : ["0200 ".toList, "6a".toList,
      " 05 LD         Va, 05\n".toList].flatten = letters [0x6A, 0x05] := by
    cbv
  have hlength : (bytesOf (text [0x6A, 0x05])).length = 29 := by
    rw [length_bytesOf_text, ← hpieces]
    rfl
  obtain ⟨hbytes, hresult, _, hwatch⟩ := cut_short [0x6A, 0x05] narrow rfl
  obtain ⟨_, takes, _, hsum, hanswers⟩ := hwatch _ hpieces
  have hshort : ¬ (bytesOf (text [0x6A, 0x05])).length ≤ narrow.room := by
    rw [hlength]
    decide
  rw [if_neg hshort] at hresult hanswers
  rw [hlength] at hsum
  refine ⟨?_, hresult, hpieces, takes, hsum, hanswers⟩
  rw [hbytes, ← bytesOf_take_letters, ← hpieces]
  rfl

end Listing

end Chip8
