import Chip8.Proofs.Shown

/-!
# Giving the terminal back

A display changes two modes of the terminal, which screen is on and whether the
cursor is shown, and when it is closed, or could not be set up, it changes them
back.  Its writer may refuse whatever holds a certain text, and another one at
another time, so any of its writes may fail, and an update may break off in the
middle of a sequence.

A sequence that is broken off is no matter: none that comes in several pieces
bears the mark of the sequences for modes, and every command that switches a
mode begins with an escape character, which ends what was there before.  So the
modes are those that were switched by the commands that went through, and the
display is right about them (`Display.Known`).

## Main results

* `holds_iff` — what it means that a text holds another one.
* `Emulator.readAll_of_unmarked`, `Emulator.reads_switch` — which texts switch
  modes.
* `Display.Known.flush`, `Display.Known.takeOver`, `Display.Known.modes_close` —
  the display stays right, whatever is refused.
* `Display.close_eq` — either command is written unless it is refused itself.
* `Panel.given_back` — the modes that the terminal is left in.
-/

namespace Chip8.Terminal

/-- A text holds another one if that stands somewhere in it. -/
theorem holds_iff {part text : List Char} :
    holds part text = true ↔ part <:+: text := by
  induction text with
  | nil => simp [holds]
  | cons c rest ih =>
      rw [holds, Bool.or_eq_true, ih, List.isPrefixOf_iff_prefix,
        List.infix_cons_iff]

/-! ## What switches modes -/

/-- Whether a command switches a mode of the terminal. -/
def Command.isSwitch : Command → Bool
  | enterAlternate | leaveAlternate | hideCursor | showCursor => true
  | _ => false

/-- Whether a sequence is one for modes, so far. -/
def Reading.marked : Reading → Bool
  | sequence marked _ _ => marked
  | _ => false

/-- The modes of a terminal. -/
structure Modes where
  /-- Whether the alternate screen is on. -/
  alternate : Bool
  /-- Whether the cursor is shown. -/
  cursorShown : Bool
  deriving DecidableEq, Repr

/-- What a command makes of them. -/
def Modes.switch (m : Modes) : Command → Modes
  | .enterAlternate => { m with alternate := true }
  | .leaveAlternate => { m with alternate := false }
  | .hideCursor => { m with cursorShown := false }
  | .showCursor => { m with cursorShown := true }
  | _ => m

namespace Emulator

variable {e : Emulator}

/-- The modes that a terminal is in. -/
def modes (e : Emulator) : Modes :=
  ⟨e.alternate, e.cursorShown⟩

theorem modes_choose (e : Emulator) (numbers : List Nat) :
    (e.choose numbers).modes = e.modes ∧
      (e.choose numbers).reading = e.reading := by
  fun_induction choose e numbers <;> simp_all [modes]

/-- A sequence without the mark switches nothing. -/
theorem modes_obey (e : Emulator) (numbers : List Nat) (final : Char) :
    (e.obey false numbers final).modes = e.modes ∧
      (e.obey false numbers final).reading = e.reading := by
  unfold obey
  split
  case h_3 => exact e.modes_choose _
  all_goals first | exact ⟨rfl, rfl⟩ | contradiction

theorem modes_print (e : Emulator) (symbol : Char) :
    (e.print symbol).modes = e.modes ∧
      (e.print symbol).reading = e.reading := by
  unfold print
  split <;> exact ⟨rfl, rfl⟩

/-- Where no marked sequence is being read, a character other than the mark
switches nothing and marks nothing. -/
theorem read_of_unmarked {c : Char} (h : e.reading.marked = false)
    (hc : c ≠ '?') :
    (e.read c).modes = e.modes ∧ (e.read c).reading.marked = false := by
  unfold read
  split
  · exact ⟨rfl, rfl⟩
  · split
    · next heq =>
        obtain ⟨hmodes, hreading⟩ := e.modes_print c
        rw [hreading]
        exact ⟨hmodes, h⟩
    · split <;> exact ⟨rfl, rfl⟩
    · next marked numbers number heq =>
        rw [heq] at h
        obtain rfl : marked = false := h
        split
        · exact ⟨rfl, rfl⟩
        · split
          · exact ⟨rfl, rfl⟩
          · obtain ⟨hmodes, hreading⟩ := { e with reading := .text }.modes_obey
              (numbers ++ [number]) c
            rw [hreading]
            exact ⟨hmodes, rfl⟩

/-- So a text without the mark switches nothing. -/
theorem readAll_of_unmarked {text : List Char} (h : e.reading.marked = false)
    (htext : '?' ∉ text) :
    (e.readAll text).modes = e.modes ∧
      (e.readAll text).reading.marked = false := by
  induction text generalizing e with
  | nil => exact ⟨rfl, h⟩
  | cons c rest ih =>
      rw [List.mem_cons, not_or] at htext
      obtain ⟨hmodes, hmarked⟩ := read_of_unmarked h (Ne.symm htext.1)
      obtain ⟨hrest, hlast⟩ := ih hmarked htext.2
      exact ⟨hrest.trans hmodes, hlast⟩

/-- A command that switches a mode does so whatever was being read. -/
theorem reads_switch {c : Command} (hc : c.isSwitch) (e : Emulator) :
    (e.reads c.text).modes = e.modes.switch c ∧
      (e.reads c.text).reading.marked = false := by
  rw [reads_text]
  obtain ⟨_, _, _, _, _, _, _, _, _, _, _⟩ := e
  cases c with
  | enterAlternate => exact ⟨rfl, rfl⟩
  | leaveAlternate => exact ⟨rfl, rfl⟩
  | hideCursor => exact ⟨rfl, rfl⟩
  | showCursor => exact ⟨rfl, rfl⟩
  | _ => cases hc

end Emulator

/-! ## What is kept of commands that are refused -/

/-- Whether a command in one piece cannot be written while a text is refused. -/
def Refused (refusal : Option String) (c : Command) : Prop :=
  ∃ part, refusal = some part ∧ part.toList <:+: c.text.toList

theorem Writer.refuses_text_iff {w : Writer} {c : Command} :
    w.refuses c.text = true ↔ Refused w.refusal c := by
  unfold refuses Refused
  cases w.refusal with
  | none => simp
  | some part => simp [holds_iff]

instance (refusal : Option String) (c : Command) :
    Decidable (Refused refusal c) :=
  decidable_of_iff _ (Writer.refuses_text_iff (w := { refusal }))

/-- What a command in one piece writes while a text is refused. -/
def kept (refusal : Option String) (c : Command) : String :=
  if Refused refusal c then "" else c.text

/-- What is written before a terminal could not be taken over. -/
def begun (refusal : Option String) : String :=
  if Refused refusal .enterAlternate then ""
  else Command.text .enterAlternate ++ kept refusal .hideCursor

theorem Command.text_of_pieces {c : Command} {piece : String}
    (h : c.pieces = [piece]) : c.text = piece := by
  rw [text, h, String.join_cons, String.join_nil, String.append_empty]

/-- The mark is in no piece of a command that switches nothing, unless it is
printed. -/
theorem Command.mark_notMem_pieces {c : Command} (hc : c.isSwitch = false)
    (hprint : c ≠ .print '?') : ∀ piece ∈ c.pieces, '?' ∉ piece.toList := by
  have hnumber (n : Nat) : '?' ∉ (toString n).toList := by
    intro h
    have hdigit := Nat.isDigit_of_mem_toDigits (by decide) (by decide)
      (Nat.toList_repr (n := n) ▸ h)
    cases hdigit
  cases c with
  | erase => decide
  | moveTo row column =>
      simp only [pieces, List.forall_mem_cons]
      exact ⟨by decide, hnumber _, by decide, hnumber _, by decide,
        List.forall_mem_nil _⟩
  | foreground color => cases color <;> decide
  | background color => cases color <;> decide
  | reset => decide
  | print symbol =>
      have hsymbol : '?' ≠ symbol := fun h => hprint (h ▸ rfl)
      simpa [pieces] using hsymbol
  | _ => cases hc

namespace Writer

variable {w : Writer}

/-- A command in one piece is written as a whole or not at all. -/
theorem send_of_pieces {c : Command} {piece : String} (h : c.pieces = [piece]) :
    w.send c =
      if Refused w.refusal c then (.error refused, w)
      else (.ok (), w.took c.text) := by
  rw [send, h, writeAll, write, ← Command.text_of_pieces h]
  by_cases hrefused : w.refuses c.text = true
  · rw [if_pos hrefused, if_pos (refuses_text_iff.mp hrefused)]
  · rw [if_neg hrefused, if_neg fun h => hrefused (refuses_text_iff.mpr h)]
    rfl

/-- Whatever is kept of some pieces has no mark if none of them has. -/
theorem writeAll_of_notMem {pieces : List String}
    (h : ∀ piece ∈ pieces, '?' ∉ piece.toList) (w : Writer) :
    ∃ text, (w.writeAll pieces).2 = w.took text ∧ '?' ∉ text.toList := by
  induction pieces generalizing w with
  | nil => exact ⟨"", (took_empty w).symm, by decide⟩
  | cons piece rest ih =>
      obtain ⟨hpiece, hrest⟩ := List.forall_mem_cons.mp h
      rw [writeAll, write]
      by_cases hrefused : w.refuses piece = true
      · rw [if_pos hrefused]
        exact ⟨"", (took_empty w).symm, by decide⟩
      · rw [if_neg hrefused]
        obtain ⟨text, hwriter, htext⟩ := ih hrest (w.took piece)
        refine ⟨piece ++ text, ?_, ?_⟩
        · rw [← took_took]
          exact hwriter
        · rw [String.toList_append, List.mem_append, not_or]
          exact ⟨hpiece, htext⟩

/-- So do commands that switch nothing. -/
theorem sendAll_of_plain {cs : List Command}
    (h : ∀ c ∈ cs, c.isSwitch = false ∧ c ≠ .print '?') (w : Writer) :
    ∃ text, (w.sendAll cs).2 = w.took text ∧ '?' ∉ text.toList := by
  induction cs generalizing w with
  | nil => exact ⟨"", (took_empty w).symm, by decide⟩
  | cons c rest ih =>
      obtain ⟨hc, hrest⟩ := List.forall_mem_cons.mp h
      obtain ⟨text, hwriter, htext⟩ :=
        writeAll_of_notMem (Command.mark_notMem_pieces hc.1 hc.2) w
      change (w.send c).2 = _ at hwriter
      rw [sendAll]
      generalize w.send c = sent at hwriter ⊢
      obtain ⟨outcome, after⟩ := sent
      obtain rfl : after = w.took text := hwriter
      cases outcome with
      | error e => exact ⟨text, rfl, htext⟩
      | ok _ =>
          obtain ⟨later, hlater, hplain⟩ := ih hrest (w.took text)
          refine ⟨text ++ later, ?_, ?_⟩
          · rw [← took_took]
            exact hlater
          · rw [String.toList_append, List.mem_append, not_or]
            exact ⟨htext, hplain⟩

/-- Commands that follow others are sent if those went through. -/
theorem sendAll_append (w : Writer) (first rest : List Command) :
    w.sendAll (first ++ rest) =
      match w.sendAll first with
      | (.ok (), w) => w.sendAll rest
      | (.error e, w) => (.error e, w) := by
  induction first generalizing w with
  | nil => rfl
  | cons c first ih =>
      rw [List.cons_append, sendAll, sendAll]
      obtain ⟨outcome, after⟩ := w.send c
      cases outcome with
      | ok _ => exact ih after
      | error e => rfl

end Writer

/-- What an update sends before it hides the cursor. -/
def printing (old new : Cells) : List Command :=
  printAll {} (changes old new) ++
    [.foreground .default, .background .default, .reset]

theorem update_eq_printing (old new : Cells) :
    update old new = printing old new ++ [.hideCursor] := by
  rw [update, printing, closing, List.append_assoc]
  rfl

/-- What prints a changed cell switches nothing. -/
theorem isSwitch_of_mem_commands (p : Pen) (ch : Change) :
    ∀ c ∈ p.commands ch, c.isSwitch = false := by
  unfold Pen.commands
  simp only [List.forall_mem_append]
  refine ⟨⟨⟨?_, ?_⟩, ?_⟩, ?_⟩
  · split <;> simp [Command.isSwitch]
  · split <;> simp [Command.isSwitch]
  · split <;> simp [Command.isSwitch]
  · simp [Command.isSwitch]

theorem isSwitch_of_mem_printAll (p : Pen) (chs : List Change) :
    ∀ c ∈ printAll p chs, c.isSwitch = false := by
  induction chs generalizing p with
  | nil => exact nofun
  | cons ch rest ih =>
      exact List.forall_mem_append.mpr ⟨isSwitch_of_mem_commands p ch, ih _⟩

/-- Until then an update switches nothing. -/
theorem isSwitch_of_mem_printing {old new : Cells} :
    ∀ c ∈ printing old new, c.isSwitch = false := by
  have hclosing : ∀ c ∈ [.foreground .default, .background .default, .reset],
      Command.isSwitch c = false := by decide
  exact List.forall_mem_append.mpr
    ⟨isSwitch_of_mem_printAll {} (changes old new), hclosing⟩

/-! ## What the display knows -/

namespace Display

/-- On a terminal that has read what a display has written, the alternate
screen is on or off, and the cursor is shown unless the display takes it to be
hidden.  No sequence for modes has been broken off. -/
structure Known (e : Emulator) (alternate : Bool) (d : Display) : Prop where
  marked : (e.reads d.writer.written).reading.marked = false
  modes : (e.reads d.writer.written).modes = ⟨alternate, !d.cursorHidden⟩

variable {e : Emulator} {alternate : Bool} {d : Display}

/-- A text without the mark changes nothing. -/
theorem Known.took_of_notMem (h : d.Known e alternate) {text : String}
    (htext : '?' ∉ text.toList) :
    { d with writer := d.writer.took text }.Known e alternate := by
  obtain ⟨hmodes, hmarked⟩ := Emulator.readAll_of_unmarked h.marked htext
  have hreads : e.reads (d.writer.took text).written =
      (e.reads d.writer.written).readAll text.toList :=
    e.reads_append d.writer.written text
  constructor
  · rw [hreads]
    exact hmarked
  · rw [hreads, hmodes]
    exact h.modes

/-- A command that switches a mode and goes through, after which the display
takes the cursor to be what it is. -/
theorem Known.took_switch (h : d.Known e alternate) {c : Command}
    (hc : c.isSwitch) {after : Bool} {d' : Display}
    (hwriter : d'.writer = d.writer.took c.text)
    (hmodes : (Modes.mk alternate !d.cursorHidden).switch c =
      ⟨after, !d'.cursorHidden⟩) : d'.Known e after := by
  have hreads : e.reads d'.writer.written =
      (e.reads d.writer.written).reads c.text := by
    rw [hwriter]
    exact e.reads_append d.writer.written c.text
  obtain ⟨hswitch, hmarked⟩ := Emulator.reads_switch hc (e.reads d.writer.written)
  constructor
  · rw [hreads]
    exact hmarked
  · rw [hreads, hswitch, h.modes]
    exact hmodes

/-! ### Single commands -/

theorem hideCursor_eq (d : Display) :
    d.hideCursor =
      if Refused d.writer.refusal .hideCursor then (.error Writer.refused, d)
      else
        (.ok (),
          { d with
            writer := d.writer.took (Command.text .hideCursor)
            cursorHidden := true }) := by
  rw [hideCursor, Writer.send_of_pieces rfl]
  by_cases h : Refused d.writer.refusal .hideCursor
  · rw [if_pos h, if_pos h]
  · rw [if_neg h, if_neg h]

theorem showCursor_eq (d : Display) :
    d.showCursor =
      { d with
        writer := d.writer.took (kept d.writer.refusal .showCursor)
        cursorHidden :=
          d.cursorHidden && decide (Refused d.writer.refusal .showCursor) } := by
  rw [showCursor, Writer.send_of_pieces rfl, kept]
  by_cases h : Refused d.writer.refusal .showCursor
  · simp [h, Writer.took_empty]
  · simp [h]

theorem leaveAlternate_eq (d : Display) :
    d.leaveAlternate =
      { d with
        writer := d.writer.took (kept d.writer.refusal .leaveAlternate) } := by
  rw [leaveAlternate, Writer.send_of_pieces rfl, kept]
  split
  · rw [Writer.took_empty]
  · rfl

theorem Known.hideCursor (h : d.Known e alternate) :
    d.hideCursor.2.Known e alternate := by
  rw [hideCursor_eq]
  split
  · exact h
  · exact h.took_switch (c := .hideCursor) rfl rfl rfl

theorem Known.showCursor (h : d.Known e alternate) :
    d.showCursor.Known e alternate := by
  rw [showCursor_eq, kept]
  by_cases hshow : Refused d.writer.refusal .showCursor
  · simpa [hshow, Writer.took_empty] using h
  · simp only [hshow, if_false, decide_false, Bool.and_false]
    exact h.took_switch (c := .showCursor) rfl rfl rfl

theorem Known.leaveAlternate (h : d.Known e alternate) :
    d.leaveAlternate.Known e
      (alternate && decide (Refused d.writer.refusal .leaveAlternate)) := by
  rw [leaveAlternate_eq, kept]
  by_cases hleave : Refused d.writer.refusal .leaveAlternate
  · simpa [hleave, Writer.took_empty] using h
  · simp only [hleave, if_false, decide_false, Bool.and_false]
    exact h.took_switch (c := .leaveAlternate) rfl rfl rfl

/-! ### Closing -/

/-- When a display is closed, both commands are tried whether or not the other
one is refused.  A second try to show the cursor fails like the first. -/
theorem close_eq (d : Display) :
    d.close =
      { d with
        writer := d.writer.took (kept d.writer.refusal .showCursor ++
          kept d.writer.refusal .leaveAlternate)
        cursorHidden :=
          d.cursorHidden && decide (Refused d.writer.refusal .showCursor) } := by
  have hrefusal (text : String) : (d.writer.took text).refusal = d.writer.refusal :=
    rfl
  have hfirst : d.showCursor.leaveAlternate =
      { d with
        writer := d.writer.took (kept d.writer.refusal .showCursor ++
          kept d.writer.refusal .leaveAlternate)
        cursorHidden :=
          d.cursorHidden && decide (Refused d.writer.refusal .showCursor) } := by
    rw [showCursor_eq, leaveAlternate_eq]
    simp only [hrefusal, Writer.took_took]
  rw [close, hfirst]
  dsimp only
  split
  · next hhidden =>
      obtain ⟨hd, hshow⟩ := Bool.and_eq_true_iff.mp hhidden
      rw [showCursor_eq]
      simp only [hrefusal, kept, if_pos (of_decide_eq_true hshow),
        Writer.took_empty, hshow, hd, Bool.and_self]
  · rfl

/-- What a display that knows the modes leaves behind. -/
theorem Known.modes_close (h : d.Known e alternate) :
    (e.reads d.close.writer.written).modes =
      ⟨alternate && decide (Refused d.writer.refusal .leaveAlternate),
        !(d.cursorHidden && decide (Refused d.writer.refusal .showCursor))⟩ := by
  have hleft : d.close.Known e
      (alternate && decide (Refused d.writer.refusal .leaveAlternate)) := by
    have hfirst := h.showCursor.leaveAlternate
    have hrefusal : d.showCursor.writer.refusal = d.writer.refusal := by
      rw [showCursor_eq]
      rfl
    rw [hrefusal] at hfirst
    rw [close]
    split
    · exact hfirst.showCursor
    · exact hfirst
  rw [hleft.modes, close_eq]

/-! ### Updates -/

/-- An update changes nothing but that the cursor may be hidden, wherever it
breaks off. -/
theorem Known.flush (h : d.Known e alternate) (f : Framebuffer) :
    (d.flush f).2.Known e alternate := by
  have hplain : ∀ c ∈ printing d.shown (cells f),
      c.isSwitch = false ∧ c ≠ .print '?' := by
    intro c hc
    refine ⟨isSwitch_of_mem_printing c hc, ?_⟩
    rintro rfl
    have hmark : '?' ∉ symbols := by decide
    apply print_notMem_update_cells hmark d.shown f
    rw [update_eq_printing]
    exact List.mem_append_left _ hc
  obtain ⟨text, hwriter, htext⟩ := Writer.sendAll_of_plain hplain d.writer
  rw [Display.flush, update_eq_printing, Writer.sendAll_append]
  generalize d.writer.sendAll (printing d.shown (cells f)) = sent at hwriter ⊢
  obtain ⟨outcome, writer⟩ := sent
  obtain rfl : writer = d.writer.took text := hwriter
  have hprinted := h.took_of_notMem htext
  cases outcome with
  | error _ => exact hprinted
  | ok _ =>
      -- The cursor is hidden last, and only then is the picture kept in mind.
      have hhidden := hprinted.hideCursor
      simp only [Writer.sendAll]
      rw [Writer.send_of_pieces rfl]
      rw [hideCursor_eq] at hhidden
      by_cases hhide : Refused (d.writer.took text).refusal .hideCursor
      · rw [if_pos hhide]
        exact hprinted
      · rw [if_neg hhide] at hhidden ⊢
        exact ⟨hhidden.marked, hhidden.modes⟩

theorem cursorHidden_flush (h : d.cursorHidden = true) (f : Framebuffer) :
    (d.flush f).2.cursorHidden = true := by
  unfold flush
  dsimp only
  split
  · rfl
  · exact h

/-! ### Taking the terminal over -/

/-- The first command that is refused is the last one that is tried. -/
theorem takeOver_eq (d : Display) :
    d.takeOver =
      if Refused d.writer.refusal .enterAlternate then
        (.error Writer.refused, d)
      else if Refused d.writer.refusal .hideCursor then
        (.error Writer.refused,
          { d with writer := d.writer.took (Command.text .enterAlternate) })
      else if Refused d.writer.refusal .erase then
        (.error Writer.refused,
          { d with
            writer := d.writer.took (texts [.enterAlternate, .hideCursor])
            cursorHidden := true })
      else
        (.ok (),
          { d with
            writer :=
              d.writer.took (texts [.enterAlternate, .hideCursor, .erase])
            cursorHidden := true }) := by
  have hsend (text : String) :
      (d.writer.took text).send .erase =
        if Refused d.writer.refusal .erase then
          (.error Writer.refused, d.writer.took text)
        else (.ok (), d.writer.took (text ++ Command.text .erase)) := by
    rw [← Writer.took_took]
    exact Writer.send_of_pieces rfl
  have hhide (text : String) :
      { d with writer := d.writer.took text }.hideCursor =
        if Refused d.writer.refusal .hideCursor then
          (.error Writer.refused, { d with writer := d.writer.took text })
        else
          (.ok (),
            { d with
              writer := d.writer.took (text ++ Command.text .hideCursor)
              cursorHidden := true }) := by
    rw [← Writer.took_took]
    exact hideCursor_eq _
  simp only [takeOver, Writer.send_of_pieces (c := .enterAlternate) rfl]
  by_cases henter : Refused d.writer.refusal .enterAlternate
  · simp only [if_pos henter]
  · simp only [if_neg henter, hhide]
    by_cases hhidden : Refused d.writer.refusal .hideCursor
    · simp only [if_pos hhidden]
    · simp only [if_neg hhidden, hsend]
      by_cases herase : Refused d.writer.refusal .erase
      · simp only [if_pos herase, texts_cons, texts_nil, String.append_empty]
      · simp only [if_neg herase, texts_cons, texts_nil, String.append_empty,
          String.append_assoc]

/-- Taking a terminal over fails if one of the three commands is refused. -/
theorem takeOver_fails_iff (d : Display) :
    (∃ x, d.takeOver.1 = .error x) ↔
      Refused d.writer.refusal .enterAlternate ∨
        Refused d.writer.refusal .hideCursor ∨
        Refused d.writer.refusal .erase := by
  rw [takeOver_eq]
  split
  · next henter => exact iff_of_true ⟨_, rfl⟩ (.inl henter)
  · next henter =>
      split
      · next hhide => exact iff_of_true ⟨_, rfl⟩ (.inr (.inl hhide))
      · next hhide =>
          split
          · next herase => exact iff_of_true ⟨_, rfl⟩ (.inr (.inr herase))
          · next herase =>
              exact iff_of_false nofun
                (not_or.mpr ⟨henter, not_or.mpr ⟨hhide, herase⟩⟩)

/-- If it fails, nothing but the first two commands has gone through. -/
theorem takeOver_of_error {x : IoError} (h : d.takeOver.1 = .error x) :
    d.takeOver.2 =
      { d with
        writer := d.writer.took (begun d.writer.refusal)
        cursorHidden := d.cursorHidden ||
          (!decide (Refused d.writer.refusal .enterAlternate) &&
            !decide (Refused d.writer.refusal .hideCursor)) } := by
  rw [takeOver_eq] at h ⊢
  by_cases henter : Refused d.writer.refusal .enterAlternate
  · simp [henter, begun, Writer.took_empty]
  · by_cases hhide : Refused d.writer.refusal .hideCursor
    · simp [henter, hhide, begun, kept]
    · by_cases herase : Refused d.writer.refusal .erase
      · simp [henter, hhide, herase, begun, kept, texts_cons, texts_nil]
      · simp [henter, hhide, herase] at h

/-- If it succeeds, all three have. -/
theorem takeOver_of_ok (h : d.takeOver.1 = .ok ()) :
    ¬ Refused d.writer.refusal .enterAlternate ∧
      d.takeOver.2.cursorHidden = true := by
  have hwilling := mt d.takeOver_fails_iff.mpr (by rw [h]; nofun)
  rw [not_or, not_or] at hwilling
  obtain ⟨henter, hhide, herase⟩ := hwilling
  rw [takeOver_eq, if_neg henter, if_neg hhide, if_neg herase]
  exact ⟨henter, rfl⟩

/-- The commands that take a terminal over change the modes as far as they go
through. -/
theorem Known.takeOver (h : d.Known e false) :
    d.takeOver.2.Known e
      (!decide (Refused d.writer.refusal .enterAlternate)) := by
  have herase : '?' ∉ (Command.text .erase).toList := by decide
  rw [takeOver_eq]
  by_cases henter : Refused d.writer.refusal .enterAlternate
  · simp only [if_pos henter, decide_eq_true henter, Bool.not_true]
    exact h
  · simp only [if_neg henter, decide_eq_false henter, Bool.not_false]
    have hentered :
        { d with writer := d.writer.took (Command.text .enterAlternate) }.Known e
          true :=
      h.took_switch (c := .enterAlternate) rfl rfl rfl
    have hhidden :
        { d with
          writer := d.writer.took (texts [.enterAlternate, .hideCursor])
          cursorHidden := true }.Known e true := by
      refine hentered.took_switch (c := .hideCursor) rfl ?_ rfl
      simp only [Writer.took_took, texts_cons, texts_nil, String.append_empty]
    have herased := hhidden.took_of_notMem herase
    simp only [Writer.took_took, texts_cons, texts_nil, String.append_empty,
      String.append_assoc] at hhidden herased ⊢
    split
    · exact hentered
    · split
      · exact hhidden
      · exact herased

end Display

/-! ## Panels -/

namespace Panel

/-- What a panel goes through while it is in use. -/
inductive Order where
  /-- It does a piece of work. -/
  | work (work : Work)
  /-- From now on its writer refuses what holds a text, or refuses nothing. -/
  | refuse (refusal : Option String)
  deriving DecidableEq, Repr

/-- What the writer of a panel refuses. -/
def refusal (p : Panel) : Option String :=
  p.display.writer.refusal

/-- Has the writer refuse what holds a text, or nothing. -/
def refuse (p : Panel) (refusal : Option String) : Panel :=
  { p with
    display := { p.display with writer := { p.display.writer with refusal } } }

/-- Goes through an order. -/
def obey (p : Panel) : Order → Panel
  | .work work => p.perform work
  | .refuse refusal => p.refuse refusal

/-- Goes through one order after the other. -/
def obeyAll (p : Panel) (orders : List Order) : Panel :=
  orders.foldl obey p

/-- Gives the terminal back. -/
def close (p : Panel) : Panel :=
  { p with display := p.display.close }

/-- A panel in use knows the modes of the terminal: the alternate screen is on,
and the cursor is hidden. -/
structure InUse (e : Emulator) (p : Panel) : Prop where
  known : p.display.Known e true
  hidden : p.display.cursorHidden = true

variable {e : Emulator} {p : Panel}

/-- Work, done or broken off, and a writer that changes its mind leave it so. -/
theorem InUse.obey (h : p.InUse e) (order : Order) : (p.obey order).InUse e := by
  cases order with
  | refuse refusal => exact ⟨⟨h.known.marked, h.known.modes⟩, h.hidden⟩
  | work work =>
      cases work with
      | draw x y sprite => exact ⟨h.known, h.hidden⟩
      | clear => exact ⟨h.known, h.hidden⟩
      | flush =>
          exact ⟨h.known.flush p.picture,
            Display.cursorHidden_flush h.hidden p.picture⟩

theorem InUse.obeyAll (h : p.InUse e) (orders : List Order) :
    (p.obeyAll orders).InUse e := by
  induction orders generalizing p with
  | nil => exact h
  | cons order rest ih => exact ih (h.obey order)

/-- What is written to give a terminal back. -/
theorem text_close (p : Panel) :
    p.close.text =
      p.text ++ (kept p.refusal .showCursor ++ kept p.refusal .leaveAlternate) := by
  show p.display.close.writer.written = _
  rw [Display.close_eq]
  rfl

/-- A terminal that was in use is left in the modes that could not be changed
back. -/
theorem InUse.modes_close (h : p.InUse e) :
    (e.reads p.close.text).modes =
      ⟨decide (Refused p.refusal .leaveAlternate),
        !decide (Refused p.refusal .showCursor)⟩ := by
  have hclose := h.known.modes_close
  rw [h.hidden, Bool.true_and, Bool.true_and] at hclose
  exact hclose

/-! ### Setting up -/

/-- The display that takes a terminal over for a new panel. -/
def unready (refusal : Option String) (r : Resolution) : Display where
  writer := { refusal }
  shown := blankCells (.ofResolution r)

/-- The panel has that display, or the same one closed. -/
theorem setUp_cases (refusal : Option String) (r : Resolution) :
    ((unready refusal r).takeOver.1 = .ok () ∧
        setUp { refusal } r =
          (.ok (), { display := (unready refusal r).takeOver.2,
                     picture := .blank r })) ∨
      ∃ x, (unready refusal r).takeOver.1 = .error x ∧
        setUp { refusal } r =
          (.error x, { display := (unready refusal r).takeOver.2.close,
                       picture := .blank r }) := by
  rw [setUp, Display.setUp, ← unready]
  obtain ⟨outcome, d⟩ := (unready refusal r).takeOver
  cases outcome with
  | ok _ => exact .inl ⟨rfl, rfl⟩
  | error x => exact .inr ⟨x, rfl, rfl⟩

/-- A terminal on which nothing is switched is as a new display takes it to
be. -/
theorem known_unready (hreading : e.reading = .text)
    (hmodes : e.modes = ⟨false, true⟩) (refusal : Option String)
    (r : Resolution) : (unready refusal r).Known e false := by
  have hmarked : e.reading.marked = false := by rw [hreading]; rfl
  exact ⟨hmarked, hmodes⟩

theorem setUp_fails_iff (refusal : Option String) (r : Resolution) :
    (∃ x, (setUp { refusal } r).1 = .error x) ↔
      Refused refusal .enterAlternate ∨ Refused refusal .hideCursor ∨
        Refused refusal .erase := by
  have hfails : (∃ x, (unready refusal r).takeOver.1 = .error x) ↔
      Refused refusal .enterAlternate ∨ Refused refusal .hideCursor ∨
        Refused refusal .erase :=
    (unready refusal r).takeOver_fails_iff
  rw [← hfails]
  obtain ⟨hok, hsetUp⟩ | ⟨x, herror, hsetUp⟩ := setUp_cases refusal r
  · rw [hsetUp, hok]
  · rw [hsetUp, herror]

/-- What is left behind if a panel could not be set up. -/
theorem of_setUp_error (hreading : e.reading = .text)
    (hmodes : e.modes = ⟨false, true⟩) {refusal : Option String}
    {r : Resolution} {x : IoError} (h : setUp { refusal } r = (.error x, p)) :
    p.text = begun refusal ++
        (kept refusal .showCursor ++ kept refusal .leaveAlternate) ∧
      (e.reads p.text).modes =
        ⟨!decide (Refused refusal .enterAlternate) &&
            decide (Refused refusal .leaveAlternate),
          !((!decide (Refused refusal .enterAlternate) &&
              !decide (Refused refusal .hideCursor)) &&
            decide (Refused refusal .showCursor))⟩ := by
  obtain ⟨_, hsetUp⟩ | ⟨x, herror, hsetUp⟩ := setUp_cases refusal r
  · rw [hsetUp] at h
    cases h
  · rw [hsetUp] at h
    obtain rfl := (Prod.mk.inj h).2
    have hclose := (known_unready hreading hmodes refusal r).takeOver.modes_close
    have htaken := Display.takeOver_of_error herror
    rw [htaken] at hclose
    simp only [text]
    rw [htaken]
    refine ⟨?_, hclose⟩
    rw [Display.close_eq]
    show "" ++ begun refusal ++ _ = _
    rw [String.empty_append]
    rfl

/-- A panel that could be set up is in use. -/
theorem inUse_of_setUp (hreading : e.reading = .text)
    (hmodes : e.modes = ⟨false, true⟩) {refusal : Option String}
    {r : Resolution} (h : setUp { refusal } r = (.ok (), p)) : p.InUse e := by
  obtain ⟨hok, hsetUp⟩ | ⟨x, _, hsetUp⟩ := setUp_cases refusal r
  · rw [hsetUp] at h
    obtain rfl := (Prod.mk.inj h).2
    obtain ⟨henter, hhidden⟩ := Display.takeOver_of_ok hok
    have hknown := (known_unready hreading hmodes refusal r).takeOver
    rw [decide_eq_false henter] at hknown
    exact ⟨hknown, hhidden⟩
  · rw [hsetUp] at h
    cases h

/-- **The terminal is given back whatever was refused.**  Some text may be
refused while a panel is set up, another one from any moment on, and again
another one when it is closed.  For a terminal on which the alternate screen is
off and the cursor is shown:

* Setting the panel up fails if and only if one of its three commands is
  refused.
* If it fails, the terminal is given back.  The alternate screen is left on if
  and only if it was entered and the command that leaves it is refused, and the
  cursor is left hidden if and only if it was hidden and the command that shows
  it is refused.
* If it succeeds, whatever is drawn, cleared, flushed and refused before the
  panel is closed, the alternate screen is left on if and only if the command
  that leaves it is refused in the end, and the cursor is left hidden if and
  only if the command that shows it is.
* Both times either command is written unless it is refused itself. -/
theorem given_back {e : Emulator} (hreading : e.reading = .text)
    (hmodes : e.modes = ⟨false, true⟩) (refusal : Option String)
    (r : Resolution) :
    ((∃ x, (setUp { refusal } r).1 = .error x) ↔
        Refused refusal .enterAlternate ∨ Refused refusal .hideCursor ∨
          Refused refusal .erase) ∧
      (∀ x p, setUp { refusal } r = (.error x, p) →
        p.text = begun refusal ++
            (kept refusal .showCursor ++ kept refusal .leaveAlternate) ∧
          ((e.reads p.text).alternate = true ↔
            ¬ Refused refusal .enterAlternate ∧
              Refused refusal .leaveAlternate) ∧
          ((e.reads p.text).cursorShown = false ↔
            (¬ Refused refusal .enterAlternate ∧
              ¬ Refused refusal .hideCursor) ∧
              Refused refusal .showCursor)) ∧
      ∀ p₀, setUp { refusal } r = (.ok (), p₀) →
        ∀ orders p, p₀.obeyAll orders = p →
          p.close.text = p.text ++
              (kept p.refusal .showCursor ++ kept p.refusal .leaveAlternate) ∧
            ((e.reads p.close.text).alternate = true ↔
              Refused p.refusal .leaveAlternate) ∧
            ((e.reads p.close.text).cursorShown = false ↔
              Refused p.refusal .showCursor) := by
  refine ⟨setUp_fails_iff refusal r, ?_, ?_⟩
  · intro x p hsetUp
    obtain ⟨htext, hleft⟩ := of_setUp_error hreading hmodes hsetUp
    obtain ⟨halternate, hcursor⟩ := Modes.mk.inj hleft
    refine ⟨htext, ?_, ?_⟩
    · rw [halternate]
      simp
    · rw [hcursor]
      simp
  · rintro p₀ hsetUp orders p rfl
    have hleft :=
      ((inUse_of_setUp hreading hmodes hsetUp).obeyAll orders).modes_close
    obtain ⟨halternate, hcursor⟩ := Modes.mk.inj hleft
    refine ⟨text_close _, ?_, ?_⟩
    · rw [halternate]
      simp
    · rw [hcursor]
      simp

/-- While a letter is refused that two of the commands end with, the first
panel can neither hide the cursor nor leave the alternate screen.  An update of
the second one is broken off, and when it is closed it cannot show the cursor. -/
theorem given_back_after_refusals :
    (∃ x p, setUp { refusal := some "l" } ⟨2, 2⟩ = (.error x, p) ∧
        ((Emulator.fresh 80 24).reads p.text).alternate = true ∧
        ((Emulator.fresh 80 24).reads p.text).cursorShown = true) ∧
      ∃ p₀ p, setUp {} ⟨2, 2⟩ = (.ok (), p₀) ∧
        p₀.obeyAll [.refuse (some ";5"), .work (.draw 0 0 [0x80]),
          .work .flush, .refuse (some "25h")] = p ∧
        ((Emulator.fresh 80 24).reads p.close.text).alternate = false ∧
        ((Emulator.fresh 80 24).reads p.close.text).cursorShown = false := by
  constructor
  · obtain ⟨hfails, hleft, _⟩ :=
      given_back (e := .fresh 80 24) rfl rfl (some "l") ⟨2, 2⟩
    obtain ⟨x, herror⟩ := hfails.mpr (.inr (.inl (by decide)))
    obtain ⟨_, halternate, hcursor⟩ := hleft x _ (Prod.ext herror rfl)
    refine ⟨x, _, Prod.ext herror rfl, halternate.mpr (by decide), ?_⟩
    exact Bool.eq_true_of_not_eq_false (mt hcursor.mp (by decide))
  · obtain ⟨hfails, _, hleft⟩ :=
      given_back (e := .fresh 80 24) rfl rfl none ⟨2, 2⟩
    have hok : (setUp {} ⟨2, 2⟩).1 = .ok () := by
      rw [setUp, Display.setUp_of_willing rfl]
    obtain ⟨_, halternate, hcursor⟩ := hleft _ (Prod.ext hok rfl)
      [.refuse (some ";5"), .work (.draw 0 0 [0x80]), .work .flush,
        .refuse (some "25h")] _ rfl
    refine ⟨_, _, Prod.ext hok rfl, rfl, ?_, hcursor.mpr ?_⟩
    · exact Bool.eq_false_of_not_eq_true (mt halternate.mp (by decide))
    · decide

end Panel

end Chip8.Terminal
