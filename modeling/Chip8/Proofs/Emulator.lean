import Chip8.Terminal.Writer
import Mathlib.Data.Nat.Digits.Defs

/-!
# What a terminal makes of a text

An `Emulator` reads a text character by character, and shows what is printed.
It knows nothing of commands: an escape character begins a sequence, digits
add up to numbers, and the letter that closes a sequence says what the numbers
are for.

The text of a command has the effect that the command is meant to have
(`Emulator.reads_command`).  So what a writer that refuses nothing has been sent
(`Writer.sendAll_of_willing`) can be followed command by command, and the
characters need not be looked at again (`Emulator.reads_texts`).

## Main results

* `Emulator.readAll_number` — a number is read as it was written.
* `Emulator.reads_command`, `Emulator.reads_texts` — commands do what they say.
* `Writer.sendAll_of_willing` — a writer that refuses nothing keeps the text of
  all commands.
-/

namespace Chip8.Terminal

/-- The texts of commands, one after the other. -/
def texts (cs : List Command) : String :=
  String.join (cs.map Command.text)

theorem texts_nil : texts [] = "" := String.join_nil

theorem texts_cons (c : Command) (cs : List Command) :
    texts (c :: cs) = c.text ++ texts cs :=
  String.join_cons

/-! ## The terminal -/

/-- A colour as a terminal counts them. -/
inductive Hue where
  /-- Whatever the terminal is set to. -/
  | default
  /-- One of the numbered colours. -/
  | palette (number : Nat)
  deriving DecidableEq, Repr

/-- The number of a colour. -/
def Color.hue : Color → Hue
  | default => .default
  | black => .palette 0
  | brightWhite => .palette 15

/-- Different colours are seen to be different. -/
theorem Color.hue_inj {a b : Color} (h : a.hue = b.hue) : a = b := by
  cases a <;> cases b <;> first | rfl | cases h

/-- What is seen at one place. -/
structure Glyph where
  symbol : Char := ' '
  foreground : Hue := .default
  background : Hue := .default
  deriving DecidableEq, Repr

/-- How far a sequence has been read. -/
inductive Reading where
  /-- There is none. -/
  | text
  /-- Its escape character has been read. -/
  | escape
  /-- It has been introduced.  Some numbers are complete, and the last one may
  go on.  It may carry the mark of the sequences for modes. -/
  | sequence (marked : Bool) (numbers : List Nat) (number : Nat)
  deriving DecidableEq, Repr

/-- A terminal.  Rows and columns are counted from zero. -/
structure Emulator where
  /-- Cells in a row. -/
  columns : Nat
  /-- Rows. -/
  rows : Nat
  /-- What is seen in a row and a column. -/
  seen : Nat → Nat → Glyph
  /-- How often something has been printed there. -/
  printed : Nat → Nat → Nat
  /-- The row of the cursor. -/
  row : Nat := 0
  /-- The column of the cursor. -/
  column : Nat := 0
  /-- The colour in use. -/
  foreground : Hue := .default
  /-- The colour in use behind characters. -/
  background : Hue := .default
  /-- Whether the alternate screen is on. -/
  alternate : Bool := false
  /-- Whether the cursor is shown. -/
  cursorShown : Bool := true
  /-- How far a sequence has been read. -/
  reading : Reading := .text

namespace Emulator

/-- A terminal of a size on which nothing has been printed. -/
def fresh (columns rows : Nat) : Emulator where
  columns := columns
  rows := rows
  seen := fun _ _ => {}
  printed := fun _ _ => 0

/-- Puts the cursor on a cell, or on the nearest one that there is. -/
def moveTo (e : Emulator) (row column : Nat) : Emulator :=
  { e with row := min row (e.rows - 1), column := min column (e.columns - 1) }

/-- Blanks every cell. -/
def erase (e : Emulator) : Emulator :=
  { e with seen := fun _ _ => {} }

/-- Fills a cell. -/
def fill (e : Emulator) (row column : Nat) (g : Glyph) : Emulator :=
  { e with
    seen := fun r c => if r = row ∧ c = column then g else e.seen r c
    printed := fun r c =>
      if r = row ∧ c = column then e.printed r c + 1 else e.printed r c }

/-- Prints a character in the colours in use, and moves on by a column.  What
comes when the cursor has left its row behind is lost. -/
def print (e : Emulator) (symbol : Char) : Emulator :=
  if e.column < e.columns then
    { e.fill e.row e.column ⟨symbol, e.foreground, e.background⟩ with
      column := e.column + 1 }
  else e

/-- Chooses colours.  Two numbers introduce one from the palette. -/
def choose : Emulator → List Nat → Emulator
  | e, 38 :: 5 :: number :: rest =>
    choose { e with foreground := .palette number } rest
  | e, 48 :: 5 :: number :: rest =>
    choose { e with background := .palette number } rest
  | e, 0 :: rest =>
    choose { e with foreground := .default, background := .default } rest
  | e, 39 :: rest => choose { e with foreground := .default } rest
  | e, 49 :: rest => choose { e with background := .default } rest
  | e, _ :: rest => choose e rest
  | e, [] => e

/-- Does what a sequence demands. -/
def obey (e : Emulator) (marked : Bool) (numbers : List Nat) (final : Char) :
    Emulator :=
  match marked, final, numbers with
  | false, 'H', [row, column] => e.moveTo (row - 1) (column - 1)
  | false, 'J', [2] => e.erase
  | false, 'm', numbers => e.choose numbers
  | true, 'h', [1049] => { e with alternate := true }
  | true, 'l', [1049] => { e with alternate := false }
  | true, 'h', [25] => { e with cursorShown := true }
  | true, 'l', [25] => { e with cursorShown := false }
  | _, _, _ => e

/-- Reads one character.  An escape character begins a new sequence, whether or
not the last one was complete. -/
def read (e : Emulator) (c : Char) : Emulator :=
  if c = '\x1b' then { e with reading := .escape }
  else
    match e.reading with
    | .text => e.print c
    | .escape =>
      { e with reading := if c = '[' then .sequence false [] 0 else .text }
    | .sequence marked numbers number =>
      if c.isDigit then
        { e with
          reading := .sequence marked numbers
            (10 * number + (c.toNat - '0'.toNat)) }
      else if c = ';' then
        { e with reading := .sequence marked (numbers ++ [number]) 0 }
      else if c = '?' then { e with reading := .sequence true numbers number }
      else { e with reading := .text }.obey marked (numbers ++ [number]) c

/-- Reads characters one after the other. -/
def readAll (e : Emulator) (text : List Char) : Emulator :=
  text.foldl read e

/-- Reads a text. -/
def reads (e : Emulator) (text : String) : Emulator :=
  e.readAll text.toList

@[simp] theorem readAll_cons (e : Emulator) (c : Char) (text : List Char) :
    e.readAll (c :: text) = (e.read c).readAll text := rfl

theorem readAll_append (e : Emulator) (first rest : List Char) :
    e.readAll (first ++ rest) = (e.readAll first).readAll rest :=
  List.foldl_append

theorem reads_append (e : Emulator) (first rest : String) :
    e.reads (first ++ rest) = (e.reads first).reads rest := by
  rw [reads, String.toList_append, readAll_append]
  rfl

/-! ## What commands are meant to do -/

/-- Carries a command out. -/
def carryOut (e : Emulator) : Command → Emulator
  | .enterAlternate => { e with alternate := true }
  | .leaveAlternate => { e with alternate := false }
  | .hideCursor => { e with cursorShown := false }
  | .showCursor => { e with cursorShown := true }
  | .erase => e.erase
  | .moveTo row column => e.moveTo row column
  | .foreground color => { e with foreground := color.hue }
  | .background color => { e with background := color.hue }
  | .reset => { e with foreground := .default, background := .default }
  | .print symbol => e.print symbol

/-- Carries commands out one after the other. -/
def carryOutAll (e : Emulator) (cs : List Command) : Emulator :=
  cs.foldl carryOut e

@[simp] theorem carryOutAll_nil (e : Emulator) : e.carryOutAll [] = e := rfl

@[simp] theorem carryOutAll_cons (e : Emulator) (c : Command)
    (cs : List Command) :
    e.carryOutAll (c :: cs) = (e.carryOut c).carryOutAll cs := rfl

theorem carryOutAll_append (e : Emulator) (first rest : List Command) :
    e.carryOutAll (first ++ rest) = (e.carryOutAll first).carryOutAll rest :=
  List.foldl_append

/-! ## Reading commands -/

variable {e : Emulator}

/-- A terminal that reads no sequence reads none after a command either. -/
theorem reading_carryOut (c : Command) :
    (e.carryOut c).reading = e.reading := by
  cases c with
  | print symbol =>
      unfold carryOut print
      dsimp only
      split <;> rfl
  | _ => rfl

/-- The terminal in the middle of something else. -/
def midway (e : Emulator) (reading : Reading) : Emulator :=
  { e with reading }

theorem midway_self (h : e.reading = .text) : e.midway .text = e := by
  rw [midway, ← h]

/-- The digits of a number are read as that number. -/
theorem readAll_digits (marked : Bool) (numbers : List Nat) {digits : List Char}
    (hdigits : ∀ c ∈ digits, c.isDigit) (number : Nat) :
    (e.midway (.sequence marked numbers number)).readAll digits =
      e.midway
        (.sequence marked numbers (Nat.ofDigitChars 10 digits number)) := by
  induction digits generalizing number with
  | nil => rfl
  | cons c rest ih =>
      obtain ⟨hdigit, hrest⟩ := List.forall_mem_cons.mp hdigits
      have hescape : c ≠ '\x1b' := by
        rintro rfl
        cases hdigit
      rw [readAll_cons, read, if_neg hescape]
      dsimp only [midway]
      rw [if_pos hdigit]
      exact ih hrest _

/-- A number is read as it was written. -/
theorem readAll_number (marked : Bool) (numbers : List Nat) (n : Nat) :
    (e.midway (.sequence marked numbers 0)).readAll (toString n).toList =
      e.midway (.sequence marked numbers n) := by
  have htext : (toString n).toList = Nat.toDigits 10 n := Nat.toList_repr
  have hdigits : ∀ c ∈ Nat.toDigits 10 n, c.isDigit := fun c hc =>
    Nat.isDigit_of_mem_toDigits (by decide) (by decide) hc
  rw [htext, readAll_digits marked numbers hdigits, Nat.ofDigitChars_ten_toDigits]

/-- A command is read piece by piece. -/
theorem reads_text (e : Emulator) (c : Command) :
    e.reads c.text = e.readAll (c.pieces.flatMap String.toList) :=
  congrArg e.readAll String.toList_join

/-- The text that moves the cursor moves it. -/
theorem reads_moveTo (h : e.reading = .text) (row column : Nat) :
    e.reads (Command.moveTo row column).text = e.moveTo row column := by
  have hbegin : (e.midway .text).readAll introducer.toList =
      e.midway (.sequence false [] 0) := rfl
  have hmark : (e.midway (.sequence false [] (row + 1))).readAll ";".toList =
      e.midway (.sequence false [row + 1] 0) := rfl
  have hclose : (e.midway (.sequence false [row + 1] (column + 1))).readAll
      "H".toList = (e.midway .text).moveTo row column := rfl
  rw [midway_self h] at hbegin hclose
  rw [reads_text]
  simp only [Command.pieces, List.flatMap_cons, List.flatMap_nil,
    List.append_nil, readAll_append]
  rw [hbegin, readAll_number, hmark, readAll_number, hclose]

/-- The text that prints a character prints it. -/
theorem reads_print (h : e.reading = .text) {symbol : Char}
    (hsymbol : symbol ≠ '\x1b') :
    e.reads (Command.print symbol).text = e.print symbol := by
  have htext : (Command.print symbol).pieces.flatMap String.toList = [symbol] := by
    show (String.singleton symbol).toList ++ [] = _
    rw [String.toList_singleton, List.append_nil]
  rw [reads_text, htext]
  show e.read symbol = _
  rw [read, if_neg hsymbol, h]

/-- The text of a command does what the command says, unless it prints an
escape character. -/
theorem reads_command (h : e.reading = .text) {c : Command}
    (hplain : c ≠ .print '\x1b') : e.reads c.text = e.carryOut c := by
  obtain ⟨_, _, _, _, _, _, _, _, _, _, _⟩ := e
  cases h
  -- Only the cursor's place and the printed character are not known in advance.
  cases c with
  | moveTo row column => exact reads_moveTo rfl row column
  | print symbol => exact reads_print rfl fun heq => hplain (congrArg _ heq)
  | foreground color =>
      rw [reads_text]
      cases color <;> rfl
  | background color =>
      rw [reads_text]
      cases color <;> rfl
  | _ =>
      rw [reads_text]
      rfl

/-- The texts of commands do what the commands say. -/
theorem reads_texts (h : e.reading = .text) {cs : List Command}
    (hplain : .print '\x1b' ∉ cs) : e.reads (texts cs) = e.carryOutAll cs := by
  induction cs generalizing e with
  | nil => rfl
  | cons c rest ih =>
      rw [List.mem_cons, not_or] at hplain
      have hnext : (e.carryOut c).reading = .text := by
        rw [reading_carryOut, h]
      rw [texts_cons, reads_append, reads_command h (Ne.symm hplain.1),
        carryOutAll_cons, ih hnext hplain.2]

example : ((fresh 80 24).reads "\x1b[3;5H\x1b[38;5;15mx").seen 2 4 =
    ⟨'x', .palette 15, .default⟩ := by rfl

end Emulator

/-! ## Sending commands -/

namespace Writer

variable {w : Writer}

/-- The writer after it has taken a text. -/
def took (w : Writer) (text : String) : Writer :=
  { w with written := w.written ++ text }

theorem took_took (w : Writer) (first rest : String) :
    (w.took first).took rest = w.took (first ++ rest) := by
  simp only [took, String.append_assoc]

theorem took_empty (w : Writer) : w.took "" = w := by
  simp only [took, String.append_empty]

/-- A writer that refuses nothing takes what it is given. -/
theorem write_of_willing (h : w.refusal = none) (text : String) :
    w.write text = (.ok (), w.took text) := by
  have hrefuses : w.refuses text = false := by simp only [refuses, h]
  simp only [write, hrefuses, Bool.false_eq_true, if_false, took]

theorem writeAll_of_willing (h : w.refusal = none) (pieces : List String) :
    w.writeAll pieces = (.ok (), w.took (String.join pieces)) := by
  induction pieces generalizing w with
  | nil => rw [writeAll, String.join_nil, took_empty]
  | cons piece rest ih =>
      rw [writeAll, write_of_willing h]
      dsimp only
      rw [ih (w := w.took piece) h, String.join_cons, took_took]

/-- It takes the text of a command that it is sent. -/
theorem send_of_willing (h : w.refusal = none) (c : Command) :
    w.send c = (.ok (), w.took c.text) :=
  writeAll_of_willing h c.pieces

/-- It takes the texts of all of them. -/
theorem sendAll_of_willing (h : w.refusal = none) (cs : List Command) :
    w.sendAll cs = (.ok (), w.took (texts cs)) := by
  induction cs generalizing w with
  | nil => rw [sendAll, texts_nil, took_empty]
  | cons c rest ih =>
      rw [sendAll, send_of_willing h]
      dsimp only
      rw [ih (w := w.took c.text) h, texts_cons, took_took]

end Writer

end Chip8.Terminal
