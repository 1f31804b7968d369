import Chip8.Terminal.Update
import Chip8.Proofs.Emulator

/-!
# Printing what has changed

An update prints the cells that have changed, and leaves cursor and colours
alone where the terminal has them right already.  What the pen believes of the
terminal is true from one change to the next (`Pen.Knows`), so every change
arrives in its own cell and in its own colours, whatever was left out
(`Pen.carryOutAll_commands`).  The cells that have not changed are not among
the changes (`countP_changes`), and those that have are there once.

So a terminal that shows one window shows the other after the update
(`Emulator.shows_update`).

## Main results

* `countP_changes`, `cell_of_mem_changes` — what the changes of a window are.
* `Emulator.carryOutAll_printAll` — printing changes is painting them.
* `Emulator.shows_update`, `Emulator.printed_update` — an update prints what has
  changed and nothing else.
-/

namespace Chip8.Terminal

/-! ## Cells of a window -/

/-- The cell in a row and a column. -/
def cellIn (cells : Cells) (row column : Nat) : Option Cell :=
  cells[row]?.bind fun those => those[column]?

/-- Whether two windows have the same shape. -/
def SameShape (old new : Cells) : Prop :=
  old.map List.length = new.map List.length

/-- Windows of the same shape have cells in the same places. -/
theorem SameShape.exists_cell {old new : Cells} (h : SameShape old new)
    {row column : Nat} {cell : Cell} (hcell : cellIn new row column = some cell) :
    ∃ cell', cellIn old row column = some cell' := by
  obtain ⟨news, hnews, hcolumn⟩ := Option.bind_eq_some_iff.mp hcell
  have hlength : old[row]?.map List.length = some news.length := by
    rw [← List.getElem?_map, h, List.getElem?_map, hnews]
    rfl
  obtain ⟨olds, holds, heq⟩ := Option.map_eq_some_iff.mp hlength
  have hlt : column < olds.length := by
    rw [heq]
    exact (List.getElem?_eq_some_iff.mp hcolumn).1
  refine ⟨olds[column], ?_⟩
  rw [cellIn, holds]
  exact List.getElem?_eq_getElem hlt

theorem SameShape.cellIn_eq_none {old new : Cells} (h : SameShape old new)
    {row column : Nat} (hnone : cellIn new row column = none) :
    cellIn old row column = none := by
  rw [Option.eq_none_iff_forall_ne_some] at hnone ⊢
  intro cell hcell
  obtain ⟨cell', hcell'⟩ := SameShape.exists_cell (Eq.symm h) hcell
  exact hnone cell' hcell'

/-- What is seen where a cell is shown. -/
def Cell.glyph (c : Cell) : Glyph where
  symbol := c.symbol
  foreground := c.foreground.hue
  background := c.background.hue

/-- Different cells are seen to be different. -/
theorem Cell.glyph_inj {a b : Cell} (h : a.glyph = b.glyph) : a = b := by
  obtain ⟨hsymbol, hforeground, hbackground⟩ := Glyph.mk.inj h
  cases a
  cases b
  rw [Cell.mk.injEq]
  exact ⟨hsymbol, Color.hue_inj hforeground, Color.hue_inj hbackground⟩

/-! ## Changes -/

namespace Change

/-- Whether a change is one of the cell in a row and a column. -/
def isAt (row column : Nat) (ch : Change) : Bool :=
  ch.row = row ∧ ch.column = column

theorem isAt_iff {row column : Nat} {ch : Change} :
    ch.isAt row column ↔ ch.row = row ∧ ch.column = column :=
  decide_eq_true_iff

end Change

/-- A change of a row stands for a cell of the new row. -/
theorem of_mem_rowChanges {row column : Nat} {olds news : List Cell} {ch : Change}
    (h : ch ∈ rowChanges row column olds news) :
    ch.row = row ∧ ∃ i, ch.column = column + i ∧ news[i]? = some ch.cell := by
  induction olds generalizing column news with
  | nil => cases h
  | cons old olds ih =>
      cases news with
      | nil => cases h
      | cons new news =>
          have hrest (h : ch ∈ rowChanges row (column + 1) olds news) :
              ch.row = row ∧
                ∃ i, ch.column = column + i ∧
                  (new :: news)[i]? = some ch.cell := by
            obtain ⟨hrow, i, hcolumn, hcell⟩ := ih h
            exact ⟨hrow, i + 1, by omega, hcell⟩
          by_cases hsame : old = new
          · simp only [rowChanges, hsame, if_true] at h
            exact hrest h
          · simp only [rowChanges, hsame, if_false, List.mem_cons] at h
            rcases h with rfl | h
            · exact ⟨rfl, 0, rfl, rfl⟩
            · exact hrest h

/-- A row has one change where it has changed, and none where it has not. -/
theorem countP_rowChanges (row column : Nat) {olds news : List Cell}
    (hlength : olds.length = news.length) (i : Nat) :
    (rowChanges row column olds news).countP (Change.isAt row (column + i)) =
      if olds[i]? = news[i]? then 0 else 1 := by
  induction olds generalizing column news i with
  | nil =>
      have hnews : news = [] := List.length_eq_zero_iff.mp hlength.symm
      rw [hnews, if_pos rfl]
      rfl
  | cons old olds ih =>
      cases news with
      | nil => cases hlength
      | cons new news =>
          have hlength' : olds.length = news.length := Nat.succ.inj hlength
          cases i with
          | zero =>
              have hlater : (rowChanges row (column + 1) olds news).countP
                  (Change.isAt row column) = 0 := by
                rw [List.countP_eq_zero]
                intro ch hch hat
                obtain ⟨_, i, hcolumn, _⟩ := of_mem_rowChanges hch
                have hcolumn' := (Change.isAt_iff.mp hat).2
                omega
              have hhere (c : Cell) :
                  Change.isAt row column ⟨row, column, c⟩ = true :=
                Change.isAt_iff.mpr ⟨rfl, rfl⟩
              by_cases hsame : old = new
              · simp only [rowChanges, hsame, if_true, Nat.add_zero, hlater,
                  List.getElem?_cons_zero]
              · simp only [rowChanges, hsame, if_false, Nat.add_zero,
                  List.countP_cons, hlater, hhere, if_true,
                  List.getElem?_cons_zero, Option.some.injEq]
          | succ i =>
              have hother (c : Cell) :
                  ¬ Change.isAt row (column + (i + 1)) ⟨row, column, c⟩ = true := by
                rw [Change.isAt_iff]
                dsimp only
                omega
              have hrest := ih (column + 1) hlength' i
              rw [Nat.add_right_comm, Nat.add_assoc] at hrest
              by_cases hsame : old = new
              · simp only [rowChanges, hsame, if_true, hrest,
                  List.getElem?_cons_succ]
              · simp only [rowChanges, hsame, if_false,
                  List.countP_cons_of_neg (hother new), hrest,
                  List.getElem?_cons_succ]

/-- A change of a window stands for a cell of the new window. -/
theorem of_mem_changesFrom {row : Nat} {old new : Cells} {ch : Change}
    (h : ch ∈ changesFrom row old new) :
    ∃ i, ch.row = row + i ∧ cellIn new i ch.column = some ch.cell := by
  induction old generalizing row new with
  | nil => cases h
  | cons olds old ih =>
      cases new with
      | nil => cases h
      | cons news new =>
          rw [changesFrom, List.mem_append] at h
          rcases h with h | h
          · obtain ⟨hrow, i, hcolumn, hcell⟩ := of_mem_rowChanges h
            rw [Nat.zero_add] at hcolumn
            exact ⟨0, hrow, hcolumn ▸ hcell⟩
          · obtain ⟨i, hrow, hcell⟩ := ih h
            exact ⟨i + 1, by omega, hcell⟩

theorem countP_changesFrom (row : Nat) {old new : Cells}
    (hshape : SameShape old new) (i column : Nat) :
    (changesFrom row old new).countP (Change.isAt (row + i) column) =
      if cellIn old i column = cellIn new i column then 0 else 1 := by
  induction old generalizing row new i with
  | nil =>
      have hnew : new = [] := List.map_eq_nil_iff.mp hshape.symm
      rw [hnew, if_pos rfl]
      rfl
  | cons olds old ih =>
      cases new with
      | nil => cases hshape
      | cons news new =>
          obtain ⟨hlength, hshape'⟩ := List.cons.inj hshape
          rw [changesFrom, List.countP_append]
          cases i with
          | zero =>
              have hlater : (changesFrom (row + 1) old new).countP
                  (Change.isAt row column) = 0 := by
                rw [List.countP_eq_zero]
                intro ch hch hat
                obtain ⟨i, hrow, _⟩ := of_mem_changesFrom hch
                have hrow' := (Change.isAt_iff.mp hat).1
                omega
              have hhere := countP_rowChanges row 0 hlength column
              rw [Nat.zero_add] at hhere
              rw [Nat.add_zero, hlater, hhere]
              rfl
          | succ i =>
              have hearlier : (rowChanges row 0 olds news).countP
                  (Change.isAt (row + (i + 1)) column) = 0 := by
                rw [List.countP_eq_zero]
                intro ch hch hat
                have hrow := (of_mem_rowChanges hch).1
                have hrow' := (Change.isAt_iff.mp hat).1
                omega
              have hrest := ih (row + 1) hshape' i
              rw [Nat.add_right_comm, Nat.add_assoc] at hrest
              rw [hearlier, Nat.zero_add, hrest]
              rfl

/-- A window has one change where it has changed, and none where it has not. -/
theorem countP_changes {old new : Cells} (hshape : SameShape old new)
    (row column : Nat) :
    (changes old new).countP (Change.isAt row column) =
      if cellIn old row column = cellIn new row column then 0 else 1 := by
  have h := countP_changesFrom 0 hshape row column
  rwa [Nat.zero_add] at h

theorem cell_of_mem_changes {old new : Cells} {ch : Change}
    (h : ch ∈ changes old new) : cellIn new ch.row ch.column = some ch.cell := by
  obtain ⟨i, hrow, hcell⟩ := of_mem_changesFrom h
  rw [hrow, Nat.zero_add]
  exact hcell

/-! ## Printing one change -/

/-- The pen is right about the terminal. -/
structure Pen.Knows (p : Pen) (e : Emulator) : Prop where
  position : ∀ row column, p.position = some (row, column) →
    e.row = row ∧ e.column = column
  foreground : e.foreground = p.foreground.hue
  background : e.background = p.background.hue

namespace Emulator

variable {e : Emulator}

/-- The terminal after a change has been printed, with the cursor behind it. -/
def paint (e : Emulator) (ch : Change) : Emulator :=
  { e.fill ch.row ch.column ch.cell.glyph with
    row := ch.row
    column := ch.column + 1
    foreground := ch.cell.foreground.hue
    background := ch.cell.background.hue }

/-- The terminal after changes have been printed one after the other. -/
def paintAll (e : Emulator) (chs : List Change) : Emulator :=
  chs.foldl paint e

/-- Whether there is a cell for a change. -/
def Holds (e : Emulator) (ch : Change) : Prop :=
  ch.row < e.rows ∧ ch.column < e.columns

/-- The cursor is moved only if it has to be. -/
theorem carryOutAll_position {p : Pen} (h : p.Knows e) {ch : Change}
    (hin : e.Holds ch) :
    e.carryOutAll (if p.position = some (ch.row, ch.column) then []
        else [.moveTo ch.row ch.column]) =
      { e with row := ch.row, column := ch.column } := by
  by_cases hposition : p.position = some (ch.row, ch.column)
  · obtain ⟨hrow, hcolumn⟩ := h.position _ _ hposition
    rw [if_pos hposition, carryOutAll_nil, ← hrow, ← hcolumn]
  · have hrow : min ch.row (e.rows - 1) = ch.row := by
      have := hin.1
      omega
    have hcolumn : min ch.column (e.columns - 1) = ch.column := by
      have := hin.2
      omega
    rw [if_neg hposition, carryOutAll_cons, carryOutAll_nil]
    show e.moveTo ch.row ch.column = _
    rw [moveTo, hrow, hcolumn]

/-- A colour is chosen only if it has to be. -/
theorem carryOutAll_foreground (e : Emulator) {color : Color}
    (h : e.foreground = color.hue) (next : Color) :
    e.carryOutAll (if color = next then [] else [.foreground next]) =
      { e with foreground := next.hue } := by
  by_cases hsame : color = next
  · rw [if_pos hsame, carryOutAll_nil, ← hsame, ← h]
  · rw [if_neg hsame]
    rfl

theorem carryOutAll_background (e : Emulator) {color : Color}
    (h : e.background = color.hue) (next : Color) :
    e.carryOutAll (if color = next then [] else [.background next]) =
      { e with background := next.hue } := by
  by_cases hsame : color = next
  · rw [if_pos hsame, carryOutAll_nil, ← hsame, ← h]
  · rw [if_neg hsame]
    rfl

/-- A change arrives in its own cell and in its own colours, whatever the pen
leaves out. -/
theorem carryOutAll_commands {p : Pen} (h : p.Knows e) {ch : Change}
    (hin : e.Holds ch) : e.carryOutAll (p.commands ch) = e.paint ch := by
  let placed : Emulator := { e with row := ch.row, column := ch.column }
  have hforeground :=
    carryOutAll_foreground placed h.foreground ch.cell.foreground
  have hbackground :=
    carryOutAll_background { placed with foreground := ch.cell.foreground.hue }
      h.background ch.cell.background
  rw [Pen.commands, carryOutAll_append, carryOutAll_append, carryOutAll_append,
    carryOutAll_position h hin, hforeground, hbackground]
  exact if_pos hin.2

/-- After it the pen is right again. -/
theorem knows_paint (e : Emulator) (ch : Change) :
    (Pen.after ch).Knows (e.paint ch) where
  position row column h := by
    obtain ⟨hrow, hcolumn⟩ := Prod.mk.inj (Option.some.inj h)
    exact ⟨hrow, hcolumn⟩
  foreground := rfl
  background := rfl

/-! ## Printing all of them -/

/-- Printing changes is painting them. -/
theorem carryOutAll_printAll {p : Pen} (h : p.Knows e) {chs : List Change}
    (hin : ∀ ch ∈ chs, e.Holds ch) :
    e.carryOutAll (printAll p chs) = e.paintAll chs := by
  induction chs generalizing e p with
  | nil => rfl
  | cons ch rest ih =>
      obtain ⟨hhere, hrest⟩ := List.forall_mem_cons.mp hin
      rw [printAll, carryOutAll_append, carryOutAll_commands h hhere,
        ih (knows_paint e ch) hrest]
      rfl

/-- A cell is printed as often as there are changes of it. -/
theorem printed_paintAll (e : Emulator) (chs : List Change) (row column : Nat) :
    (e.paintAll chs).printed row column =
      e.printed row column + chs.countP (Change.isAt row column) := by
  induction chs generalizing e with
  | nil => rfl
  | cons ch rest ih =>
      have hpaint : (e.paint ch).printed row column =
          e.printed row column +
            if ch.isAt row column then 1 else 0 := by
        have hat : (row = ch.row ∧ column = ch.column) ↔ ch.isAt row column := by
          rw [Change.isAt_iff, eq_comm, @eq_comm _ column]
        show (if row = ch.row ∧ column = ch.column then _ else _) = _
        rw [if_congr hat rfl rfl]
        split <;> rfl
      show ((e.paint ch).paintAll rest).printed row column = _
      rw [ih, hpaint, List.countP_cons]
      omega

/-- A cell shows what was printed there last, if anything was. -/
theorem seen_paintAll (e : Emulator) {chs : List Change} {row column : Nat}
    {g : Glyph} (h : ∀ ch ∈ chs, ch.isAt row column → ch.cell.glyph = g) :
    (e.paintAll chs).seen row column =
      if chs.countP (Change.isAt row column) = 0 then e.seen row column
      else g := by
  induction chs generalizing e with
  | nil => rfl
  | cons ch rest ih =>
      obtain ⟨hhere, hrest⟩ := List.forall_mem_cons.mp h
      show ((e.paint ch).paintAll rest).seen row column = _
      rw [ih _ hrest, List.countP_cons]
      by_cases hat : ch.isAt row column
      · obtain ⟨hrow, hcolumn⟩ := Change.isAt_iff.mp hat
        have hpaint : (e.paint ch).seen row column = g := by
          rw [← hhere hat]
          exact if_pos ⟨hrow.symm, hcolumn.symm⟩
        rw [hpaint, ite_self, if_pos hat, if_neg (Nat.succ_ne_zero _)]
      · have hpaint : (e.paint ch).seen row column = e.seen row column := by
          refine if_neg fun hboth => hat (Change.isAt_iff.mpr ?_)
          exact ⟨hboth.1.symm, hboth.2.symm⟩
        rw [hpaint, if_neg hat, Nat.add_zero]

/-! ## Updates -/

/-- What a sequence of changes leaves alone. -/
theorem reading_paintAll (e : Emulator) (chs : List Change) :
    (e.paintAll chs).reading = e.reading := by
  induction chs generalizing e with
  | nil => rfl
  | cons ch rest ih => exact ih (e.paint ch)

theorem size_paintAll (e : Emulator) (chs : List Change) :
    (e.paintAll chs).rows = e.rows ∧ (e.paintAll chs).columns = e.columns := by
  induction chs generalizing e with
  | nil => exact ⟨rfl, rfl⟩
  | cons ch rest ih => exact ih (e.paint ch)

/-- The terminal reads no sequence, and no colours are in use but its own. -/
structure AtRest (e : Emulator) : Prop where
  reading : e.reading = .text
  foreground : e.foreground = .default
  background : e.background = .default

/-- The terminal shows a window in its upper left corner. -/
structure Shows (e : Emulator) (cells : Cells) : Prop extends AtRest e where
  rows : ∀ row column cell, cellIn cells row column = some cell → row < e.rows
  columns : ∀ row column cell, cellIn cells row column = some cell →
    column < e.columns
  seen : ∀ row column cell, cellIn cells row column = some cell →
    e.seen row column = cell.glyph

variable {old new : Cells}

/-- An update prints no character that the new window does not show. -/
theorem print_notMem_update {symbol : Char}
    (h : ∀ row column cell, cellIn new row column = some cell →
      cell.symbol ≠ symbol) : .print symbol ∉ update old new := by
  have hall {chs : List Change} (hchs : ∀ ch ∈ chs, ch.cell.symbol ≠ symbol)
      (p : Pen) : .print symbol ∉ printAll p chs := by
    induction chs generalizing p with
    | nil => exact List.not_mem_nil
    | cons ch rest ih =>
        obtain ⟨hhere, hrest⟩ := List.forall_mem_cons.mp hchs
        have hcommands : .print symbol ∉ p.commands ch := by
          simp only [Pen.commands, List.mem_append, not_or]
          refine ⟨⟨⟨?_, ?_⟩, ?_⟩, ?_⟩
          · split <;> simp
          · split <;> simp
          · split <;> simp
          · simpa using hhere.symm
        rw [printAll, List.mem_append, not_or]
        exact ⟨hcommands, ih hrest _⟩
  rw [Terminal.update, List.mem_append, not_or]
  refine ⟨hall (fun ch hch => h _ _ _ (cell_of_mem_changes hch)) {}, ?_⟩
  simp [closing]

/-- A change is one of a cell that the terminal has. -/
theorem Shows.holds (h : e.Shows old) (hshape : SameShape old new) {ch : Change}
    (hch : ch ∈ changes old new) : e.Holds ch := by
  obtain ⟨cell, hcell⟩ := hshape.exists_cell (cell_of_mem_changes hch)
  exact ⟨h.rows _ _ _ hcell, h.columns _ _ _ hcell⟩

/-- An update paints the changes and gives the colours up. -/
theorem carryOutAll_update (h : e.Shows old) (hshape : SameShape old new) :
    e.carryOutAll (update old new) =
      { e.paintAll (changes old new) with
        foreground := .default
        background := .default
        cursorShown := false } := by
  have hpen : Pen.Knows {} e := ⟨nofun, h.foreground, h.background⟩
  rw [Terminal.update, carryOutAll_append,
    carryOutAll_printAll hpen fun ch => h.holds hshape]
  rfl

/-- A terminal that shows one window shows the other after the update. -/
theorem shows_update (h : e.Shows old) (hshape : SameShape old new) :
    (e.carryOutAll (update old new)).Shows new := by
  obtain ⟨hrows, hcolumns⟩ := e.size_paintAll (changes old new)
  rw [carryOutAll_update h hshape]
  refine ⟨⟨?_, rfl, rfl⟩, ?_, ?_, ?_⟩
  · exact (e.reading_paintAll _).trans h.reading
  · intro row column cell hcell
    obtain ⟨cell', hcell'⟩ := hshape.exists_cell hcell
    exact hrows ▸ h.rows _ _ _ hcell'
  · intro row column cell hcell
    obtain ⟨cell', hcell'⟩ := hshape.exists_cell hcell
    exact hcolumns ▸ h.columns _ _ _ hcell'
  · intro row column cell hcell
    show (e.paintAll (changes old new)).seen row column = _
    rw [seen_paintAll e (g := cell.glyph), countP_changes hshape]
    · by_cases hsame : cellIn old row column = cellIn new row column
      · rw [if_pos hsame, if_pos rfl, h.seen _ _ _ (hsame.trans hcell)]
      · rw [if_neg hsame, if_neg Nat.one_ne_zero]
    · intro ch hch hat
      obtain ⟨rfl, rfl⟩ := Change.isAt_iff.mp hat
      rw [cell_of_mem_changes hch] at hcell
      rw [Option.some.inj hcell]

/-- What lies outside the window is left as it is. -/
theorem seen_update_of_none (h : e.Shows old) (hshape : SameShape old new)
    {row column : Nat} (hnone : cellIn new row column = none) :
    (e.carryOutAll (update old new)).seen row column = e.seen row column := by
  rw [carryOutAll_update h hshape]
  show (e.paintAll (changes old new)).seen row column = _
  rw [seen_paintAll e (g := e.seen row column), ite_self]
  intro ch hch hat
  obtain ⟨rfl, rfl⟩ := Change.isAt_iff.mp hat
  rw [cell_of_mem_changes hch] at hnone
  cases hnone

/-- A cell is printed once if something else is seen there afterwards, and not
at all otherwise. -/
theorem printed_update (h : e.Shows old) (hshape : SameShape old new)
    (row column : Nat) :
    (e.carryOutAll (update old new)).printed row column =
      e.printed row column +
        if (e.carryOutAll (update old new)).seen row column =
          e.seen row column then 0 else 1 := by
  have hprinted : (e.carryOutAll (update old new)).printed row column =
      e.printed row column +
        if cellIn old row column = cellIn new row column then 0 else 1 := by
    rw [carryOutAll_update h hshape, ← countP_changes hshape]
    exact e.printed_paintAll _ _ _
  have hseen : cellIn old row column = cellIn new row column ↔
      (e.carryOutAll (update old new)).seen row column = e.seen row column := by
    cases hcell : cellIn new row column with
    | none =>
        rw [seen_update_of_none h hshape hcell, hshape.cellIn_eq_none hcell]
        exact iff_of_true rfl rfl
    | some cell =>
        obtain ⟨cell', hcell'⟩ := hshape.exists_cell hcell
        rw [(shows_update h hshape).seen _ _ _ hcell, h.seen _ _ _ hcell', hcell',
          Option.some.injEq]
        exact ⟨fun heq => congrArg Cell.glyph heq.symm,
          fun heq => (Cell.glyph_inj heq).symm⟩
  rw [hprinted, if_congr hseen rfl rfl]

end Emulator

end Chip8.Terminal
