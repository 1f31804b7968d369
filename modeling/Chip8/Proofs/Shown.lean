import Chip8.Terminal.Display
import Chip8.Proofs.Repaint

/-!
# What the terminal shows

A panel is a display together with its picture.  Drawing and clearing change
the picture and write nothing; a flush brings the terminal up to date.  What a
terminal shows after a flush is told by the text it has been sent since it was
taken over, so a terminal that was in any state before shows the picture, and
every cell of the frame.

The panel keeps in mind what it has shown, and never looks.  That this is what
is seen there is the invariant of all work (`Panel.Tracked`).

## Main results

* `cellIn_cellsOf` — the cells of a window one by one.
* `Panel.tracked_setUp`, `Panel.Tracked.performAll` — the panel is right about
  the terminal.
* `Panel.flush_shows` — after a flush the terminal shows the picture.
-/

namespace Chip8.Terminal

/-! ## The cells of a picture -/

variable {f : Framebuffer} {w : Window} {row column : Nat} {cell : Cell}

theorem cellIn_cellsOf (f : Framebuffer) (w : Window) (row column : Nat) :
    cellIn (cellsOf f w) row column =
      if row < w.rows ∧ column < w.columns then some (cellAt f w column row)
      else none := by
  by_cases hrow : row < w.rows
  · by_cases hcolumn : column < w.columns <;>
      simp [cellIn, cellsOf, hrow, hcolumn]
  · simp [cellIn, cellsOf, hrow]

theorem cellIn_blankCells (w : Window) (row column : Nat) :
    cellIn (blankCells w) row column =
      if row < w.rows ∧ column < w.columns then some {} else none := by
  by_cases hrow : row < w.rows
  · by_cases hcolumn : column < w.columns <;>
      simp [cellIn, blankCells, hrow, hcolumn]
  · simp [cellIn, blankCells, hrow]

theorem of_cellIn_cellsOf (h : cellIn (cellsOf f w) row column = some cell) :
    cell = cellAt f w column row := by
  rw [cellIn_cellsOf] at h
  split at h
  · exact (Option.some.inj h).symm
  · cases h

theorem of_cellIn_blankCells (h : cellIn (blankCells w) row column = some cell) :
    row < w.rows ∧ column < w.columns ∧ cell = {} := by
  rw [cellIn_blankCells] at h
  split at h
  · next hin => exact ⟨hin.1, hin.2, (Option.some.inj h).symm⟩
  · cases h

/-- A window has the same shape whatever it shows. -/
theorem sameShape_cellsOf (f : Framebuffer) (w : Window) :
    SameShape (blankCells w) (cellsOf f w) := by
  have hlines : List.length ∘ (fun row =>
      (List.range w.columns).map fun column => cellAt f w column row) =
        Function.const Nat w.columns := by
    funext row
    simp
  rw [SameShape, blankCells, cellsOf, List.map_replicate, List.length_replicate,
    List.map_map, hlines, List.map_const, List.length_range]

/-- The characters that a window is made of. -/
def symbols : List Char :=
  title ++ ['┌', '┐', '└', '┘', '─', '│', '▄', ' ']

/-- The upper edge shows its corners, the title and lines. -/
theorem upperEdge_mem_symbols (w : Window) (column : Nat) :
    upperEdge w column ∈ symbols := by
  unfold upperEdge
  split
  · decide
  · split
    · decide
    · rw [List.getD_eq_getElem?_getD]
      cases h : title[column - 1]? with
      | none => decide
      | some c => exact List.mem_append_left _ (List.mem_of_getElem? h)

theorem lowerEdge_mem_symbols (w : Window) (column : Nat) :
    lowerEdge w column ∈ symbols := by
  unfold lowerEdge
  split
  · decide
  · split <;> decide

theorem innerCell_mem_symbols (f : Framebuffer) (w : Window)
    (column row : Nat) : (innerCell f w column row).symbol ∈ symbols := by
  have hempty : ' ' ∈ symbols := by decide
  have hblock : '▄' ∈ symbols := by decide
  unfold innerCell
  dsimp only
  split
  · exact hempty
  · exact hblock

/-- Every cell of a window shows one of them. -/
theorem cellAt_mem_symbols (f : Framebuffer) (w : Window) (column row : Nat) :
    (cellAt f w column row).symbol ∈ symbols := by
  have hside : '│' ∈ symbols := by decide
  unfold cellAt
  split
  · exact upperEdge_mem_symbols w column
  · split
    · exact lowerEdge_mem_symbols w column
    · split
      · exact hside
      · exact innerCell_mem_symbols f w (column - 1) (row - 1)

/-- So no update prints any other character. -/
theorem print_notMem_update_cells {symbol : Char} (h : symbol ∉ symbols)
    (old : Cells) (f : Framebuffer) : .print symbol ∉ update old (cells f) := by
  apply Emulator.print_notMem_update
  intro row column cell hcell hsymbol
  rw [of_cellIn_cellsOf hcell] at hsymbol
  exact h (hsymbol ▸ cellAt_mem_symbols f _ column row)

/-! ## Displays whose writer refuses nothing -/

namespace Display

theorem setUp_of_willing {w : Writer} (h : w.refusal = none)
    (r : Resolution) :
    setUp w r =
      (.ok (),
        { writer := w.took (texts [.enterAlternate, .hideCursor, .erase])
          shown := blankCells (.ofResolution r)
          cursorHidden := true }) := by
  have henter := Writer.send_of_willing h .enterAlternate
  have hhide := Writer.send_of_willing
    (w := w.took (Command.text .enterAlternate)) h .hideCursor
  have herase := Writer.send_of_willing
    (w := (w.took (Command.text .enterAlternate)).took
      (Command.text .hideCursor)) h .erase
  simp only [setUp, takeOver, hideCursor, henter, hhide, herase]
  simp only [Writer.took_took, texts_cons, texts_nil, String.append_empty,
    String.append_assoc]

theorem flush_of_willing {d : Display} (h : d.writer.refusal = none)
    (f : Framebuffer) :
    d.flush f =
      (.ok (),
        { writer := d.writer.took (texts (update d.shown (cells f)))
          shown := cells f
          cursorHidden := true }) := by
  rw [flush, Writer.sendAll_of_willing h]

end Display

/-! ## Panels -/

/-- A display together with its picture. -/
structure Panel where
  display : Display
  picture : Framebuffer

namespace Panel

/-- What a panel is asked to do. -/
inductive Work where
  /-- Draw a sprite with its top left corner at a place. -/
  | draw (x y : Nat) (sprite : List UInt8)
  /-- Turn every pixel off. -/
  | clear
  /-- Show the picture. -/
  | flush
  deriving DecidableEq, Repr

/-- Takes a terminal over through a writer, with a dark picture. -/
def setUp (writer : Writer) (r : Resolution) : Except IoError Unit × Panel :=
  ((Display.setUp writer r).1,
    { display := (Display.setUp writer r).2, picture := .blank r })

/-- Shows the picture. -/
def flush (p : Panel) : Except IoError Unit × Panel :=
  ((p.display.flush p.picture).1,
    { p with display := (p.display.flush p.picture).2 })

/-- What has been written to the terminal. -/
def text (p : Panel) : String :=
  p.display.writer.written

/-- What a piece of work does to a picture. -/
def Work.paint (f : Framebuffer) : Work → Framebuffer
  | draw x y sprite => (f.draw x y sprite).2
  | clear => f.clear
  | flush => f

/-- Does a piece of work. -/
def perform (p : Panel) : Work → Panel
  | .flush => p.flush.2
  | work => { p with picture := work.paint p.picture }

/-- Does one piece of work after the other. -/
def performAll (p : Panel) (works : List Work) : Panel :=
  works.foldl perform p

theorem performAll_append (p : Panel) (first rest : List Work) :
    p.performAll (first ++ rest) = (p.performAll first).performAll rest :=
  List.foldl_append

/-! ### The panel is right about the terminal -/

/-- The panel's writer refuses nothing, and what the panel has shown is what is
seen on a terminal that has read its text. -/
structure Tracked (e : Emulator) (r : Resolution) (p : Panel) : Prop where
  willing : p.display.writer.refusal = none
  resolution : p.picture.resolution = r
  shape : SameShape (blankCells (.ofResolution r)) p.display.shown
  shows : (e.reads p.text).Shows p.display.shown

variable {e : Emulator} {r : Resolution} {p : Panel}

/-- A new panel is: it has had the terminal blanked. -/
theorem tracked_setUp (hrest : e.AtRest)
    (hcolumns : (Window.ofResolution r).columns ≤ e.columns)
    (hrows : (Window.ofResolution r).rows ≤ e.rows) :
    ∃ p, setUp {} r = (.ok (), p) ∧ p.picture = .blank r ∧ p.Tracked e r := by
  have hsetUp : setUp {} r =
      (.ok (),
        { display :=
            { writer := Writer.took {}
                (texts [.enterAlternate, .hideCursor, .erase])
              shown := blankCells (.ofResolution r)
              cursorHidden := true }
          picture := .blank r }) := by
    rw [setUp, Display.setUp_of_willing rfl]
  have hreads : e.reads (texts [.enterAlternate, .hideCursor, .erase]) =
      e.carryOutAll [.enterAlternate, .hideCursor, .erase] :=
    Emulator.reads_texts hrest.reading (by decide)
  refine ⟨_, hsetUp, rfl, rfl, rfl, rfl, ?_⟩
  show (e.reads ("" ++ _)).Shows (blankCells (.ofResolution r))
  rw [String.empty_append, hreads]
  refine ⟨⟨hrest.reading, hrest.foreground, hrest.background⟩, ?_, ?_, ?_⟩
  · intro row column cell hcell
    exact Nat.lt_of_lt_of_le (of_cellIn_blankCells hcell).1 hrows
  · intro row column cell hcell
    exact Nat.lt_of_lt_of_le (of_cellIn_blankCells hcell).2.1 hcolumns
  · intro row column cell hcell
    rw [(of_cellIn_blankCells hcell).2.2]
    rfl

/-- What the panel has shown has the shape of what it is to show. -/
theorem Tracked.sameShape (h : p.Tracked e r) :
    SameShape p.display.shown (cells p.picture) := by
  have hcells := sameShape_cellsOf p.picture (.ofResolution r)
  rw [cells, h.resolution]
  exact h.shape.symm.trans hcells

/-- A flush succeeds, and what it sends brings the terminal up to date. -/
theorem Tracked.flush (h : p.Tracked e r) :
    ∃ p', p.flush = (.ok (), p') ∧ p'.Tracked e r ∧
      p'.picture = p.picture ∧ p'.display.shown = cells p.picture ∧
      e.reads p'.text =
        (e.reads p.text).carryOutAll
          (update p.display.shown (cells p.picture)) := by
  have hflush : p.flush =
      (.ok (),
        { display :=
            { writer := p.display.writer.took
                (texts (update p.display.shown (cells p.picture)))
              shown := cells p.picture
              cursorHidden := true }
          picture := p.picture }) := by
    rw [Panel.flush, Display.flush_of_willing h.willing]
  have hshape := h.sameShape
  have hplain : .print '\x1b' ∉ update p.display.shown (cells p.picture) :=
    print_notMem_update_cells (by decide) _ _
  have hreads :
      e.reads (p.text ++ texts (update p.display.shown (cells p.picture))) =
        (e.reads p.text).carryOutAll
          (update p.display.shown (cells p.picture)) := by
    rw [Emulator.reads_append, Emulator.reads_texts h.shows.reading hplain]
  refine ⟨_, hflush, ⟨h.willing, h.resolution, h.shape.trans hshape, ?_⟩, rfl,
    rfl, hreads⟩
  show (e.reads (p.text ++ _)).Shows (cells p.picture)
  rw [hreads]
  exact Emulator.shows_update h.shows hshape

/-- Drawing and clearing write nothing. -/
theorem text_perform {work : Work} (h : work ≠ .flush) (p : Panel) :
    (p.perform work).text = p.text := by
  cases work with
  | flush => exact absurd rfl h
  | _ => rfl

theorem text_performAll {works : List Work} (h : .flush ∉ works) (p : Panel) :
    (p.performAll works).text = p.text := by
  induction works generalizing p with
  | nil => rfl
  | cons work rest ih =>
      rw [List.mem_cons, not_or] at h
      show ((p.perform work).performAll rest).text = _
      rw [ih h.2, text_perform (Ne.symm h.1)]

/-- All work keeps it so. -/
theorem Tracked.perform (h : p.Tracked e r) (work : Work) :
    (p.perform work).Tracked e r := by
  cases work with
  | flush =>
      obtain ⟨p', hflush, hp', _⟩ := h.flush
      rw [Panel.perform, hflush]
      exact hp'
  | draw x y sprite => exact ⟨h.willing, h.resolution, h.shape, h.shows⟩
  | clear => exact ⟨h.willing, h.resolution, h.shape, h.shows⟩

theorem Tracked.performAll (h : p.Tracked e r) (works : List Work) :
    (p.performAll works).Tracked e r := by
  induction works generalizing p with
  | nil => exact h
  | cons work rest ih => exact ih (h.perform work)

end Panel

/-! ## Seeing the picture -/

/-- Where there is room for every pixel, each has its cell. -/
theorem cellAt_pixel {x y : Nat} (hx : x < f.resolution.width)
    (hy : y < f.resolution.height) (hwidth : 1 < f.resolution.width)
    (hheight : 1 < f.resolution.height) :
    cellAt f ⟨f.resolution.width + 2, f.resolution.height + 2⟩ (x + 1) (y + 1) =
      pixel (f.isLit x y) := by
  have hrow : y + 1 + 1 ≠ f.resolution.height + 2 := by omega
  have hcolumn : ¬ (x + 1 = 0 ∨ x + 1 + 1 = f.resolution.width + 2) := by omega
  have hxs : (Scale.mk f.resolution.width f.resolution.width).shownBy x = [x] :=
    Scale.shownBy_self hwidth hx
  have hys : (Scale.mk f.resolution.height f.resolution.height).shownBy y = [y] :=
    Scale.shownBy_self hheight hy
  rw [cellAt, if_neg (Nat.succ_ne_zero y), if_neg hrow, if_neg hcolumn]
  simp [innerCell, Window.innerColumns, Window.innerRows, hxs, hys]

namespace Emulator

/-- What is seen of the frame. -/
def framed (symbol : Char) : Glyph where
  symbol := symbol
  background := .palette 0

/-- The terminal shows a picture: a block for every pixel, bright white if it
is lit and black if not, and around them the frame with its title. -/
structure ShowsPicture (e : Emulator) (f : Framebuffer) : Prop where
  pixel : ∀ x y, x < f.resolution.width → y < f.resolution.height →
    e.seen (y + 1) (x + 1) =
      ⟨'▄', .palette (if f.isLit x y then 15 else 0), .default⟩
  upper : ∀ x < f.resolution.width,
    e.seen 0 (x + 1) = framed (title.getD x '─')
  lower : ∀ x < f.resolution.width,
    e.seen (f.resolution.height + 1) (x + 1) = framed '─'
  left : ∀ y < f.resolution.height, e.seen (y + 1) 0 = framed '│'
  right : ∀ y < f.resolution.height,
    e.seen (y + 1) (f.resolution.width + 1) = framed '│'
  corners : e.seen 0 0 = framed '┌' ∧
    e.seen 0 (f.resolution.width + 1) = framed '┐' ∧
    e.seen (f.resolution.height + 1) 0 = framed '└' ∧
    e.seen (f.resolution.height + 1) (f.resolution.width + 1) = framed '┘'

/-- A window of the right size is a picture within its frame. -/
theorem Shows.showsPicture {e : Emulator} {f : Framebuffer}
    (h : e.Shows (cells f)) (hwidth : 1 < f.resolution.width)
    (hheight : 1 < f.resolution.height)
    (hfits : (f.resolution.width + 2) * (f.resolution.height + 2) ≤
      Window.maxCells) : e.ShowsPicture f := by
  have hcells : cells f =
      cellsOf f ⟨f.resolution.width + 2, f.resolution.height + 2⟩ := by
    rw [cells, Window.ofResolution_of_le hfits]
  have hseen {row column : Nat} (hrow : row < f.resolution.height + 2)
      (hcolumn : column < f.resolution.width + 2) :
      e.seen row column =
        (cellAt f ⟨f.resolution.width + 2, f.resolution.height + 2⟩ column
          row).glyph := by
    refine h.seen _ _ _ ?_
    rw [hcells, cellIn_cellsOf, if_pos ⟨hrow, hcolumn⟩]
  -- A row or column within the frame is neither of its edges.
  have hinside {i n : Nat} (hi : i < n) : i + 1 ≠ 0 ∧ i + 1 + 1 ≠ n + 2 :=
    ⟨Nat.succ_ne_zero i, by omega⟩
  constructor
  case pixel =>
    intro x y hx hy
    rw [hseen (by omega) (by omega), cellAt_pixel hx hy hwidth hheight]
    cases f.isLit x y <;> rfl
  case upper =>
    intro x hx
    rw [hseen (by omega) (by omega), cellAt, if_pos rfl, upperEdge,
      if_neg (hinside hx).1, if_neg (hinside hx).2]
    rfl
  case lower =>
    intro x hx
    rw [hseen (by omega) (by omega), cellAt, if_neg (Nat.succ_ne_zero _),
      if_pos rfl, lowerEdge, if_neg (hinside hx).1, if_neg (hinside hx).2]
    rfl
  case left =>
    intro y hy
    rw [hseen (by omega) (by omega), cellAt, if_neg (hinside hy).1,
      if_neg (hinside hy).2, if_pos (.inl rfl)]
    rfl
  case right =>
    intro y hy
    rw [hseen (by omega) (by omega), cellAt, if_neg (hinside hy).1,
      if_neg (hinside hy).2, if_pos (.inr rfl)]
    rfl
  case corners =>
    have hwidth' : ¬ f.resolution.width + 1 = 0 := Nat.succ_ne_zero _
    have hheight' : ¬ f.resolution.height + 1 = 0 := Nat.succ_ne_zero _
    refine ⟨?_, ?_, ?_, ?_⟩
    · rw [hseen (by omega) (by omega)]
      rfl
    · rw [hseen (by omega) (by omega), cellAt, if_pos rfl, upperEdge,
        if_neg hwidth', if_pos rfl]
      rfl
    · rw [hseen (by omega) (by omega), cellAt, if_neg hheight', if_pos rfl]
      rfl
    · rw [hseen (by omega) (by omega), cellAt, if_neg hheight', if_pos rfl,
        lowerEdge, if_neg hwidth', if_pos rfl]
      rfl

end Emulator

namespace Panel

variable {e : Emulator} {r : Resolution} {p : Panel}

/-- Drawing, clearing and showing paint the picture as they say. -/
theorem picture_performAll (p : Panel) (works : List Work) :
    (p.performAll works).picture = works.foldl Work.paint p.picture := by
  induction works generalizing p with
  | nil => rfl
  | cons work rest ih =>
      have hwork : (p.perform work).picture = work.paint p.picture := by
        cases work <;> rfl
      show ((p.perform work).performAll rest).picture = _
      rw [ih, hwork, List.foldl_cons]

/-- **After a flush the terminal shows the picture.**  A display is set up for
pictures of at least two columns and two rows that fit a window with their
frame.  It does any work, then draws and clears some more, and flushes.  On any
terminal that is large enough, and that had no colours chosen before it was
taken over:

* The display is set up, and the flush succeeds.
* The terminal shows the picture that was painted, and the frame with its title.
* Since the work before that, no cell has been printed but those in which
  something else is seen now, and each of those once. -/
theorem flush_shows {width height : Nat} (hwidth : 2 ≤ width)
    (hheight : 2 ≤ height)
    (hfits : (width + 2) * (height + 2) ≤ Window.maxCells) {e : Emulator}
    (hrest : e.AtRest) (hcolumns : width + 2 ≤ e.columns)
    (hrows : height + 2 ≤ e.rows) (works later : List Work)
    (hlater : .flush ∉ later) :
    ∃ p₀, setUp {} ⟨width, height⟩ = (.ok (), p₀) ∧
      ∃ p, (p₀.performAll (works ++ later)).flush = (.ok (), p) ∧
        p.picture = (works ++ later).foldl Work.paint (.blank ⟨width, height⟩) ∧
        (e.reads p.text).ShowsPicture p.picture ∧
        ∀ row column,
          (e.reads p.text).printed row column =
            (e.reads (p₀.performAll works).text).printed row column +
              if (e.reads p.text).seen row column =
                (e.reads (p₀.performAll works).text).seen row column then 0
              else 1 := by
  have hwindow : Window.ofResolution ⟨width, height⟩ = ⟨width + 2, height + 2⟩ :=
    Window.ofResolution_of_le hfits
  obtain ⟨p₀, hsetUp, hblank, htracked⟩ := tracked_setUp (r := ⟨width, height⟩)
    hrest (by rw [hwindow]; exact hcolumns) (by rw [hwindow]; exact hrows)
  have hbefore := htracked.performAll (works ++ later)
  obtain ⟨p, hflush, hafter, hpicture, hshown, hreads⟩ := hbefore.flush
  have htext : (p₀.performAll (works ++ later)).text =
      (p₀.performAll works).text := by
    rw [performAll_append, text_performAll hlater]
  refine ⟨p₀, hsetUp, p, hflush, ?_, ?_, ?_⟩
  · rw [hpicture, picture_performAll, hblank]
  · have hresolution := hafter.resolution
    have hshows := hafter.shows
    rw [hshown, ← hpicture] at hshows
    apply hshows.showsPicture
    · rw [hresolution]
      exact hwidth
    · rw [hresolution]
      exact hheight
    · rw [hresolution]
      exact hfits
  · intro row column
    rw [← htext, hreads]
    exact Emulator.printed_update hbefore.shows hbefore.sameShape row column

/-- Two pixels on the diagonal of a small picture, the second of which is lit
between two flushes. -/
theorem flush_shows_diagonal :
    ∃ p₀, setUp {} ⟨2, 2⟩ = (.ok (), p₀) ∧
      ∃ p, (p₀.performAll [.draw 0 0 [0x80], .flush, .draw 1 1 [0x80]]).flush =
          (.ok (), p) ∧
        ((Emulator.fresh 80 24).reads p.text).seen 1 1 =
          ⟨'▄', .palette 15, .default⟩ ∧
        ((Emulator.fresh 80 24).reads p.text).seen 1 2 =
          ⟨'▄', .palette 0, .default⟩ ∧
        ((Emulator.fresh 80 24).reads p.text).seen 2 2 =
          ⟨'▄', .palette 15, .default⟩ ∧
        ((Emulator.fresh 80 24).reads p.text).seen 0 1 = Emulator.framed 'C' := by
  obtain ⟨p₀, hsetUp, p, hflush, hpicture, hshows, _⟩ :=
    flush_shows (Nat.le_refl 2) (Nat.le_refl 2) (by decide)
      (e := .fresh 80 24) ⟨rfl, rfl, rfl⟩ (by decide) (by decide)
      [.draw 0 0 [0x80], .flush] [.draw 1 1 [0x80]] (by decide)
  rw [hpicture] at hshows
  exact ⟨p₀, hsetUp, p, hflush, hshows.pixel 0 0 (by decide) (by decide),
    hshows.pixel 1 0 (by decide) (by decide),
    hshows.pixel 1 1 (by decide) (by decide), hshows.upper 0 (by decide)⟩

end Panel

end Chip8.Terminal
