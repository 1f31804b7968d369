/-!
# Pixels along an edge

The pixels of a row, or of a column, are spread over a number of cells.  The
first pixel falls into the first cell and the last into the last; between them
a pixel falls into the cell that its share of the way comes to, rounded down.
Where there are more cells than pixels some cells stay empty, and where there
are fewer a cell shows several pixels.  Where there are as many, every cell
shows its own (`Scale.shownBy_self`).

A single pixel cannot lie at both ends.  It is not shown.
-/

namespace Chip8.Terminal

/-- So many pixels over so many cells. -/
structure Scale where
  pixels : Nat
  cells : Nat
  deriving DecidableEq, Repr

namespace Scale

/-- The cell that a pixel falls into. -/
def cellOf (s : Scale) (pixel : Nat) : Nat :=
  pixel * (s.cells - 1) / (s.pixels - 1)

/-- How many pixels fall into the cells before this one. -/
def before (s : Scale) (cell : Nat) : Nat :=
  if s.cells ≤ cell then s.pixels
  else (cell * (s.pixels - 1) + (s.cells - 2)) / (s.cells - 1)

/-- The pixels that a cell shows. -/
def shownBy (s : Scale) (cell : Nat) : List Nat :=
  if s.pixels ≤ 1 then []
  else List.range' (s.before cell) (s.before (cell + 1) - s.before cell)

/-! ## Which pixels a cell shows -/

/-- A pixel lies before a cell if it falls into an earlier one. -/
theorem lt_before {s : Scale} {pixel cell : Nat} (hp : pixel < s.pixels)
    (hs : 1 < s.pixels) (hc : 0 < s.cells) :
    pixel < s.before cell ↔ s.cellOf pixel < cell := by
  have hd : 0 < s.pixels - 1 := by omega
  rw [cellOf, before, Nat.div_lt_iff_lt_mul hd]
  split
  case isTrue h =>
    have h1 : pixel * (s.cells - 1) ≤ (s.pixels - 1) * (s.cells - 1) :=
      Nat.mul_le_mul_right _ (by omega)
    have h2 : (s.cells - 1) * (s.pixels - 1) < cell * (s.pixels - 1) :=
      Nat.mul_lt_mul_of_pos_right (by omega) hd
    rw [Nat.mul_comm (s.pixels - 1)] at h1
    exact ⟨fun _ => by omega, fun _ => hp⟩
  case isFalse h =>
    by_cases h1 : s.cells = 1
    · have : cell = 0 := by omega
      subst this
      simp [h1]
    · have hk : 0 < s.cells - 1 := by omega
      rw [← Nat.succ_le_iff, Nat.le_div_iff_mul_le hk, Nat.succ_mul]
      omega

/-- A cell shows exactly the pixels that fall into it. -/
theorem mem_shownBy {s : Scale} {pixel cell : Nat} (hp : pixel < s.pixels)
    (hs : 1 < s.pixels) (hc : 0 < s.cells) :
    pixel ∈ s.shownBy cell ↔ s.cellOf pixel = cell := by
  have h0 : pixel < s.before cell ↔ s.cellOf pixel < cell :=
    lt_before hp hs hc
  have h1 : pixel < s.before (cell + 1) ↔ s.cellOf pixel < cell + 1 :=
    lt_before hp hs hc
  rw [shownBy, if_neg (by omega), List.mem_range'_1]
  omega

/-- Where there are as many cells as pixels, every cell shows its own pixel. -/
theorem shownBy_self {n cell : Nat} (hn : 1 < n) (hc : cell < n) :
    (Scale.mk n n).shownBy cell = [cell] := by
  have before_eq {c : Nat} (h : c ≤ n) : (Scale.mk n n).before c = c := by
    unfold before
    dsimp only
    split
    · omega
    · rw [Nat.mul_comm, Nat.mul_add_div (by omega),
        Nat.div_eq_of_lt (by omega), Nat.add_zero]
  rw [shownBy, if_neg (Nat.not_le.2 hn), before_eq (by omega),
    before_eq (by omega), Nat.add_sub_cancel_left]
  rfl

end Scale

end Chip8.Terminal
