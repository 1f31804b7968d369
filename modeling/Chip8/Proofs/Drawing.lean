import Chip8.Framebuffer
import Mathlib.Algebra.Ring.Parity
import Mathlib.Data.Finset.Card
import Mathlib.Data.Finset.Prod
import Mathlib.Data.Nat.Bitwise
import Mathlib.Data.Nat.ModEq

/-!
# Drawing a sprite

Each set bit of a sprite turns one pixel over.  On a picture that is narrower
than eight pixels, or lower than the sprite, several bits fall on one pixel, so
whether the sprite collides depends on what its earlier bits have done.  What
is left of that in the end are numbers: how many bits fall on each pixel.

That drawing never leaves the picture is said of `Framebuffer.draw?`, which
goes through the sprite by rows and columns, reckons positions in numbers below
a limit, and gives up where a number or a position does not exist.

## Main results

* `Framebuffer.get_turnOver`, `Framebuffer.turnOver_hit_iff` — a pixel is
  turned over as often as it is named, and there is a hit exactly if one is
  named twice, or once while it is lit.
* `Framebuffer.count_touched` — how often a sprite names a pixel.
* `Framebuffer.draw?_eq_some` — drawing never leaves the picture.
* `Framebuffer.draw_by_falling` — what drawing does, in the number of bits that
  fall on each pixel.
-/

namespace Chip8

/-! ## Positions -/

namespace Resolution

variable {r : Resolution}

/-- The position of the pixel at a column and a row, in a picture that has any
pixels. -/
def position (r : Resolution) (hw : 0 < r.width) (hh : 0 < r.height)
    (x y : Nat) : Fin r.pixelCount :=
  ⟨y % r.height * r.width + x % r.width,
    r.index_lt (Nat.mod_lt x hw) (Nat.mod_lt y hh)⟩

theorem pixelAt?_eq_some (hw : 0 < r.width) (hh : 0 < r.height) (x y : Nat) :
    r.pixelAt? x y = some (r.position hw hh x y) :=
  dif_pos ⟨hw, hh⟩

/-- Only what wraps around to the same column and row has the same position. -/
theorem position_inj (hw : 0 < r.width) (hh : 0 < r.height) {x y x' y' : Nat} :
    r.position hw hh x y = r.position hw hh x' y' ↔
      x % r.width = x' % r.width ∧ y % r.height = y' % r.height := by
  constructor
  · intro h
    have hval : y % r.height * r.width + x % r.width =
        y' % r.height * r.width + x' % r.width := congrArg Fin.val h
    have hcolumn := congrArg (· % r.width) hval
    have hrow := congrArg (· / r.width) hval
    simp only [Nat.mul_comm _ r.width, Nat.mul_add_mod, Nat.mod_mod] at hcolumn
    simp only [Nat.mul_comm _ r.width, Nat.mul_add_div hw, Nat.mod_div_self,
      Nat.add_zero] at hrow
    exact ⟨hcolumn, hrow⟩
  · rintro ⟨hx, hy⟩
    simp only [position, hx, hy]

/-- Every position is that of a column and a row. -/
theorem exists_position (hw : 0 < r.width) (hh : 0 < r.height)
    (p : Fin r.pixelCount) :
    ∃ x y, x < r.width ∧ y < r.height ∧ r.position hw hh x y = p := by
  have hcolumn : p.val % r.width < r.width := Nat.mod_lt _ hw
  have hrow : p.val / r.width < r.height :=
    Nat.div_lt_of_lt_mul p.isLt
  refine ⟨p.val % r.width, p.val / r.width, hcolumn, hrow, Fin.ext ?_⟩
  show p.val / r.width % r.height * r.width + p.val % r.width % r.width = p.val
  rw [Nat.mod_eq_of_lt hcolumn, Nat.mod_eq_of_lt hrow, Nat.mul_comm]
  exact Nat.div_add_mod _ _

end Resolution

/-! ## The bits of a sprite -/

namespace Sprite

/-- Whether the bit in a column of a row of a sprite is set, the leftmost being
the most significant. -/
def isSet (sprite : List UInt8) (dx dy : Nat) : Bool :=
  (sprite.getD dy 0).toNat.testBit (7 - dx)

/-- The set bits of a sprite that fall on the pixel at column `px` of row `py`
when it is drawn at (`x`, `y`), each by its column and row within the sprite. -/
def falling (r : Resolution) (x y : Nat) (sprite : List UInt8) (px py : Nat) :
    Finset (Nat × Nat) :=
  (Finset.range 8 ×ˢ Finset.range sprite.length).filter fun d =>
    isSet sprite d.1 d.2 ∧ (x + d.1) % r.width = px ∧
      (y + d.2) % r.height = py

theorem mem_columns {row : UInt8} {dx : Nat} :
    dx ∈ columns row ↔ dx < 8 ∧ row.toNat.testBit (7 - dx) = true := by
  simp [columns]

theorem mem_pointsFrom {start dx dy : Nat} {sprite : List UInt8} :
    (dx, dy) ∈ pointsFrom start sprite ↔
      dx < 8 ∧ start ≤ dy ∧ dy < start + sprite.length ∧
        isSet sprite dx (dy - start) = true := by
  induction sprite generalizing start with
  | nil => simp [pointsFrom]; omega
  | cons row rest ih =>
      have hhead : (dx, dy) ∈ (columns row).map (·, start) ↔
          dx < 8 ∧ dy = start ∧ row.toNat.testBit (7 - dx) = true := by
        simp only [List.mem_map, mem_columns, Prod.mk.injEq]
        constructor
        · rintro ⟨a, ⟨ha, hbit⟩, rfl, rfl⟩
          exact ⟨ha, rfl, hbit⟩
        · rintro ⟨hdx, rfl, hbit⟩
          exact ⟨dx, ⟨hdx, hbit⟩, rfl, rfl⟩
      rw [pointsFrom, List.mem_append, hhead, ih]
      rcases Nat.lt_trichotomy dy start with hlt | rfl | hgt
      · omega
      · have hfar : ¬ dy + 1 ≤ dy := by omega
        simp [isSet, hfar]
      · have hne : dy ≠ start := by omega
        have hsucc : dy - start = dy - (start + 1) + 1 := by omega
        simp only [isSet, hsucc, List.getD_cons_succ, hne, false_and,
          and_false, false_or, List.length_cons]
        constructor
        · rintro ⟨hdx, hle, hlt, hbit⟩
          exact ⟨hdx, by omega, by omega, hbit⟩
        · rintro ⟨hdx, hle, hlt, hbit⟩
          exact ⟨hdx, by omega, by omega, hbit⟩

theorem mem_points {dx dy : Nat} {sprite : List UInt8} :
    (dx, dy) ∈ points sprite ↔
      dx < 8 ∧ dy < sprite.length ∧ isSet sprite dx dy = true := by
  rw [points, mem_pointsFrom]
  simp

/-- No bit is gone through twice. -/
theorem nodup_pointsFrom (start : Nat) (sprite : List UInt8) :
    (pointsFrom start sprite).Nodup := by
  induction sprite generalizing start with
  | nil => exact List.nodup_nil
  | cons row rest ih =>
      rw [pointsFrom, List.nodup_append']
      refine ⟨?_, ih (start + 1), ?_⟩
      · refine List.Nodup.map (fun a b h => (Prod.mk.inj h).1) ?_
        exact List.nodup_range.filter _
      · intro ⟨dx, dy⟩ hrow hrest
        obtain ⟨_, _, heq⟩ := List.mem_map.mp hrow
        have hle := (mem_pointsFrom.mp hrest).2.1
        have hdy : start = dy := (Prod.mk.inj heq).2
        omega

end Sprite

/-! ## Turning pixels over -/

namespace Framebuffer

section TurnOver

variable {n : Nat}

theorem get_set_self (pixels : Vector Bool n) (p : Fin n) (lit : Bool) :
    (pixels.set p.val lit p.isLt).get p = lit :=
  Vector.getElem_set_self _

theorem get_set_of_ne (pixels : Vector Bool n) {q p : Fin n} (h : q ≠ p)
    (lit : Bool) : (pixels.set q.val lit q.isLt).get p = pixels.get p :=
  Vector.getElem_set_ne q.isLt p.isLt fun he => h (Fin.ext he)

/-- A pixel is turned over as often as it is named. -/
theorem get_turnOver (pixels : Vector Bool n) (named : List (Fin n))
    (p : Fin n) :
    (turnOver pixels named).2.get p =
      (pixels.get p ^^ decide (Odd (named.count p))) := by
  induction named generalizing pixels with
  | nil => simp [turnOver]
  | cons q rest ih =>
      show (turnOver (pixels.set q.val !pixels.get q) rest).2.get p = _
      rw [ih]
      by_cases h : q = p
      · subst h
        rw [get_set_self, List.count_cons_self,
          decide_eq_decide.mpr Nat.odd_add_one, decide_not, Bool.not_xor,
          Bool.xor_not]
      · rw [get_set_of_ne pixels h, List.count_cons_of_ne h]

/-- There is a hit exactly if some pixel is named twice, or once while it is
lit. -/
theorem turnOver_hit_iff (pixels : Vector Bool n) (named : List (Fin n)) :
    (turnOver pixels named).1 = true ↔
      ∃ p, 2 ≤ (if pixels.get p then 1 else 0) + named.count p := by
  induction named generalizing pixels with
  | nil =>
      simp only [turnOver, List.count_nil]
      constructor
      · intro h
        cases h
      · rintro ⟨p, hp⟩
        split at hp <;> omega
  | cons q rest ih =>
      show (pixels.get q ||
        (turnOver (pixels.set q.val !pixels.get q) rest).1) = true ↔ _
      cases hq : pixels.get q with
      | true =>
          -- The first pixel named is lit, so it alone makes the hit.
          refine iff_of_true (Bool.true_or _) ⟨q, ?_⟩
          rw [hq, List.count_cons_self]
          show 2 ≤ 1 + (rest.count q + 1)
          omega
      | false =>
          -- It is dark, and lit from then on: being lit now counts for it as
          -- much as having been named.
          rw [Bool.false_or, ih]
          refine exists_congr fun p => ?_
          by_cases h : q = p
          · subst h
            rw [get_set_self, hq, List.count_cons_self]
            show 2 ≤ 1 + rest.count q ↔ 2 ≤ 0 + (rest.count q + 1)
            omega
          · rw [get_set_of_ne pixels h, List.count_cons_of_ne h]

end TurnOver

section Touched

variable {r : Resolution}

/-- In a picture that has any pixels, every set bit names one. -/
theorem touched_eq_map (hw : 0 < r.width) (hh : 0 < r.height) (x y : Nat)
    (sprite : List UInt8) :
    touched r x y sprite =
      (Sprite.points sprite).map fun d =>
        r.position hw hh (x + d.1) (y + d.2) := by
  rw [touched, ← List.filterMap_eq_map]
  exact List.filterMap_congr fun d _ => Resolution.pixelAt?_eq_some hw hh _ _

/-- A sprite names a pixel as often as set bits fall on it. -/
theorem count_touched (hw : 0 < r.width) (hh : 0 < r.height) (x y : Nat)
    (sprite : List UInt8) {px py : Nat} (hpx : px < r.width)
    (hpy : py < r.height) :
    (touched r x y sprite).count (r.position hw hh px py) =
      (Sprite.falling r x y sprite px py).card := by
  have hnodup : (Sprite.points sprite).Nodup := Sprite.nodup_pointsFrom 0 sprite
  rw [touched_eq_map hw hh, List.count_eq_countP, List.countP_map,
    List.countP_eq_length_filter,
    ← List.toFinset_card_of_nodup (hnodup.filter _)]
  congr 1
  ext ⟨dx, dy⟩
  have hposition : r.position hw hh (x + dx) (y + dy) =
      r.position hw hh px py ↔
        (x + dx) % r.width = px ∧ (y + dy) % r.height = py := by
    rw [Resolution.position_inj, Nat.mod_eq_of_lt hpx, Nat.mod_eq_of_lt hpy]
  simp [Sprite.falling, Sprite.mem_points, hposition, and_assoc]

end Touched

/-! ## Sprites that do not meet themselves -/

section Fits

variable {r : Resolution} {x y : Nat} {sprite : List UInt8}

/-- Columns less than a row's length apart stay apart. -/
theorem eq_of_add_mod_eq {w a d d' : Nat} (hd : d < w) (hd' : d' < w)
    (h : (a + d) % w = (a + d') % w) : d = d' :=
  Nat.ModEq.eq_of_lt_of_lt (Nat.ModEq.add_left_cancel' a h) hd hd'

/-- On a picture that is large enough, the bits of a sprite fall on as many
pixels. -/
theorem eq_of_falling (hw : 8 ≤ r.width) (hh : sprite.length ≤ r.height)
    {px py : Nat} {d d' : Nat × Nat}
    (hd : d ∈ Sprite.falling r x y sprite px py)
    (hd' : d'.1 < 8 ∧ d'.2 < sprite.length ∧ (x + d'.1) % r.width = px ∧
      (y + d'.2) % r.height = py) : d = d' := by
  simp only [Sprite.falling, Finset.mem_filter, Finset.mem_product,
    Finset.mem_range] at hd
  obtain ⟨⟨hdx, hdy⟩, _, hcolumn, hrow⟩ := hd
  obtain ⟨hdx', hdy', hcolumn', hrow'⟩ := hd'
  have hx : d.1 = d'.1 := eq_of_add_mod_eq (by omega) (by omega)
    (hcolumn.trans hcolumn'.symm)
  have hy : d.2 = d'.2 := eq_of_add_mod_eq (by omega) (by omega)
    (hrow.trans hrow'.symm)
  exact Prod.ext hx hy

theorem card_falling_le_one (hw : 8 ≤ r.width) (hh : sprite.length ≤ r.height)
    (px py : Nat) : (Sprite.falling r x y sprite px py).card ≤ 1 := by
  refine Finset.card_le_one.mpr fun d hd d' hd' => eq_of_falling hw hh hd ?_
  simp only [Sprite.falling, Finset.mem_filter, Finset.mem_product,
    Finset.mem_range] at hd'
  exact ⟨hd'.1.1, hd'.1.2, hd'.2.2⟩

/-- On the pixel under a bit falls that bit, if it is set, and no other. -/
theorem odd_falling_iff (hw : 8 ≤ r.width) (hh : sprite.length ≤ r.height)
    {dx dy px py : Nat} (hdx : dx < 8) (hdy : dy < sprite.length)
    (hpx : (x + dx) % r.width = px) (hpy : (y + dy) % r.height = py) :
    Odd (Sprite.falling r x y sprite px py).card ↔
      Sprite.isSet sprite dx dy = true := by
  have hle := card_falling_le_one (x := x) (y := y) hw hh px py
  constructor
  · rintro ⟨k, hk⟩
    have hpos : 0 < (Sprite.falling r x y sprite px py).card := by omega
    obtain ⟨d, hd⟩ := Finset.card_pos.mp hpos
    have hself : d = (dx, dy) := eq_of_falling hw hh hd ⟨hdx, hdy, hpx, hpy⟩
    have hset : Sprite.isSet sprite d.1 d.2 = true :=
      (Finset.mem_filter.mp hd).2.1
    rw [hself] at hset
    exact hset
  · intro hset
    have hmem : (dx, dy) ∈ Sprite.falling r x y sprite px py := by
      simp [Sprite.falling, hdx, hdy, hset, hpx, hpy]
    have hpos := Finset.card_pos.mpr ⟨_, hmem⟩
    exact ⟨0, by omega⟩

end Fits

/-! ## Drawing bit by bit -/

section Loops

variable {n : Nat} {r : Resolution}

/-- A number that is below a limit. -/
def below? (limit a : Nat) : Option Nat :=
  if a < limit then some a else none

/-- A remainder, which there is none of division by zero. -/
def rem? (a b : Nat) : Option Nat :=
  if b = 0 then none else some (a % b)

/-- Turns over the pixel at a position and takes note of a hit.  Beyond the
last pixel there is none. -/
def turnAt? (p : Nat) (drawn : Bool × Vector Bool n) :
    Option (Bool × Vector Bool n) :=
  if h : p < n then some (drawn.1 || drawn.2[p], drawn.2.set p !drawn.2[p])
  else none

/-- Draws one bit of a line that goes to a row of the picture. -/
def drawBit? (r : Resolution) (limit x row : Nat) (line : UInt8)
    (drawn : Bool × Vector Bool r.pixelCount) (dx : Nat) :
    Option (Bool × Vector Bool r.pixelCount) :=
  if line &&& (0x80 >>> UInt8.ofNat dx) = 0 then some drawn
  else do
    let right ← below? limit (x + dx)
    let column ← rem? right r.width
    turnAt? (row * r.width + column) drawn

/-- Draws one line of a sprite. -/
def drawLine? (r : Resolution) (limit x y : Nat)
    (drawn : Bool × Vector Bool r.pixelCount) (line : UInt8 × Nat) :
    Option (Bool × Vector Bool r.pixelCount) := do
  let down ← below? limit (y + line.2)
  let row ← rem? down r.height
  (List.range 8).foldlM (drawBit? r limit x row line.1) drawn

/-- Draws a sprite line by line and bit by bit, in numbers below a limit. -/
def draw? (f : Framebuffer) (limit x y : Nat) (sprite : List UInt8) :
    Option (Bool × Framebuffer) := do
  let (hit, pixels) ←
    sprite.zipIdx.foldlM (drawLine? f.resolution limit x y) (false, f.pixels)
  return (hit, { f with pixels })

/-- Turns over a pixel that there is. -/
def turn (drawn : Bool × Vector Bool n) : Fin n → Bool × Vector Bool n
  | ⟨p, _⟩ => (drawn.1 || drawn.2[p], drawn.2.set p !drawn.2[p])

/-- Hits are taken note of on the way, or all in the end. -/
theorem foldl_turn (hit : Bool) (pixels : Vector Bool n)
    (named : List (Fin n)) :
    named.foldl turn (hit, pixels) =
      (hit || (turnOver pixels named).1, (turnOver pixels named).2) := by
  induction named generalizing hit pixels with
  | nil => simp [turnOver]
  | cons p rest ih =>
      rw [List.foldl_cons, turn, ih, Bool.or_assoc]
      rfl

/-- A mask of one bit selects that bit. -/
theorem and_mask_eq_zero_iff (line : UInt8) {dx : Nat} (hdx : dx < 8) :
    line &&& (0x80 >>> UInt8.ofNat dx) = 0 ↔
      line.toNat.testBit (7 - dx) = false := by
  have hmask : ((0x80 : UInt8) >>> UInt8.ofNat dx).toNat = 2 ^ (7 - dx) := by
    revert dx
    decide
  rw [← UInt8.toNat_inj, UInt8.toNat_and, hmask, Nat.and_two_pow]
  cases line.toNat.testBit (7 - dx) <;> simp

/-- A loop that treats the members of a list that pass a test goes through
those alone. -/
theorem foldlM_eq_foldl_filter {α β γ : Type} {step : β → α → Option β}
    {treat : β → γ → β} (passes : α → Bool) (named : α → γ) {members : List α}
    (h : ∀ a ∈ members, ∀ s,
      step s a = some (if passes a then treat s (named a) else s)) (s : β) :
    members.foldlM step s =
      some (((members.filter passes).map named).foldl treat s) := by
  induction members generalizing s with
  | nil => rfl
  | cons a rest ih =>
      rw [List.foldlM_cons, h a List.mem_cons_self]
      show rest.foldlM step _ = _
      rw [ih fun b hb => h b (List.mem_cons_of_mem _ hb), List.filter_cons]
      cases passes a <;> rfl

/-- A bit whose column can be reckoned stays within the picture. -/
theorem drawBit?_eq_some (hw : 0 < r.width) (hh : 0 < r.height) {limit x : Nat}
    (hx : x + 7 < limit) (y : Nat) (line : UInt8)
    (drawn : Bool × Vector Bool r.pixelCount) {dx : Nat} (hdx : dx < 8) :
    drawBit? r limit x (y % r.height) line drawn dx =
      some (if line.toNat.testBit (7 - dx) then
        turn drawn (r.position hw hh (x + dx) y) else drawn) := by
  unfold drawBit?
  cases hbit : line.toNat.testBit (7 - dx) with
  | false => rw [if_pos ((and_mask_eq_zero_iff line hdx).mpr hbit)]; rfl
  | true =>
      have hmask : line &&& (0x80 >>> UInt8.ofNat dx) ≠ 0 := by
        rw [Ne, and_mask_eq_zero_iff line hdx, hbit]
        exact Bool.noConfusion
      have hright : below? limit (x + dx) = some (x + dx) := if_pos (by omega)
      have hcolumn : rem? (x + dx) r.width = some ((x + dx) % r.width) :=
        if_neg (Nat.ne_of_gt hw)
      rw [if_neg hmask, hright]
      show (rem? (x + dx) r.width >>= _) = _
      rw [hcolumn]
      exact dif_pos (r.position hw hh (x + dx) y).isLt

/-- A line whose row can be reckoned turns over the pixels under its set
bits. -/
theorem drawLine?_eq_some (hw : 0 < r.width) (hh : 0 < r.height)
    {limit x y : Nat} (hx : x + 7 < limit) (line : UInt8) {dy : Nat}
    (hy : y + dy < limit) (drawn : Bool × Vector Bool r.pixelCount) :
    drawLine? r limit x y drawn (line, dy) =
      some (((Sprite.columns line).map fun dx =>
        r.position hw hh (x + dx) (y + dy)).foldl turn drawn) := by
  have hdown : below? limit (y + dy) = some (y + dy) := if_pos hy
  have hrow : rem? (y + dy) r.height = some ((y + dy) % r.height) :=
    if_neg (Nat.ne_of_gt hh)
  unfold drawLine?
  rw [hdown]
  show (rem? (y + dy) r.height >>= _) = _
  rw [hrow]
  exact foldlM_eq_foldl_filter (fun dx => line.toNat.testBit (7 - dx)) _
    (fun dx hdx s => drawBit?_eq_some hw hh hx (y + dy) line s
      (List.mem_range.mp hdx)) drawn

/-- The lines of a sprite turn over the pixels under its set bits. -/
theorem foldlM_drawLine? (hw : 0 < r.width) (hh : 0 < r.height)
    {limit x y : Nat} (hx : x + 7 < limit) (sprite : List UInt8) {start : Nat}
    (hy : y + (start + sprite.length) < limit)
    (drawn : Bool × Vector Bool r.pixelCount) :
    (sprite.zipIdx start).foldlM (drawLine? r limit x y) drawn =
      some (((Sprite.pointsFrom start sprite).map fun d =>
        r.position hw hh (x + d.1) (y + d.2)).foldl turn drawn) := by
  induction sprite generalizing start drawn with
  | nil => rfl
  | cons line rest ih =>
      rw [List.length_cons] at hy
      rw [List.zipIdx_cons, List.foldlM_cons,
        drawLine?_eq_some hw hh hx line (by omega)]
      show (rest.zipIdx (start + 1)).foldlM _ _ = _
      rw [ih (by omega), Sprite.pointsFrom, List.map_append, List.foldl_append,
        List.map_map]
      rfl

/-- Drawing never leaves the picture, however large the picture and the sprite
are, and wherever the sprite is drawn. -/
theorem draw?_eq_some (f : Framebuffer) (hw : 0 < f.resolution.width)
    (hh : 0 < f.resolution.height) {limit x y : Nat} {sprite : List UInt8}
    (hx : x + 7 < limit) (hy : y + sprite.length < limit) :
    f.draw? limit x y sprite = some (f.draw x y sprite) := by
  unfold draw?
  rw [foldlM_drawLine? hw hh hx sprite (by omega), foldl_turn, Bool.false_or,
    ← Sprite.points, ← touched_eq_map]
  rfl

end Loops

/-! ## The picture after drawing -/

section Draw

variable (f : Framebuffer) {x y px py : Nat} {sprite : List UInt8}

theorem isLit_eq_get (hw : 0 < f.resolution.width)
    (hh : 0 < f.resolution.height) (px py : Nat) :
    f.isLit px py = f.pixels.get (f.resolution.position hw hh px py) := by
  simp only [isLit, Resolution.pixelAt?_eq_some hw hh]
  rfl

/-- A pixel is turned over as often as set bits fall on it. -/
theorem isLit_draw (hpx : px < f.resolution.width)
    (hpy : py < f.resolution.height) :
    (f.draw x y sprite).2.isLit px py =
      (f.isLit px py ^^
        decide (Odd (Sprite.falling f.resolution x y sprite px py).card)) := by
  have hw := Nat.zero_lt_of_lt hpx
  have hh := Nat.zero_lt_of_lt hpy
  rw [isLit_eq_get f hw hh, ← count_touched hw hh x y sprite hpx hpy,
    ← get_turnOver]
  exact isLit_eq_get (f.draw x y sprite).2 hw hh px py

/-- There is a hit exactly where set bits fall on a pixel twice, or once while
it is lit. -/
theorem draw_hit_iff (hw : 0 < f.resolution.width)
    (hh : 0 < f.resolution.height) :
    (f.draw x y sprite).1 = true ↔
      ∃ px py, px < f.resolution.width ∧ py < f.resolution.height ∧
        2 ≤ (if f.isLit px py then 1 else 0) +
          (Sprite.falling f.resolution x y sprite px py).card := by
  refine (turnOver_hit_iff _ _).trans ⟨?_, ?_⟩
  · rintro ⟨p, hp⟩
    obtain ⟨px, py, hpx, hpy, rfl⟩ := Resolution.exists_position hw hh p
    rw [count_touched hw hh x y sprite hpx hpy] at hp
    exact ⟨px, py, hpx, hpy, isLit_eq_get f hw hh px py ▸ hp⟩
  · rintro ⟨px, py, hpx, hpy, hp⟩
    refine ⟨f.resolution.position hw hh px py, ?_⟩
    rw [count_touched hw hh x y sprite hpx hpy]
    exact isLit_eq_get f hw hh px py ▸ hp

/-- Where a sprite does not meet itself, a pixel is hit exactly if it goes
dark. -/
theorem hit_iff_of_fits (hw : 8 ≤ f.resolution.width)
    (hh : sprite.length ≤ f.resolution.height)
    (hpx : px < f.resolution.width) (hpy : py < f.resolution.height) :
    2 ≤ (if f.isLit px py then 1 else 0) +
        (Sprite.falling f.resolution x y sprite px py).card ↔
      f.isLit px py = true ∧ (f.draw x y sprite).2.isLit px py = false := by
  have hle := card_falling_le_one (x := x) (y := y) hw hh px py
  rw [isLit_draw f hpx hpy]
  generalize (Sprite.falling f.resolution x y sprite px py).card = c at hle
  obtain rfl | rfl : c = 0 ∨ c = 1 := by omega
  · cases f.isLit px py <;> simp
  · cases f.isLit px py <;> simp

end Draw

/-- **Drawing.**  A pixel is lit after a sprite was drawn exactly if it was lit
before and an even number of set bits fell on it, or dark and an odd number;
there was a collision exactly if the set bits that fell on some pixel and its
having been lit make two or more.  The picture keeps its size, and no position
beyond it is looked at.  On a picture that is at least eight pixels wide and as
high as the sprite, there was a collision exactly if some pixel went dark, and
each set bit turns over the pixel in its own row, at a column that starts again
at the left edge. -/
theorem draw_by_falling (f : Framebuffer) (x y : Nat) (sprite : List UInt8)
    (hw : 0 < f.resolution.width) (hh : 0 < f.resolution.height) {hit : Bool}
    {after : Framebuffer} (hdraw : f.draw x y sprite = (hit, after)) :
    (∀ px py, px < f.resolution.width → py < f.resolution.height →
      after.isLit px py = (f.isLit px py ^^
        decide (Odd (Sprite.falling f.resolution x y sprite px py).card))) ∧
    (hit = true ↔
      ∃ px py, px < f.resolution.width ∧ py < f.resolution.height ∧
        2 ≤ (if f.isLit px py then 1 else 0) +
          (Sprite.falling f.resolution x y sprite px py).card) ∧
    after.resolution = f.resolution ∧
    after.pixels.toList.length =
      f.resolution.width * f.resolution.height ∧
    (∀ limit, x + 7 < limit → y + sprite.length < limit →
      f.draw? limit x y sprite = some (hit, after)) ∧
    (8 ≤ f.resolution.width → sprite.length ≤ f.resolution.height →
      (hit = true ↔
        ∃ px py, px < f.resolution.width ∧ py < f.resolution.height ∧
          f.isLit px py = true ∧ after.isLit px py = false) ∧
      ∀ dx dy, dx < 8 → dy < sprite.length →
        after.isLit ((x + dx) % f.resolution.width)
            ((y + dy) % f.resolution.height) =
          (f.isLit ((x + dx) % f.resolution.width)
            ((y + dy) % f.resolution.height) ^^
              Sprite.isSet sprite dx dy)) := by
  obtain ⟨rfl, rfl⟩ : (f.draw x y sprite).1 = hit ∧
      (f.draw x y sprite).2 = after := by rw [hdraw]; exact ⟨rfl, rfl⟩
  refine ⟨fun px py hpx hpy => f.isLit_draw hpx hpy, f.draw_hit_iff hw hh, rfl,
    Vector.length_toList, fun limit hx hy => f.draw?_eq_some hw hh hx hy,
    fun hwide hhigh => ⟨?_, fun dx dy hdx hdy => ?_⟩⟩
  · rw [f.draw_hit_iff hw hh]
    refine exists_congr fun px => exists_congr fun py => ?_
    exact and_congr_right fun hpx => and_congr_right fun hpy =>
      f.hit_iff_of_fits hwide hhigh hpx hpy
  · rw [f.isLit_draw (Nat.mod_lt _ hw) (Nat.mod_lt _ hh)]
    congr 1
    rw [Bool.eq_iff_iff, decide_eq_true_iff,
      odd_falling_iff hwide hhigh hdx hdy rfl rfl]

/-- A picture of a single column, two pixels high and dark. -/
def column : Framebuffer :=
  .blank ⟨1, 2⟩

/-- Of a line of three bits and one of two, the three meet in the upper pixel
and leave it lit, and the two meet in the lower pixel and leave it dark.  Both
meetings are collisions. -/
theorem draw_by_falling_column :
    0 < column.resolution.width ∧ 0 < column.resolution.height ∧
      ∃ hit after,
        column.draw 5 0 [0b11100000, 0b00000011] = (hit, after) ∧
          hit = true ∧ after.isLit 0 0 = true ∧ after.isLit 0 1 = false := by
  obtain ⟨hit, after, hdraw⟩ : ∃ hit after,
      column.draw 5 0 [0b11100000, 0b00000011] = (hit, after) := ⟨_, _, rfl⟩
  obtain ⟨hpixel, hhit, _⟩ := draw_by_falling column 5 0
    [0b11100000, 0b00000011] (by decide) (by decide) hdraw
  refine ⟨by decide, by decide, hit, after, hdraw,
    hhit.mpr ⟨0, 0, by decide⟩, ?_, ?_⟩
  · rw [hpixel 0 0 (by decide) (by decide)]
    decide
  · rw [hpixel 0 1 (by decide) (by decide)]
    decide

end Framebuffer

end Chip8
