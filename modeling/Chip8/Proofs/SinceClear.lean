import Chip8.Proofs.Drawing
import Chip8.Proofs.Shown
import Mathlib.Data.List.DropRight

/-!
# What many drawings leave

Drawing turns pixels over and clearing turns them off, so a picture is what the
drawings since it was last cleared come to: a pixel is lit if an odd number of
their bits fell on it.  In which order they came makes no difference, and two
that are equal cancel out.

Both follow from what one piece of work does to one pixel (`isLit_paint`), since
a picture is told by its pixels (`Framebuffer.eq_of_isLit`).

## Main results

* `Framebuffer.paint_comm`, `Framebuffer.paint_paint` — drawings commute, and
  cancel out.
* `Framebuffer.isLit_foldl_paint` — a pixel after any work, in the number of
  bits that fell on it.
* `Framebuffer.draw_add_mul` — positions wrap around.
* `Framebuffer.draw_twice_hit` — of two equal drawings one collides.
* `Headless.Panel.picture_since_clear` — all of this for a screen that nobody
  sees.
-/

namespace Chip8

open Terminal.Panel (Work)

/-- Parities add up. -/
theorem decide_odd_add (a b : Nat) :
    decide (Odd (a + b)) = (decide (Odd a) ^^ decide (Odd b)) := by
  by_cases ha : Odd a <;> by_cases hb : Odd b <;>
    simp [Nat.odd_add, ha, hb, ← Nat.not_odd_iff_even]

/-! ## Pieces of work -/

namespace Terminal.Panel.Work

/-- How many set bits fall on a pixel. -/
def falling (r : Resolution) (px py : Nat) : Work → Nat
  | draw x y sprite => (Sprite.falling r x y sprite px py).card
  | _ => 0

/-- What was done since the picture was last cleared. -/
def sinceClear (works : List Work) : List Work :=
  works.rtakeWhile (· ≠ .clear)

/-- How many set bits fell on a pixel since the picture was last cleared. -/
def fallenSinceClear (r : Resolution) (px py : Nat) (works : List Work) : Nat :=
  ((sinceClear works).map (falling r px py)).sum

/-- Whether the positions of a piece of work are below a limit. -/
def Fits (limit : Nat) : Work → Prop
  | draw x y sprite => x + 7 < limit ∧ y + sprite.length < limit
  | _ => True

theorem fallenSinceClear_concat_clear (r : Resolution) (px py : Nat)
    (works : List Work) : fallenSinceClear r px py (works ++ [.clear]) = 0 := by
  simp [fallenSinceClear, sinceClear]

theorem fallenSinceClear_concat {work : Work} (h : work ≠ .clear)
    (r : Resolution) (px py : Nat) (works : List Work) :
    fallenSinceClear r px py (works ++ [work]) =
      fallenSinceClear r px py works + work.falling r px py := by
  simp [fallenSinceClear, sinceClear, h]

end Terminal.Panel.Work

/-! ## Pictures and their pixels -/

namespace Framebuffer

variable {f : Framebuffer} {px py : Nat}

/-- Pictures of one size that are lit alike are the same. -/
theorem eq_of_isLit {f g : Framebuffer} (hresolution : f.resolution = g.resolution)
    (h : ∀ px py, px < f.resolution.width → py < f.resolution.height →
      f.isLit px py = g.isLit px py) : f = g := by
  obtain ⟨r, pixels⟩ := f
  obtain ⟨r', pixels'⟩ := g
  obtain rfl : r = r' := hresolution
  congr 1
  ext i hi
  have hcount : 0 < r.width * r.height := Nat.zero_lt_of_lt hi
  have hw : 0 < r.width := Nat.pos_of_mul_pos_right hcount
  have hh : 0 < r.height := Nat.pos_of_mul_pos_left hcount
  obtain ⟨px, py, hpx, hpy, hposition⟩ :=
    Resolution.exists_position hw hh ⟨i, hi⟩
  have hpixel := h px py hpx hpy
  rw [isLit_eq_get ⟨r, pixels⟩ hw hh, isLit_eq_get ⟨r, pixels'⟩ hw hh,
    hposition] at hpixel
  exact hpixel

@[simp] theorem resolution_paint (f : Framebuffer) (work : Work) :
    (work.paint f).resolution = f.resolution := by
  cases work <;> rfl

@[simp] theorem resolution_foldl_paint (f : Framebuffer) (works : List Work) :
    (works.foldl Work.paint f).resolution = f.resolution := by
  induction works generalizing f with
  | nil => rfl
  | cons work rest ih => rw [List.foldl_cons, ih, resolution_paint]

theorem isBlank_clear (f : Framebuffer) : f.clear.isBlank = true := by
  simp [isBlank, clear]

theorem isLit_of_isBlank (hblank : f.isBlank = true)
    (hpx : px < f.resolution.width) (hpy : py < f.resolution.height) :
    f.isLit px py = false := by
  have hw := Nat.zero_lt_of_lt hpx
  have hh := Nat.zero_lt_of_lt hpy
  rw [isLit_eq_get f hw hh]
  have hnone : f.pixels.any id = false := by simpa [isBlank] using hblank
  have hdark := Vector.any_eq_false.mp hnone _
    (f.resolution.position hw hh px py).isLt
  exact Bool.eq_false_iff.mpr hdark

theorem isLit_clear (hpx : px < f.resolution.width)
    (hpy : py < f.resolution.height) : f.clear.isLit px py = false :=
  isLit_of_isBlank f.isBlank_clear hpx hpy

/-- Work that does not clear turns a pixel over as often as set bits fall on
it. -/
theorem isLit_paint {work : Work} (h : work ≠ .clear)
    (hpx : px < f.resolution.width) (hpy : py < f.resolution.height) :
    (work.paint f).isLit px py =
      (f.isLit px py ^^ decide (Odd (work.falling f.resolution px py))) := by
  cases work with
  | draw x y sprite => exact f.isLit_draw hpx hpy
  | clear => exact absurd rfl h
  | flush => simp [Work.paint, Work.falling]

/-- Drawings commute. -/
theorem paint_comm {one other : Work} (hone : one ≠ .clear)
    (hother : other ≠ .clear) (f : Framebuffer) :
    other.paint (one.paint f) = one.paint (other.paint f) := by
  apply eq_of_isLit
  · simp
  · intro px py hpx hpy
    simp only [resolution_paint] at hpx hpy
    rw [isLit_paint hother (by simpa) (by simpa), isLit_paint hone hpx hpy,
      isLit_paint hone (by simpa) (by simpa), isLit_paint hother hpx hpy]
    simp only [resolution_paint]
    exact Bool.xor_right_comm _ _ _

/-- Two drawings that are equal cancel out. -/
theorem paint_paint {work : Work} (h : work ≠ .clear) (f : Framebuffer) :
    work.paint (work.paint f) = f := by
  apply eq_of_isLit
  · simp
  · intro px py hpx hpy
    simp only [resolution_paint] at hpx hpy
    rw [isLit_paint h (by simpa) (by simpa), isLit_paint h hpx hpy]
    simp

/-- A pixel is lit after some work on a dark picture if an odd number of bits
fell on it since the picture was last cleared. -/
theorem isLit_foldl_paint {r : Resolution} (hpx : px < r.width)
    (hpy : py < r.height) (works : List Work) :
    (works.foldl Work.paint (.blank r)).isLit px py =
      decide (Odd (Work.fallenSinceClear r px py works)) := by
  induction works using List.reverseRecOn with
  | nil =>
      have hblank : (Framebuffer.blank r).isLit px py = false :=
        isLit_clear (f := .blank r) hpx hpy
      rw [List.foldl_nil, hblank]
      simp [Work.fallenSinceClear, Work.sinceClear]
  | append_singleton works work ih =>
      rw [List.foldl_append, List.foldl_cons, List.foldl_nil]
      by_cases hclear : work = .clear
      · rw [hclear, Work.fallenSinceClear_concat_clear]
        show (works.foldl Work.paint (.blank r)).clear.isLit px py = _
        rw [isLit_clear (by simpa) (by simpa)]
        simp
      · rw [isLit_paint hclear (by simpa) (by simpa), ih,
          Work.fallenSinceClear_concat hclear, resolution_foldl_paint,
          decide_odd_add]
        rfl

/-- What a piece of work does to a picture, in numbers below a limit. -/
def paint? (limit : Nat) (f : Framebuffer) : Work → Option Framebuffer
  | .draw x y sprite => (f.draw? limit x y sprite).map Prod.snd
  | work => some (work.paint f)

/-- Work whose positions are below a limit never leaves the picture. -/
theorem foldlM_paint? {limit : Nat} {works : List Work}
    (hworks : ∀ work ∈ works, work.Fits limit) {f : Framebuffer}
    (hw : 0 < f.resolution.width) (hh : 0 < f.resolution.height) :
    works.foldlM (paint? limit) f = some (works.foldl Work.paint f) := by
  induction works generalizing f with
  | nil => rfl
  | cons work rest ih =>
      have hwork : paint? limit f work = some (work.paint f) := by
        have hfits := hworks work List.mem_cons_self
        cases work with
        | draw x y sprite =>
            rw [paint?, draw?_eq_some f hw hh hfits.1 hfits.2]
            rfl
        | clear => rfl
        | flush => rfl
      rw [List.foldlM_cons, hwork]
      apply ih
      · intro next hnext
        exact hworks next (List.mem_cons_of_mem work hnext)
      · simpa using hw
      · simpa using hh

/-! ## Drawing once more -/

variable {x y : Nat} {sprite : List UInt8}

theorem pixelAt?_add_mul (r : Resolution) (x y k l : Nat) :
    r.pixelAt? (x + k * r.width) (y + l * r.height) = r.pixelAt? x y := by
  simp only [Resolution.pixelAt?, Nat.add_mul_mod_self_right]

/-- Positions wrap around. -/
theorem draw_add_mul (f : Framebuffer) (x y : Nat) (sprite : List UInt8)
    (k l : Nat) :
    f.draw (x + k * f.resolution.width) (y + l * f.resolution.height) sprite =
      f.draw x y sprite := by
  have htouched : touched f.resolution (x + k * f.resolution.width)
      (y + l * f.resolution.height) sprite =
        touched f.resolution x y sprite := by
    apply List.filterMap_congr
    intro ⟨dx, dy⟩ _
    simp only [Nat.add_right_comm _ _ dx, Nat.add_right_comm _ _ dy]
    exact pixelAt?_add_mul f.resolution (x + dx) (y + dy) k l
  rw [draw, htouched, draw]

/-- A byte other than zero has a set bit. -/
theorem exists_testBit {line : UInt8} (h : line ≠ 0) :
    ∃ dx, dx < 8 ∧ line.toNat.testBit (7 - dx) = true := by
  have hne : line.toNat ≠ 0 := fun hzero => h (UInt8.toNat_inj.mp hzero)
  obtain ⟨i, hi⟩ := Nat.exists_testBit_of_ne_zero hne
  have hlt : i < 8 := Nat.lt_of_not_le fun hle => by
    have hsmall : line.toNat < 2 ^ i :=
      line.toNat_lt.trans_le (Nat.pow_le_pow_right (by omega) hle)
    rw [Nat.testBit_lt_two_pow hsmall] at hi
    cases hi
  refine ⟨7 - i, by omega, ?_⟩
  have hback : 7 - (7 - i) = i := by omega
  rw [hback]
  exact hi

/-- Somewhere on a picture that is large enough, a sprite that is not empty
turns over a single pixel. -/
theorem exists_falling_eq_one {r : Resolution} (hwide : 8 ≤ r.width)
    (hhigh : sprite.length ≤ r.height) (hset : ∃ line ∈ sprite, line ≠ 0)
    (x y : Nat) :
    ∃ px py, px < r.width ∧ py < r.height ∧
      (Sprite.falling r x y sprite px py).card = 1 := by
  obtain ⟨line, hline, hne⟩ := hset
  obtain ⟨dy, hdy, rfl⟩ := List.mem_iff_getElem.mp hline
  obtain ⟨dx, hdx, hbit⟩ := exists_testBit hne
  have hisset : Sprite.isSet sprite dx dy = true := by
    simpa [Sprite.isSet, hdy] using hbit
  generalize hpx : (x + dx) % r.width = px
  generalize hpy : (y + dy) % r.height = py
  have hodd := (odd_falling_iff hwide hhigh hdx hdy hpx hpy).mpr hisset
  have hle := card_falling_le_one (x := x) (y := y) hwide hhigh px py
  refine ⟨px, py, ?_, ?_, ?_⟩
  · rw [← hpx]
    exact Nat.mod_lt _ (by omega)
  · rw [← hpy]
    exact Nat.mod_lt _ (by omega)
  · have hpos := hodd.pos
    omega

/-- On a picture that is large enough, of two equal drawings one collides, and
on a dark one that is the second. -/
theorem draw_twice_hit (hwide : 8 ≤ f.resolution.width)
    (hhigh : sprite.length ≤ f.resolution.height)
    (hset : ∃ line ∈ sprite, line ≠ 0) :
    ((f.draw x y sprite).1 = true ∨
      ((f.draw x y sprite).2.draw x y sprite).1 = true) ∧
    (f.isBlank = true →
      (f.draw x y sprite).1 = false ∧
        ((f.draw x y sprite).2.draw x y sprite).1 = true) := by
  obtain ⟨px, py, hpx, hpy, hone⟩ := exists_falling_eq_one hwide hhigh hset x y
  have hw := Nat.zero_lt_of_lt hpx
  have hh := Nat.zero_lt_of_lt hpy
  -- A pixel that a single bit falls on is lit before the first drawing or
  -- before the second.
  have hsecond : f.isLit px py = false →
      ((f.draw x y sprite).2.draw x y sprite).1 = true := by
    intro hdark
    refine (draw_hit_iff (f.draw x y sprite).2 hw hh).mpr
      ⟨px, py, hpx, hpy, ?_⟩
    have hlit : (f.draw x y sprite).2.isLit px py = true := by
      rw [isLit_draw f hpx hpy, hdark, hone]
      rfl
    show 2 ≤ _ + (Sprite.falling f.resolution x y sprite px py).card
    rw [hlit, hone]
    exact Nat.le_refl 2
  constructor
  · cases hlit : f.isLit px py with
    | true =>
        refine .inl ((draw_hit_iff f hw hh).mpr ⟨px, py, hpx, hpy, ?_⟩)
        rw [hlit, hone]
        exact Nat.le_refl 2
    | false => exact .inr (hsecond hlit)
  · intro hblank
    refine ⟨?_, hsecond (isLit_of_isBlank hblank hpx hpy)⟩
    by_contra hhit
    obtain ⟨qx, qy, hqx, hqy, htwo⟩ :=
      (draw_hit_iff f hw hh).mp (Bool.not_eq_false _ ▸ hhit)
    have hle := card_falling_le_one (x := x) (y := y) hwide hhigh qx qy
    rw [isLit_of_isBlank hblank hqx hqy] at htwo
    simp only [Bool.false_eq_true, if_false] at htwo
    omega

end Framebuffer

/-! ## Screens that nobody sees -/

/-- A screen that nobody sees, together with its picture. -/
structure Headless.Panel where
  picture : Framebuffer
  screen : Headless := {}

namespace Headless.Panel

/-- Does a piece of work.  Drawing answers whether it collided. -/
def perform (p : Panel) : Work → Option Bool × Panel
  | .draw x y sprite =>
      (some (p.picture.draw x y sprite).1,
        { p with picture := (p.picture.draw x y sprite).2 })
  | .clear => (none, { p with picture := p.picture.clear })
  | .flush => (none, { p with screen := (Headless.flush p.picture p.screen).2 })

/-- Does one piece of work after the other. -/
def performAll (p : Panel) (works : List Work) : Panel :=
  works.foldl (fun p work => (p.perform work).2) p

variable (p : Panel) {one other work : Work}

theorem picture_perform (work : Work) :
    (p.perform work).2.picture = work.paint p.picture := by
  cases work <;> rfl

theorem picture_performAll (works : List Work) :
    (p.performAll works).picture = works.foldl Work.paint p.picture := by
  induction works generalizing p with
  | nil => rfl
  | cons work rest ih =>
      show ((p.perform work).2.performAll rest).picture = _
      rw [ih, picture_perform, List.foldl_cons]

theorem performAll_append (first rest : List Work) :
    p.performAll (first ++ rest) = (p.performAll first).performAll rest :=
  List.foldl_append

/-- Work that does not clear can be done in either order. -/
theorem perform_comm (hone : one ≠ .clear) (hother : other ≠ .clear) :
    ((p.perform one).2.perform other).2 =
      ((p.perform other).2.perform one).2 := by
  obtain ⟨picture, screen⟩ := p
  cases one with
  | clear => exact absurd rfl hone
  | flush => cases other <;> rfl
  | draw x y sprite =>
      cases other with
      | clear => exact absurd rfl hother
      | flush => rfl
      | draw x' y' sprite' =>
          exact congrArg (Panel.mk · screen)
            (Framebuffer.paint_comm hone hother picture)

/-- In which order the work between two clears is done makes no difference. -/
theorem performAll_perm {row row' : List Work} (hperm : row.Perm row')
    (hclear : .clear ∉ row) : p.performAll row = p.performAll row' := by
  apply hperm.foldl_eq'
  intro one hone other hother p
  apply perform_comm
  · rintro rfl
    exact hclear hone
  · rintro rfl
    exact hclear hother

/-- Two equal drawings between two clears cancel out. -/
theorem performAll_pair (x y : Nat) (sprite : List UInt8) {row : List Work}
    (hclear : .clear ∉ row) :
    p.performAll (.draw x y sprite :: (row ++ [.draw x y sprite])) =
      p.performAll row := by
  have hperm : (Work.draw x y sprite :: (row ++ [.draw x y sprite])).Perm
      (.draw x y sprite :: .draw x y sprite :: row) :=
    (List.perm_append_singleton _ row).cons _
  have hclear' : Work.clear ∉
      Work.draw x y sprite :: (row ++ [.draw x y sprite]) := by
    simpa using hclear
  have hback : (Work.draw x y sprite).paint
      ((Work.draw x y sprite).paint p.picture) = p.picture :=
    Framebuffer.paint_paint Work.noConfusion p.picture
  rw [performAll_perm p hperm hclear']
  show Panel.performAll ⟨_, p.screen⟩ row = p.performAll row
  exact congrArg (fun f => performAll ⟨f, p.screen⟩ row) hback

/-- Showing the picture does not change it. -/
theorem picture_performAll_filter_flush (works : List Work) :
    (p.performAll (works.filter (· ≠ .flush))).picture =
      (p.performAll works).picture := by
  simp only [picture_performAll]
  generalize p.picture = f
  induction works generalizing f with
  | nil => rfl
  | cons work rest ih =>
      cases work with
      | flush => exact ih f
      | draw x y sprite => exact ih (f.draw x y sprite).2
      | clear => exact ih f.clear

/-- A screen of some size with a dark picture. -/
def dark (r : Resolution) (screen : Headless) : Panel where
  picture := .blank r
  screen

@[simp] theorem resolution_performAll_dark (r : Resolution) (screen : Headless)
    (works : List Work) :
    ((dark r screen).performAll works).picture.resolution = r := by
  rw [picture_performAll, Framebuffer.resolution_foldl_paint]
  rfl

/-- **The picture since it was cleared.**  On a screen that nobody sees, of any
size, whatever was drawn, cleared and shown before:

* a pixel is lit if an odd number of set bits fell on it since the picture was
  last cleared;
* as long as numbers are large enough for them, no position is beyond the
  picture;
* the work between two clears can be done in any order;
* between two clears, two equal drawings can be left out;
* a sprite can be drawn any number of widths and heights further on, which
  changes neither the picture nor the answer;
* showing the picture can be left out;
* if a sprite that is not empty is drawn twice and the picture is at least
  eight pixels wide and as high as the sprite, one of the two collides, and if
  the picture was dark only the second. -/
theorem picture_since_clear (r : Resolution) (screen : Headless)
    (hw : 0 < r.width) (hh : 0 < r.height) :
    (∀ works px py, px < r.width → py < r.height →
      (((dark r screen).performAll works).picture.isLit px py = true ↔
        Odd (Work.fallenSinceClear r px py works))) ∧
    (∀ limit works, (∀ work ∈ works, work.Fits limit) →
      works.foldlM (Framebuffer.paint? limit) (.blank r) =
        some ((dark r screen).performAll works).picture) ∧
    (∀ before row row' after, row.Perm row' → .clear ∉ row →
      (dark r screen).performAll (before ++ row ++ after) =
        (dark r screen).performAll (before ++ row' ++ after)) ∧
    (∀ before x y sprite row after, .clear ∉ row →
      (dark r screen).performAll
          (before ++ .draw x y sprite :: (row ++ [.draw x y sprite]) ++ after) =
        (dark r screen).performAll (before ++ row ++ after)) ∧
    (∀ works x y sprite k l,
      ((dark r screen).performAll works).perform
          (.draw (x + k * r.width) (y + l * r.height) sprite) =
        ((dark r screen).performAll works).perform (.draw x y sprite)) ∧
    (∀ works,
      ((dark r screen).performAll (works.filter (· ≠ .flush))).picture =
        ((dark r screen).performAll works).picture) ∧
    ∀ works x y sprite, 8 ≤ r.width → sprite.length ≤ r.height →
      (∃ line ∈ sprite, line ≠ 0) →
      let first :=
        ((dark r screen).performAll works).perform (.draw x y sprite)
      let second := first.2.perform (.draw x y sprite)
      (first.1 = some true ∨ second.1 = some true) ∧
        (((dark r screen).performAll works).picture.isBlank = true →
          first.1 = some false ∧ second.1 = some true) := by
  refine ⟨?_, ?_, ?_, ?_, ?_, ?_, ?_⟩
  · intro works px py hpx hpy
    rw [picture_performAll]
    show (works.foldl Work.paint (.blank r)).isLit px py = true ↔ _
    rw [Framebuffer.isLit_foldl_paint hpx hpy, decide_eq_true_iff]
  · intro limit works hworks
    rw [picture_performAll]
    exact Framebuffer.foldlM_paint? (f := .blank r) hworks hw hh
  · intro before row row' after hperm hclear
    simp only [performAll_append]
    rw [performAll_perm _ hperm hclear]
  · intro before x y sprite row after hclear
    simp only [performAll_append]
    rw [performAll_pair _ x y sprite hclear]
  · intro works x y sprite k l
    have hdraw := ((dark r screen).performAll works).picture.draw_add_mul
      x y sprite k l
    rw [resolution_performAll_dark] at hdraw
    simp only [perform, hdraw]
  · intro works
    exact picture_performAll_filter_flush (dark r screen) works
  · intro works x y sprite hwide hhigh hset
    obtain ⟨hone, hsecond⟩ := Framebuffer.draw_twice_hit
      (f := ((dark r screen).performAll works).picture) (x := x) (y := y)
      (by simpa using hwide) (by simpa using hhigh) hset
    simp only [perform, Option.some.injEq]
    exact ⟨hone, hsecond⟩

/-- A line of two bits over the right edge of nine columns. -/
def overTheEdge : Work :=
  .draw 8 3 [0b11000000]

/-- After a clear, drawing it twice with a flush between leaves what the flush
alone leaves, and the second drawing collides. -/
theorem picture_since_clear_over_the_edge :
    0 < (⟨9, 2⟩ : Resolution).width ∧ 0 < (⟨9, 2⟩ : Resolution).height ∧
      (dark ⟨9, 2⟩ {}).performAll
          [overTheEdge, .clear, overTheEdge, .flush, overTheEdge] =
        (dark ⟨9, 2⟩ {}).performAll [overTheEdge, .clear, .flush] ∧
      (let first :=
        ((dark ⟨9, 2⟩ {}).performAll [overTheEdge, .clear]).perform overTheEdge
      first.1 = some false ∧
        (first.2.perform overTheEdge).1 = some true) := by
  obtain ⟨-, -, -, hpair, -, -, htwice⟩ :=
    picture_since_clear ⟨9, 2⟩ {} (by decide) (by decide)
  refine ⟨by decide, by decide, ?_, ?_⟩
  · exact hpair [overTheEdge, .clear] 8 3 [0b11000000] [.flush] [] (by decide)
  · exact (htwice [overTheEdge, .clear] 8 3 [0b11000000] (by decide)
      (by decide) ⟨_, List.mem_singleton_self _, by decide⟩).2
      (Framebuffer.isBlank_clear _)

end Headless.Panel
end Chip8
