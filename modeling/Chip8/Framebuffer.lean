/-!
# The picture

A `Framebuffer` is a grid of pixels that are lit or dark.  Sprites are drawn
by turning pixels over, and a pixel that was lit when it was turned over is a
collision.  Positions wrap around at both edges: a row goes on at its own left
end, and below the lowest row comes the topmost one.  A sprite that is larger
than the picture therefore meets itself.
-/

namespace Chip8

/-- The size of a picture. -/
structure Resolution where
  /-- Pixels in a row. -/
  width : Nat
  /-- Rows. -/
  height : Nat
  deriving DecidableEq, Repr

namespace Resolution

/-- The size that programs expect. -/
def standard : Resolution where
  width := 64
  height := 32

/-- How many pixels there are. -/
def pixelCount (r : Resolution) : Nat :=
  r.width * r.height

/-- A column and a row within the picture are those of a pixel. -/
theorem index_lt (r : Resolution) {x y : Nat} (hx : x < r.width)
    (hy : y < r.height) : y * r.width + x < r.pixelCount :=
  calc y * r.width + x
      < y * r.width + r.width := by omega
    _ = (y + 1) * r.width := by rw [Nat.succ_mul]
    _ ≤ r.height * r.width := Nat.mul_le_mul_right _ hy
    _ = r.pixelCount := Nat.mul_comm _ _

/-- The pixel at column `x` of row `y`, wrapping around at the edges.  Pixels
are counted row by row.  A picture without columns or rows has none. -/
def pixelAt? (r : Resolution) (x y : Nat) : Option (Fin r.pixelCount) :=
  if h : 0 < r.width ∧ 0 < r.height then
    some ⟨y % r.height * r.width + x % r.width,
      r.index_lt (Nat.mod_lt x h.1) (Nat.mod_lt y h.2)⟩
  else none

end Resolution

/-! ## Sprites -/

namespace Sprite

/-- The columns of the set bits of one row, the most significant bit first. -/
def columns (row : UInt8) : List Nat :=
  (List.range 8).filter fun dx => row.toNat.testBit (7 - dx)

/-- The offsets (`dx`, `dy`) of the set bits of a sprite, row by row from row
`dy` on. -/
def pointsFrom (dy : Nat) : List UInt8 → List (Nat × Nat)
  | [] => []
  | row :: rest => (columns row).map (·, dy) ++ pointsFrom (dy + 1) rest

/-- The offsets of the set bits of a sprite. -/
def points (sprite : List UInt8) : List (Nat × Nat) :=
  pointsFrom 0 sprite

end Sprite

/-- A grid of pixels. -/
structure Framebuffer where
  /-- Its size. -/
  resolution : Resolution
  /-- Which pixels are lit, row by row. -/
  pixels : Vector Bool resolution.pixelCount

namespace Framebuffer

/-- A dark picture. -/
def blank (r : Resolution) : Framebuffer where
  resolution := r
  pixels := Vector.replicate r.pixelCount false

/-- Turns every pixel off. -/
def clear (f : Framebuffer) : Framebuffer :=
  { f with pixels := Vector.replicate f.resolution.pixelCount false }

/-- Whether the pixel at column `x` of row `y` is lit, wrapping around. -/
def isLit (f : Framebuffer) (x y : Nat) : Bool :=
  match f.resolution.pixelAt? x y with
  | some p => f.pixels[p]
  | none => false

/-- Whether no pixel is lit. -/
def isBlank (f : Framebuffer) : Bool :=
  !f.pixels.any id

/-- Turns pixels over one after the other, and says whether one was lit just
before its turn. -/
def turnOver {n : Nat} (pixels : Vector Bool n) :
    List (Fin n) → Bool × Vector Bool n
  | [] => (false, pixels)
  | p :: rest =>
    let lit := pixels[p]
    let (hit, after) := turnOver (pixels.set p.val !lit) rest
    (lit || hit, after)

/-- The pixels that a sprite turns over when it is drawn at (`x`, `y`). -/
def touched (r : Resolution) (x y : Nat) (sprite : List UInt8) :
    List (Fin r.pixelCount) :=
  (Sprite.points sprite).filterMap fun (dx, dy) =>
    r.pixelAt? (x + dx) (y + dy)

/-- Draws a sprite with its top left corner at (`x`, `y`), one byte per row.
Answers whether it collided. -/
def draw (f : Framebuffer) (x y : Nat) (sprite : List UInt8) :
    Bool × Framebuffer :=
  let (hit, pixels) := turnOver f.pixels (touched f.resolution x y sprite)
  (hit, { f with pixels })

/-- The pixels row by row. -/
def rows (f : Framebuffer) : List (List Bool) :=
  (List.range f.resolution.height).map fun y =>
    (List.range f.resolution.width).map fun x => f.isLit x y

end Framebuffer

end Chip8
