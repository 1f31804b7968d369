/-!
# The font

Each hexadecimal digit has a glyph of five rows, of which only the left half
is lit.  The glyphs lie in memory one behind the other, so the glyph of a
digit is found by a multiplication.
-/

namespace Chip8.Font

/-- Where the first glyph lies. -/
def start : UInt16 := 0

/-- The rows of a glyph. -/
def glyphHeight : Nat := 5

/-- The glyphs of the digits 0 to F. -/
def glyphs : List UInt8 :=
  [ 0xF0, 0x90, 0x90, 0x90, 0xF0,
    0x20, 0x60, 0x20, 0x20, 0x70,
    0xF0, 0x10, 0xF0, 0x80, 0xF0,
    0xF0, 0x10, 0xF0, 0x10, 0xF0,
    0x90, 0x90, 0xF0, 0x10, 0x10,
    0xF0, 0x80, 0xF0, 0x10, 0xF0,
    0xF0, 0x80, 0xF0, 0x90, 0xF0,
    0xF0, 0x10, 0x20, 0x40, 0x40,
    0xF0, 0x90, 0xF0, 0x90, 0xF0,
    0xF0, 0x90, 0xF0, 0x10, 0xF0,
    0xF0, 0x90, 0xF0, 0x90, 0x90,
    0xE0, 0x90, 0xE0, 0x90, 0xE0,
    0xF0, 0x80, 0x80, 0x80, 0xF0,
    0xE0, 0x90, 0x90, 0x90, 0xE0,
    0xF0, 0x80, 0xF0, 0x80, 0xF0,
    0xF0, 0x80, 0xF0, 0x80, 0x80 ]

/-- There is a glyph for each of the sixteen digits. -/
theorem length_glyphs : glyphs.length = 16 * glyphHeight := rfl

/-- Where the glyph of a register value lies.  Values of 16 and more point
behind the font, at whatever lies there. -/
def address (value : UInt8) : UInt16 :=
  start + UInt16.ofNat (glyphHeight * value.toNat)

end Chip8.Font
