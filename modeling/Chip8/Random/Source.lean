import Chip8.Random.Cipher

/-!
# Sources of random bytes

The bytes that a seed gives are numbered, and each is fixed by the seed and
its number (`Random.byteAt`).  A source keeps the seed and how many bytes
were drawn, so drawing is nothing but counting.
-/

namespace Chip8

/-- Byte number `k` of a seed: the low byte of one word. -/
def Random.byteAt (seed : UInt64) (k : Nat) : UInt8 :=
  (Random.block seed (UInt64.ofNat (k / 16)))[Fin.ofNat 16 k].toUInt8

/-- A source of random bytes. -/
structure RandomSource where
  /-- What fixes the bytes. -/
  seed : UInt64
  /-- How many bytes have been drawn. -/
  drawn : Nat := 0
  deriving DecidableEq, Repr

/-- Draws the next byte. -/
def RandomSource.next (r : RandomSource) : UInt8 × RandomSource :=
  (Random.byteAt r.seed r.drawn, { r with drawn := r.drawn + 1 })

end Chip8
