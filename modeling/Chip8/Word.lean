/-!
# Words

Two bytes in memory make one word, the first byte the more significant.  Words,
registers and the nibbles of a word come by the sixteen, so that there are
numerals below sixteen is said here once for all modules.
-/

/-- There are numerals below sixteen.  The zero is the one of the core library,
whatever other zeros are in scope. -/
instance Chip8.neZeroSixteen : @NeZero Nat Zero.ofOfNat0 16 :=
  ⟨Nat.succ_ne_zero 15⟩

namespace Chip8.Word

/-- The word of two bytes. -/
def ofBytes (high low : UInt8) : UInt16 :=
  UInt16.ofNat (256 * high.toNat + low.toNat)

/-- The number that the word of two bytes is. -/
theorem toNat_ofBytes (high low : UInt8) :
    (ofBytes high low).toNat = 256 * high.toNat + low.toNat := by
  have hh := high.toNat_lt
  have hl := low.toNat_lt
  simp only [ofBytes, UInt16.toNat_ofNat']
  omega

end Chip8.Word
