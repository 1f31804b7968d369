/-!
# Hexadecimal text

Addresses, words and bytes are shown in lower-case hexadecimal with a least
number of digits.  A value that needs more digits than asked for gets them,
so no width ever cuts a number short.
-/

namespace Chip8.Hex

/-- The hexadecimal digits of `n`, most significant first, padded with zeros
on the left to at least `width` of them.  There is always one digit. -/
def digits (width n : Nat) : List Char :=
  if n < 16 then List.replicate (width - 1) '0' ++ [Nat.digitChar n]
  else digits (width - 1) (n / 16) ++ [Nat.digitChar (n % 16)]
termination_by n
decreasing_by omega

/-- `Hex.digits` as a string. -/
def text (width n : Nat) : String :=
  String.ofList (digits width n)

/-- A byte as two digits. -/
def byte (b : UInt8) : String :=
  text 2 b.toNat

/-- A byte string as two digits per byte, with nothing between them. -/
def bytes (bs : List UInt8) : String :=
  String.join (bs.map byte)

/-- An address as error messages show it: `0x` and at least three digits. -/
def address (a : UInt16) : String :=
  "0x" ++ text 3 a.toNat

end Chip8.Hex
