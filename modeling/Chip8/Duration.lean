/-!
# Durations as text

A duration is shown in the largest of seconds, milliseconds, microseconds and
nanoseconds in which it is at least one, as a decimal number without zeros at
its end.
-/

namespace Chip8.Duration

/-- Drops zeros from the end. -/
def dropZeros (digits : List Char) : List Char :=
  (digits.reverse.dropWhile (· = '0')).reverse

/-- `count` as a decimal number of units that `scale` makes up, where `scale`
is a power of ten with `places` zeros. -/
def decimal (count scale places : Nat) : String :=
  let digits := Nat.toDigits 10 (count % scale)
  let fraction :=
    dropZeros (List.replicate (places - digits.length) '0' ++ digits)
  toString (count / scale) ++
    if fraction.isEmpty then "" else String.ofList ('.' :: fraction)

/-- A number of nanoseconds as text. -/
def text (nanoseconds : Nat) : String :=
  if 1000000000 ≤ nanoseconds then decimal nanoseconds 1000000000 9 ++ "s"
  else if 1000000 ≤ nanoseconds then decimal nanoseconds 1000000 6 ++ "ms"
  else if 1000 ≤ nanoseconds then decimal nanoseconds 1000 3 ++ "µs"
  else toString nanoseconds ++ "ns"

end Chip8.Duration
