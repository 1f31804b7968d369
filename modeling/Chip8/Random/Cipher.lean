import Chip8.Word

/-!
# Blocks of random words

Random numbers come from a stream cipher with twelve rounds.  A block of
sixteen words is computed from a key of eight words and the block's number,
so every block stands for itself.  The key is expanded from a seed of 64 bits
by a linear congruential generator whose output is shifted and rotated.
-/

namespace Chip8.Random

/-! ## The key -/

/-- A word with its bits moved right by `amount`, those that fall out on the right
coming in on the left. -/
def rotateRight (x amount : UInt32) : UInt32 :=
  (x >>> amount) ||| (x <<< (32 - amount))

/-- A word with its bits moved left by `amount`, those that fall out on the left
coming in on the right. -/
def rotateLeft (x amount : UInt32) : UInt32 :=
  (x <<< amount) ||| (x >>> (32 - amount))

/-- The next state of the generator that expands seeds. -/
def advance (state : UInt64) : UInt64 :=
  state * 6364136223846793005 + 11634580027462260723

/-- The word that a state of the generator gives. -/
def permute (state : UInt64) : UInt32 :=
  rotateRight (((state >>> 18) ^^^ state) >>> 27).toUInt32
    (state >>> 59).toUInt32

/-- The first `n` words that the generator gives from a state on. -/
def expand : Nat → UInt64 → List UInt32
  | 0, _ => []
  | n + 1, state =>
    let next := advance state
    permute next :: expand n next

/-! ## Blocks -/

/-- The working state of the cipher. -/
abbrev Block := Vector UInt32 16

/-- Mixes four words of a block. -/
def quarterRound (b : Block) (i j k l : Fin 16) : Block :=
  let a := b[i] + b[j]
  let d := rotateLeft (b[l] ^^^ a) 16
  let c := b[k] + d
  let e := rotateLeft (b[j] ^^^ c) 12
  let a := a + e
  let d := rotateLeft (d ^^^ a) 8
  let c := c + d
  let e := rotateLeft (e ^^^ c) 7
  (((b.set i.val a).set j.val e).set k.val c).set l.val d

/-- Two rounds: the columns, then the diagonals. -/
def doubleRound (b : Block) : Block :=
  let b := quarterRound b 0 4 8 12
  let b := quarterRound b 1 5 9 13
  let b := quarterRound b 2 6 10 14
  let b := quarterRound b 3 7 11 15
  let b := quarterRound b 0 5 10 15
  let b := quarterRound b 1 6 11 12
  let b := quarterRound b 2 7 8 13
  quarterRound b 3 4 9 14

/-- Twelve rounds. -/
def rounds (b : Block) : Block :=
  Nat.repeat doubleRound 6 b

/-- The words that every block starts with. -/
def constants : List UInt32 :=
  [0x61707865, 0x3320646E, 0x79622D32, 0x6B206574]

/-- Block number `n` before the rounds, for the key of a seed. -/
def initialBlock (seed : UInt64) (n : UInt64) : Block :=
  let words :=
    constants ++ expand 8 seed ++ [n.toUInt32, (n >>> 32).toUInt32, 0, 0]
  Vector.ofFn fun i => words.getD i.val 0

/-- Block number `n` of the words that a seed gives. -/
def block (seed : UInt64) (n : UInt64) : Block :=
  let start := initialBlock seed n
  Vector.zipWith (· + ·) (rounds start) start

end Chip8.Random
