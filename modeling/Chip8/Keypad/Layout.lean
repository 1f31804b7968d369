import Chip8.Keypad.Basic
import Chip8.Quoted

/-!
# The keypad on a keyboard

The keypad lies on the left of the keyboard, row by row:

    keypad     keyboard
    1 2 3 C    1 2 3 4
    4 5 6 D    q w e r
    7 8 9 E    a s d f
    A 0 B F    z x c v

Escape and `Ctrl+C` end the program.  Capitals count as small letters, and
modifiers other than Control do not matter.
-/

namespace Chip8

/-- A key of the keyboard. -/
inductive KeyCode where
  /-- A key that types a character. -/
  | char (c : Char)
  /-- A function key. -/
  | function (n : Nat)
  /-- The escape key. -/
  | escape
  /-- Any other key, by its name. -/
  | named (name : String)
  deriving DecidableEq, Repr

/-- The modifiers that are down with a key. -/
structure Modifiers where
  control : Bool := false
  shift : Bool := false
  alt : Bool := false
  deriving DecidableEq, Repr

/-- A key that went down on the keyboard. -/
structure KeyEvent where
  /-- Which key. -/
  code : KeyCode
  /-- What was held with it. -/
  modifiers : Modifiers := {}
  deriving DecidableEq, Repr

namespace Layout

/-- The keypad's key for a small letter or digit of the keyboard. -/
def hexOfChar? : Char → Option UInt8
  | 'x' => some 0x0
  | '1' => some 0x1
  | '2' => some 0x2
  | '3' => some 0x3
  | 'q' => some 0x4
  | 'w' => some 0x5
  | 'e' => some 0x6
  | 'a' => some 0x7
  | 's' => some 0x8
  | 'd' => some 0x9
  | 'z' => some 0xA
  | 'c' => some 0xB
  | '4' => some 0xC
  | 'r' => some 0xD
  | 'f' => some 0xE
  | 'v' => some 0xF
  | _ => none

/-- The key that a key of the keyboard stands for, if it stands for one. -/
def key? (event : KeyEvent) : Option Key :=
  match event.code with
  | .escape => some .exit
  | .char c =>
    if event.modifiers.control then
      if c.toLower = 'c' then some .exit else none
    else (hexOfChar? c.toLower).map Key.hex
  | _ => none

/-- What the log says of a key that stands for none.  Control chords are passed
over in silence. -/
def remark? (event : KeyEvent) : Option String :=
  match event.code with
  | .escape => none
  | .char c =>
    if event.modifiers.control ∨ (hexOfChar? c.toLower).isSome then none
    else some ("can't map " ++ Quoted.char c ++ " to a COSMAC key")
  | .function n => some ("ignoring key F(" ++ toString n ++ ")")
  | .named name => some ("ignoring key " ++ name)

/-- The event of a character that arrives from a terminal.  Some keys arrive as
control characters.  The other control characters stand for a character that
is typed with Control: those up to 26 for the letters, those from 28 on for the
digits from 4 on, and the null character for a space. -/
def ofTerminal (c : Char) : KeyEvent :=
  let n := c.toNat
  if c = '\x1b' then { code := .escape }
  else if c = '\r' then { code := .named "Enter" }
  else if c = '\t' then { code := .named "Tab" }
  else if c = '\x7f' then { code := .named "Backspace" }
  else if n = 0 then { code := .char ' ', modifiers := { control := true } }
  else if n ≤ 26 then
    { code := .char (Char.ofNat (n + 96)), modifiers := { control := true } }
  else if n < 32 then
    { code := .char (Char.ofNat (n + 24)), modifiers := { control := true } }
  else { code := .char c }

end Layout

end Chip8
