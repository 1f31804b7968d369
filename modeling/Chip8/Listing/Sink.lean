import Chip8.IoError
import Chip8.Listing.Basic

/-!
# Writing a listing out

A `Sink` is a writer with room for a number of characters.  Beyond that it
first fails as it is told to, if it is, and then takes nothing more.  A
writer may take part of what it is given, so `Sink.writeAll` goes on with the
rest, tries again after an interruption, and gives up when nothing is taken.
-/

namespace Chip8

/-- A writer of limited room. -/
structure Sink where
  /-- What has been written. -/
  accepted : String := ""
  /-- How many more characters are taken. -/
  room : Nat
  /-- How the first write beyond the room fails. -/
  failure : Option IoError := none
  deriving DecidableEq, Repr

namespace Sink

/-- One write.  It answers how many characters were taken. -/
def write (s : Sink) (text : List Char) : Except IoError Nat × Sink :=
  if s.room = 0 then
    match s.failure with
    | some e => (.error e, { s with failure := none })
    | none => (.ok 0, s)
  else
    let taken := text.take s.room
    (.ok taken.length,
      { s with
        accepted := s.accepted ++ String.ofList taken
        room := s.room - taken.length })

/-- How many failures are still to come. -/
def failuresLeft (s : Sink) : Nat :=
  if s.failure.isSome then 1 else 0

/-- A write that fails uses its failure up, so `writeAll` comes to an end. -/
theorem failuresLeft_write_lt {s t : Sink} {text : List Char} {e : IoError}
    (h : s.write text = (.error e, t)) : t.failuresLeft < s.failuresLeft := by
  unfold write at h
  split at h
  · split at h
    · next hf => cases h; simp [failuresLeft, hf]
    · cases h
  · cases h

/-- Writes all of a text, or fails. -/
def writeAll (s : Sink) (text : List Char) : Except IoError Unit × Sink :=
  match text with
  | [] => (.ok (), s)
  | c :: cs =>
    match h : s.write (c :: cs) with
    | (.ok 0, t) => (.error .wroteNothing, t)
    | (.ok (n + 1), t) => t.writeAll ((c :: cs).drop (n + 1))
    | (.error e, t) =>
      if e.isInterrupted then t.writeAll (c :: cs) else (.error e, t)
termination_by (text.length, s.failuresLeft)
decreasing_by
  · exact Prod.Lex.left _ _ (by rw [List.length_drop, List.length_cons]; omega)
  · exact Prod.Lex.right _ (failuresLeft_write_lt h)

/-- Writes texts one after the other and stops at the first that fails. -/
def writeEach (s : Sink) : List (List Char) → Except IoError Unit × Sink
  | [] => (.ok (), s)
  | text :: rest =>
    match s.writeAll text with
    | (.ok (), t) => t.writeEach rest
    | (.error e, t) => (.error e, t)

end Sink

/-- Writes the listing of a program line by line. -/
def Listing.writeTo (program : List UInt8) (s : Sink) :
    Except IoError Unit × Sink :=
  s.writeEach ((Listing.lines program).map Listing.Line.written)

end Chip8
