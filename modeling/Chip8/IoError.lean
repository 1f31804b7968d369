/-!
# Input and output errors

Readers, writers and devices fail with a kind, which callers act on, and a
message, which people read.
-/

namespace Chip8

/-- What sort of failure a device reports. -/
inductive IoError.Kind where
  | other
  | brokenPipe
  | notFound
  | permissionDenied
  | unexpectedEof
  | invalidData
  /-- The operation was interrupted and may be tried again. -/
  | interrupted
  /-- A writer took none of the bytes it was given. -/
  | writeZero
  deriving DecidableEq, Repr

/-- A failure of a device. -/
structure IoError where
  /-- The sort of failure. -/
  kind : IoError.Kind
  /-- What to tell the user. -/
  message : String
  deriving DecidableEq, Repr

namespace IoError

/-- Whether the failed operation is to be tried again. -/
def isInterrupted (e : IoError) : Bool :=
  e.kind = .interrupted

/-- The failure of writing all of a text to a writer that takes no more. -/
def wroteNothing : IoError :=
  ⟨.writeZero, "failed to write whole buffer"⟩

end IoError

end Chip8
