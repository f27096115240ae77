import BulkDelivery.Bytes.Draw

/-!
# Streams

A source hands out its bytes in portions of its own choosing and then ends, or fails.  A
sink takes bytes in portions of its own choosing, up to a limit it may have, and then
fails or takes nothing more.  Reading a number of bytes and writing a byte string repeat
single reads and writes until done.

A source or sink never reports an interruption, which would only be tried again.

## Main definitions

* `Source`, `Source.read`, `Source.draw`, `Source.toEnd` — reading once, reading a number of
  bytes, and reading everything.
* `Sink`, `Sink.write`, `Sink.writeAll`, `Sink.flush` — writing once, writing everything, and
  flushing.
-/

namespace BulkDelivery

/-! ### Sources -/

/-- A stream to read from. -/
structure Source where
  /-- What has not been read. -/
  pending : Bytes
  /-- The most that a read hands out, by the number of reads before it. -/
  portion : Nat → Nat
  /-- The number of reads so far. -/
  reads : Nat := 0
  /-- What is reported at the end instead of the end. -/
  failure : Option IoError := none

namespace Source

/-- Read at most `n` bytes.  Reading none means the end is reached, unless none are wanted. -/
def read (n : Nat) (s : Source) : Except IoError (Bytes × Source) :=
  match s.pending, s.failure with
  | [], some e => .error e
  | pending, _ =>
    let k := min n (s.portion s.reads)
    .ok (pending.take k, { s with pending := pending.drop k, reads := s.reads + 1 })

/-- Read until `need` more bytes are there, collected in reverse.  Every read brings at least one
byte, so as many reads as bytes are enough. -/
def fill : Nat → Nat → Bytes → Source → Except DecodeError (Bytes × Source)
  | 0, _, got, s => .ok (got.reverse, s)
  | fuel + 1, need, got, s =>
    if need = 0 then .ok (got.reverse, s)
    else
      match s.read need with
      | .error e => .error (.ofIo e)
      | .ok ([], _) => .error .insufficientData
      | .ok (more, s) => fill fuel (need - more.length) (more.reverse ++ got) s

/-- Read exactly `n` bytes. -/
def draw : Draw Source := fun n s => fill n n [] s

/-- Read until a read brings nothing, collecting in reverse.  More bytes are wanted each time
than there are. -/
def drain : Nat → Bytes → Source → Except DecodeError Bytes
  | 0, got, _ => .ok got.reverse
  | fuel + 1, got, s =>
    match s.read (fuel + 1) with
    | .error e => .error (.ofIo e)
    | .ok ([], _) => .ok got.reverse
    | .ok (more, s) => drain fuel (more.reverse ++ got) s

/-- Read everything to the end. -/
def toEnd (s : Source) : Except DecodeError Bytes :=
  drain (s.pending.length + 1) [] s

end Source

/-! ### Sinks -/

/-- A stream to write to. -/
structure Sink where
  /-- What has been written, last byte first. -/
  taken : Bytes := []
  /-- The most that a write takes, by the number of writes before it. -/
  portion : Nat → Nat
  /-- The number of writes so far. -/
  writes : Nat := 0
  /-- How much more it takes in all. -/
  room : Option Nat := none
  /-- What a write at the limit reports. -/
  failure : Option IoError := none
  /-- What a flush reports. -/
  flushFailure : Option IoError := none
  /-- The number of flushes so far. -/
  flushes : Nat := 0

namespace Sink

/-- What is reported when a write takes nothing. -/
def writeZero : IoError :=
  { kind := .writeZero, message := "failed to write whole buffer" }

/-- What has been written. -/
def written (s : Sink) : Bytes :=
  s.taken.reverse

/-- Write some of `b`: the number of bytes taken. -/
def write (b : Bytes) (s : Sink) : Except IoError (Nat × Sink) :=
  match s.room, s.failure with
  | some 0, some e => .error e
  | room, _ =>
    let most := s.portion s.writes
    let part := b.take (room.elim most (min most))
    .ok (part.length, { s with
      taken := part.reverse ++ s.taken
      room := room.map (· - part.length)
      writes := s.writes + 1 })

/-- Write until nothing of `b` is left.  Every write takes at least one byte or ends in an
error, so as many writes as bytes are enough. -/
def writeUpTo : Nat → Bytes → Sink → Except DecodeError Unit × Sink
  | 0, _, s => (.ok (), s)
  | fuel + 1, b, s =>
    if b.isEmpty then (.ok (), s)
    else
      match s.write b with
      | .error e => (.error (.ofIo e), s)
      | .ok (0, s) => (.error (.ofIo writeZero), s)
      | .ok (k, s) => writeUpTo fuel (b.drop k) s

/-- Write all of `b`. -/
def writeAll (b : Bytes) (s : Sink) : Except DecodeError Unit × Sink :=
  writeUpTo b.length b s

/-- Flush what was written. -/
def flush (s : Sink) : Except DecodeError Unit × Sink :=
  let s' := { s with flushes := s.flushes + 1 }
  match s.flushFailure with
  | some e => (.error (.ofIo e), s')
  | none => (.ok (), s')

end Sink

end BulkDelivery
