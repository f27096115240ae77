import BulkDelivery.Bytes.Stream
import BulkDelivery.Checkpoint

/-!
# Operations and checkpoints on streams

Operations can follow one another on a stream.  A checkpoint is written in one piece and
flushed, and is read from everything a stream holds.

## Main definitions

* `Operation.readFrom`, `Operation.writeTo` — one operation.
* `Checkpoint.readFrom`, `Checkpoint.writeTo` — a whole checkpoint.
-/

namespace BulkDelivery

/-- Read one operation and nothing beyond it. -/
def Operation.readFrom (s : Source) : Except DecodeError (Operation × Source) :=
  Operation.read Source.draw s

/-- Write one operation. -/
def Operation.writeTo (o : Operation) (s : Sink) : Except DecodeError Unit × Sink :=
  s.writeAll o.encode

/-- Read the checkpoint that a stream holds. -/
def Checkpoint.readFrom (s : Source) : Except DecodeError Checkpoint :=
  s.toEnd.bind Checkpoint.decode

/-- Write a checkpoint and flush it. -/
def Checkpoint.writeTo (c : Checkpoint) (s : Sink) : Except DecodeError Unit × Sink :=
  match s.writeAll c.encode with
  | (.ok (), s) => s.flush
  | (.error e, s) => (.error e, s)

end BulkDelivery
