import BulkDelivery.EventLoop

/-!
# Opening a writer

A writer is opened with settings and with the work that earlier writers left behind, given as
checkpoints or as stored bytes.  Opening checks the settings, reads the stored bytes, connects
to the store and checks the connection, in this order, and stops at the first fault.

## Main definitions

* `Opening` — what a writer is opened with; it is put together with `withSettings`, `restoring`,
  `resuming` and `asSubtask`, in any order.
* `Connector` — how a store behaves when a writer connects to it.
* `Opening.work` — the checkpoints to restore, or the first fault before any connection.
* `Opening.begin` — the pipeline of the writer, or the first fault.
-/

namespace BulkDelivery

/-- What a writer is opened with. -/
structure Opening where
  /-- The limits. -/
  settings : Settings := {}
  /-- Checkpoints of earlier writers. -/
  restored : List Checkpoint := []
  /-- Stored checkpoints of earlier writers. -/
  stored : List Bytes := []
  /-- The number of the writer among those that work in parallel. -/
  subtask : UInt32 := 0
  deriving DecidableEq, Inhabited

/-- How a store behaves when a writer connects to it. -/
structure Connector (Store : Type) where
  /-- Make a connection. -/
  connect : Store → Except TransportFailure Store
  /-- Check that the store can be reached over it. -/
  verify : Store → Except TransportFailure Unit
  /-- The verdict on a failure. -/
  classify : Store → TransportFailure → Verdict

/-- What a failure to connect is reported as. -/
def connectError (verdict : Verdict) (failure : TransportFailure) : DeliveryError :=
  match verdict with
  | .fatal halt => .halted halt
  | .retry => .connect failure

/-- Read stored checkpoints, in order. -/
def decodeAll : List Bytes → Except DecodeError (List Checkpoint)
  | [] => .ok []
  | b :: rest => do
    let c ← Checkpoint.decode b
    let cs ← decodeAll rest
    return c :: cs

namespace Opening

/-- Open with these limits. -/
def withSettings (o : Opening) (settings : Settings) : Opening :=
  { o with settings }

/-- Restore these checkpoints after those given so far. -/
def restoring (o : Opening) (cs : List Checkpoint) : Opening :=
  { o with restored := o.restored ++ cs }

/-- Restore this stored checkpoint after those given so far. -/
def resuming (o : Opening) (b : Bytes) : Opening :=
  { o with stored := o.stored ++ [b] }

/-- Open under this number. -/
def asSubtask (o : Opening) (subtask : UInt32) : Opening :=
  { o with subtask }

/-- The checkpoints to restore: those that were given, then those that were stored. -/
def work (o : Opening) : Except DeliveryError (List Checkpoint) :=
  match o.settings.validate with
  | .error e => .error (.invalidSettings e)
  | .ok () =>
    match decodeAll o.stored with
    | .error e => .error (.corruptState e)
    | .ok cs => .ok (o.restored ++ cs)

variable {Store : Type}

/-- Connect to a store and check the connection. -/
def connect (c : Connector Store) (s : Store) : Except DeliveryError Unit × Store :=
  match c.connect s with
  | .error f => (.error (connectError (c.classify s f) f), s)
  | .ok s =>
    match c.verify s with
    | .error f => (.error (connectError (c.classify s f) f), s)
    | .ok () => (.ok (), s)

/-- Open a writer. -/
def begin (o : Opening) (c : Connector Store) (s : Store) (now : Time) :
    Except DeliveryError Pipeline × Store :=
  match o.work with
  | .error e => (.error e, s)
  | .ok cs =>
    match connect c s with
    | (.error e, s) => (.error e, s)
    | (.ok (), s) => (.ok (Pipeline.restore { settings := o.settings } cs now), s)

end Opening

end BulkDelivery
