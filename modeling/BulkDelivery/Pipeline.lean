import BulkDelivery.Buffer
import BulkDelivery.Checkpoint
import BulkDelivery.DeliveryError
import BulkDelivery.Response

/-!
# The pipeline

The pipeline is what a writer knows: the operations that wait, the batches that were sent and
have no answer yet, the pause after a failure, and the failure that ended delivery, if one
did.  Everything takes the current time as an argument and nothing waits.

An operation that was admitted stays in the buffer or in a batch until the store acknowledges
it.  What the store does not acknowledge returns to the front of the buffer, and nothing is
sent for a while.  A fatal failure halts the pipeline for good.

## Main definitions

* `Batch`, `Tally`, `Stats` — a batch, the counters, and the counters as they are reported.
* `Pipeline` — the state.
* `Pipeline.restore`, `Pipeline.accept` — take over the operations of checkpoints, and admit
  a new one.
* `Pipeline.nextBatch` — take the next batch out of the buffer if one is due.
* `Pipeline.dispatchAll` — take every batch that is due.
* `Pipeline.resolve` — settle a batch with the outcome of its request.
* `Pipeline.snapshot` — the checkpoint of what is pending.
* `Pipeline.nextDeadline` — when a batch may be due although nothing happens.
-/

namespace BulkDelivery

/-- The number of a batch; batches are numbered in the order in which they are taken. -/
abbrev BatchId := Nat

/-- A batch as it is sent. -/
structure Batch where
  /-- Its number. -/
  id : BatchId
  /-- Its operations, in order. -/
  operations : List Operation
  deriving DecidableEq, Inhabited

/-- What has happened so far. -/
structure Tally where
  /-- Operations that were admitted; restored ones do not count. -/
  admitted : Nat := 0
  /-- Operations that the store acknowledged. -/
  acknowledged : Nat := 0
  /-- Operations that returned to the buffer, each time. -/
  requeued : Nat := 0
  /-- Batches that were taken. -/
  dispatched : Nat := 0
  /-- Batches whose request failed as a whole. -/
  failed : Nat := 0
  /-- How long the store took for the last answer. -/
  lastTook : Option Duration := none
  deriving DecidableEq, Repr, Inhabited

/-- The state of a writer's work. -/
structure Pipeline where
  /-- The limits. -/
  settings : Settings
  /-- What waits. -/
  buffer : Buffer := {}
  /-- What was sent and has no answer, in the order of sending. -/
  inFlight : List (BatchId × List Entry) := []
  /-- The number of the next batch. -/
  nextId : BatchId := 0
  /-- Until when nothing is sent. -/
  pausedUntil : Option Time := none
  /-- The failure that ended delivery. -/
  halt : Option Halt := none
  /-- What has happened so far. -/
  tally : Tally := {}
  deriving DecidableEq, Inhabited

/-- What settling a batch came to. -/
inductive Resolution
  /-- Some operations were acknowledged, the others returned to the buffer. -/
  | settled (acknowledged requeued : Nat)
  /-- A fatal failure halted the pipeline. -/
  | halted
  /-- There was no such batch, or the pipeline had halted before. -/
  | ignored
  deriving DecidableEq, Repr, Inhabited

namespace Pipeline

/-- The number of operations in batches without an answer. -/
def inFlightCount (p : Pipeline) : Nat :=
  p.inFlight.foldr (fun batch n => batch.2.length + n) 0

/-- The number of operations that are pending. -/
def pendingCount (p : Pipeline) : Nat :=
  p.buffer.length + p.inFlightCount

/-- Whether nothing waits and no batch is without an answer. -/
def isDrained (p : Pipeline) : Bool :=
  p.buffer.isEmpty && p.inFlight.isEmpty

/-! ### Taking operations in -/

/-- Take over the operations of checkpoints, in order.  They may exceed the capacity. -/
def restore (p : Pipeline) (checkpoints : List Checkpoint) (now : Time) : Pipeline :=
  let operations := checkpoints.flatMap Checkpoint.operations
  { p with buffer := operations.foldl (fun b o => b.push (Entry.of o now)) p.buffer }

/-- Admit an operation.  Its size is checked before the capacity; operations in batches count
against the capacity too, so that they always fit back into the buffer. -/
def accept (p : Pipeline) (o : Operation) (now : Time) : Except DeliveryError Pipeline :=
  match p.halt with
  | some halt => .error (.halted halt)
  | none =>
    if p.settings.maxRecordBytes < o.size then
      .error (.recordTooLarge o.size p.settings.maxRecordBytes)
    else if p.settings.maxBuffered ≤ p.pendingCount then
      .error (.bufferFull p.settings.maxBuffered)
    else
      .ok { p with
        buffer := p.buffer.push (Entry.of o now)
        tally := { p.tally with admitted := p.tally.admitted + 1 } }

/-! ### Sending batches -/

/-- Whether the pause after a failure is over. -/
def pauseOver (p : Pipeline) (now : Time) : Bool :=
  p.pausedUntil.all (· ≤ now)

/-- Whether another batch may be without an answer. -/
def hasFreeSlot (p : Pipeline) : Bool :=
  p.inFlight.length < p.settings.maxInFlight

/-- Whether a batch may be sent at all. -/
def canDispatch (p : Pipeline) (now : Time) : Bool :=
  p.halt.isNone && !p.buffer.isEmpty && p.hasFreeSlot && p.pauseOver now

/-- Whether enough operations wait, or the one at the front has waited long enough. -/
def thresholdReached (p : Pipeline) (now : Time) : Bool :=
  decide (p.settings.maxBatchSize ≤ p.buffer.length)
    || decide (p.settings.maxBatchBytes ≤ p.buffer.byteTotal)
    || p.buffer.frontAdmittedAt?.any fun t => p.settings.maxTimeInBuffer ≤ now - t

/-- Take the next batch out of the buffer if one is due.  A forced batch does not wait for a
threshold. -/
def nextBatch (p : Pipeline) (now : Time) (force : Bool) : Option (Batch × Pipeline) :=
  if p.canDispatch now && (force || p.thresholdReached now) then
    let (entries, buffer) := p.buffer.drain p.settings.maxBatchSize p.settings.maxBatchBytes
    some
      ( { id := p.nextId, operations := entries.map Entry.operation },
        { p with
          buffer
          inFlight := p.inFlight ++ [(p.nextId, entries)]
          nextId := p.nextId + 1
          pausedUntil := none
          tally := { p.tally with dispatched := p.tally.dispatched + 1 } } )
  else none

/-- Take batches until none is due, at most so many. -/
def dispatchUpTo : Nat → Pipeline → Time → Bool → List Batch × Pipeline
  | 0, p, _, _ => ([], p)
  | n + 1, p, now, force =>
    match p.nextBatch now force with
    | none => ([], p)
    | some (batch, p) =>
      let (batches, p) := dispatchUpTo n p now force
      (batch :: batches, p)

/-- Take batches until none is due.  Every batch takes a free slot, so there are no more of them
than free slots. -/
def dispatchAll (p : Pipeline) (now : Time) (force : Bool) : List Batch × Pipeline :=
  dispatchUpTo (p.settings.maxInFlight - p.inFlight.length) p now force

/-! ### Settling batches -/

/-- Put entries back to the front of the buffer and pause. -/
def requeue (p : Pipeline) (entries : List Entry) (now : Time) : Pipeline :=
  { p with
    buffer := p.buffer.requeue entries
    pausedUntil := some (now + p.settings.retryBackoff)
    tally := { p.tally with requeued := p.tally.requeued + entries.length } }

/-- The first fatal failure among results, if there is one, and otherwise the entries whose
operations were rejected. -/
def sift (classify : TransportFailure → Verdict) :
    List (Entry × ItemResult) → Except Halt (List Entry)
  | [] => .ok []
  | (_, .success) :: rest => sift classify rest
  | (e, .failed failure) :: rest =>
    match classify failure with
    | .fatal halt => .error halt
    | .retry => (sift classify rest).map (e :: ·)

/-- Count a batch whose request failed as a whole, and put it back. -/
def failBatch (p : Pipeline) (entries : List Entry) (now : Time) : Resolution × Pipeline :=
  let p := { p with tally := { p.tally with failed := p.tally.failed + 1 } }
  (.settled 0 entries.length, p.requeue entries now)

/-- Settle the entries of a batch that left the flight.  An answer with another number of results
cannot be matched to the operations and counts as a failure of the whole request. -/
def settle (p : Pipeline) (entries : List Entry) (outcome : Outcome) (now : Time)
    (classify : TransportFailure → Verdict) : Resolution × Pipeline :=
  match outcome with
  | .failed failure =>
    match classify failure with
    | .fatal halt =>
      (.halted, { p with
        halt := some halt, tally := { p.tally with failed := p.tally.failed + 1 } })
    | .retry => p.failBatch entries now
  | .answered response =>
    -- the store took its time even if its answer is of no use
    let p := { p with tally := { p.tally with lastTook := some response.took } }
    if response.items.length ≠ entries.length then
      p.failBatch entries now
    else
      match sift classify (entries.zip response.items) with
      | .error halt => (.halted, { p with halt := some halt })
      | .ok rejected =>
        let acknowledged := entries.length - rejected.length
        let p := { p with
          tally := { p.tally with acknowledged := p.tally.acknowledged + acknowledged } }
        -- there is a pause only if something returns
        (.settled acknowledged rejected.length,
          if rejected.isEmpty then p else p.requeue rejected now)

/-- Settle a batch with the outcome of its request. -/
def resolve (p : Pipeline) (id : BatchId) (outcome : Outcome) (now : Time)
    (classify : TransportFailure → Verdict) : Resolution × Pipeline :=
  if p.halt.isSome then (.ignored, p)
  else
    match p.inFlight.lookup id with
    | none => (.ignored, p)
    | some entries =>
      settle { p with inFlight := p.inFlight.filter (·.1 != id) } entries outcome now classify

/-! ### Looking at the pipeline -/

/-- The operations that are pending: batches in the order of sending, then the buffer. -/
def pending (p : Pipeline) : List Operation :=
  (p.inFlight.flatMap fun batch => batch.2.map Entry.operation) ++ p.buffer.operations

/-- The checkpoint of what is pending.  There is none after a halt. -/
def snapshot (p : Pipeline) : Except DeliveryError Checkpoint :=
  match p.halt with
  | some halt => .error (.halted halt)
  | none => .ok { operations := p.pending }

/-- When a batch may be due although nothing happens: at the end of the pause, or when the
operation at the front has waited long enough. -/
def nextDeadline (p : Pipeline) (now : Time) : Option Time :=
  if p.halt.isSome || p.buffer.isEmpty || !p.hasFreeSlot then none
  else
    let aged := p.buffer.frontAdmittedAt?.map (· + p.settings.maxTimeInBuffer)
    match p.pausedUntil with
    | some t => if now < t then some t else aged
    | none => aged

end Pipeline

/-! ### Reports -/

/-- The counters of a writer at one moment. -/
structure Stats where
  /-- Operations that wait. -/
  buffered : Nat
  /-- The sum of their sizes. -/
  bufferedBytes : Nat
  /-- Batches without an answer. -/
  inFlightBatches : Nat
  /-- Operations in those batches. -/
  inFlight : Nat
  /-- What has happened so far. -/
  tally : Tally
  deriving DecidableEq, Repr, Inhabited

namespace Stats

/-- Operations that are not acknowledged. -/
def pending (s : Stats) : Nat :=
  s.buffered + s.inFlight

/-- Whether every operation is acknowledged. -/
def isIdle (s : Stats) : Bool :=
  s.pending == 0

end Stats

/-- The counters of a pipeline. -/
def Pipeline.stats (p : Pipeline) : Stats where
  buffered := p.buffer.length
  bufferedBytes := p.buffer.byteTotal
  inFlightBatches := p.inFlight.length
  inFlight := p.inFlightCount
  tally := p.tally

end BulkDelivery
