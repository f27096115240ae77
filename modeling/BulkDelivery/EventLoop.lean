import BulkDelivery.Pipeline

/-!
# The event loop

A writer's pipeline belongs to one loop.  Callers send it requests; the tasks that submit
batches post how they came back; and the loop wakes up when a deadline passes.  It takes one
such event at a time.  After each of them it *turns*: it sends every batch that is due,
answers the callers whose flush is complete, and ends if it was closed and has nothing left
to do.  When nobody is left who could send requests, it ends with whatever is still to do.

A caller who waits for a flush may give up.  The loop is not told; it notices at its next
turn, and from then on that flush no longer makes it send batches early.

## Main definitions

* `Command`, `Answer` — what callers ask for and what they are told.
* `EventLoop` — the loop, with the tasks, the posted outcomes and the callers around it.
* `Event`, `Effect` — what can happen to the loop, and what it does in turn.
* `EventLoop.turn` — what the loop does between two events.
* `EventLoop.leave` — how the loop ends.
* `EventLoop.step` — one event and the turn after it.
* `EventLoop.start`, `EventLoop.run` — the first turn, and a sequence of events.
-/

namespace BulkDelivery

/-- The number of a call, by which its answer is known. -/
abbrev CallId := Nat

/-- What a caller asks of the loop. -/
inductive Command
  /-- Admit an operation. -/
  | write (operation : Operation)
  /-- Send everything and answer once all of it is acknowledged. -/
  | flush
  /-- Answer with the checkpoint of what is pending. -/
  | snapshot
  /-- Answer with the counters. -/
  | stats
  /-- Admit nothing more, send everything, and end. -/
  | close
  deriving DecidableEq, Inhabited

/-- What a caller is told. -/
inductive Answer
  /-- It is done. -/
  | done
  /-- It failed. -/
  | failed (error : DeliveryError)
  /-- The checkpoint that was asked for. -/
  | checkpoint (checkpoint : Checkpoint)
  /-- The counters that were asked for. -/
  | stats (stats : Stats)
  deriving DecidableEq, Inhabited

/-- Whether a loop still runs. -/
inductive Phase
  /-- It takes events. -/
  | running
  /-- It ended and released the connection. -/
  | ended
  /-- It was stopped from outside, with nothing released. -/
  | stopped
  deriving DecidableEq, Repr, Inhabited

/-- A loop and what surrounds it. -/
structure EventLoop where
  /-- The work. -/
  pipeline : Pipeline
  /-- Callers waiting for a flush, in the order of their requests. -/
  flushes : List CallId := []
  /-- The caller who closed the loop. -/
  closing : Option CallId := none
  /-- Whether the loop still runs. -/
  phase : Phase := .running
  /-- Batches whose request has not come back. -/
  submitted : List Batch := []
  /-- Outcomes that were posted and not yet taken, oldest first. -/
  inbox : List (BatchId × Outcome) := []
  /-- Callers who gave up waiting. -/
  departed : List CallId := []
  deriving DecidableEq, Inhabited

/-- What can happen to a loop. -/
inductive Event
  /-- A request arrives. -/
  | request (call : CallId) (command : Command)
  /-- A request to the store comes back, and its outcome is posted. -/
  | post (id : BatchId) (outcome : Outcome)
  /-- The loop takes the oldest outcome that was posted. -/
  | take
  /-- A deadline passes. -/
  | wake
  /-- A caller gives up waiting. -/
  | depart (call : CallId)
  /-- Nobody can send requests any more. -/
  | release
  /-- The loop is stopped from outside. -/
  | stop
  deriving DecidableEq, Inhabited

/-- What a loop does. -/
inductive Effect
  /-- It submits a batch. -/
  | submit (batch : Batch)
  /-- It answers a call. -/
  | answer (call : CallId) (answer : Answer)
  /-- It releases the connection. -/
  | cleanup
  deriving DecidableEq, Inhabited

/-- When an event happens, and how failures are judged at that time. -/
structure Moment where
  /-- The time. -/
  now : Time
  /-- The verdict on a failure. -/
  classify : TransportFailure → Verdict

namespace EventLoop

/-! ### The turn -/

/-- Whether thresholds are skipped: while the loop is closing, and while a flush is waited for. -/
def isForced (l : EventLoop) : Bool :=
  l.closing.isSome || !l.flushes.isEmpty

/-- Forget the flushes whose callers gave up. -/
def dropDeparted (l : EventLoop) : EventLoop :=
  { l with flushes := l.flushes.filter fun call => !l.departed.contains call }

/-- Send every batch that is due. -/
def dispatch (l : EventLoop) (now : Time) : EventLoop × List Effect :=
  let (batches, pipeline) := l.pipeline.dispatchAll now l.isForced
  ({ l with pipeline, submitted := l.submitted ++ batches }, batches.map .submit)

/-- What callers waiting for everything to be sent are told, once there is something to tell. -/
def completion? (l : EventLoop) : Option Answer :=
  match l.pipeline.halt with
  | some halt => some (.failed (.halted halt))
  | none => if l.pipeline.isDrained then some .done else none

/-- Answer the callers whose flush is complete. -/
def answerFlushes (l : EventLoop) : EventLoop × List Effect :=
  match l.completion? with
  | none => (l, [])
  | some answer => ({ l with flushes := [] }, l.flushes.map (.answer · answer))

/-- What the caller who closed the loop is told when it ends. -/
def lastWord (l : EventLoop) : Answer :=
  match l.pipeline.halt with
  | some halt => .failed (.halted halt)
  | none => .done

/-- End the loop.  The connection is released before the caller who closed it is told. -/
def leave (l : EventLoop) : EventLoop × List Effect :=
  ({ l with phase := .ended }, .cleanup :: l.closing.toList.map (.answer · l.lastWord))

/-- End a loop that was closed and has nothing left to do. -/
def finish (l : EventLoop) : EventLoop × List Effect :=
  if l.closing.isSome && l.completion?.isSome then l.leave else (l, [])

/-- What the loop does between two events. -/
def turn (l : EventLoop) (now : Time) : EventLoop × List Effect :=
  -- a flush whose caller gave up must not force anything, so it is dropped first
  let (l, submissions) := l.dropDeparted.dispatch now
  let (l, answers) := l.answerFlushes
  let (l, ending) := l.finish
  (l, submissions ++ answers ++ ending)

/-! ### Events -/

/-- Take a request. -/
def handle (l : EventLoop) (now : Time) (call : CallId) : Command → EventLoop × List Effect
  | .write o =>
    if l.closing.isSome then (l, [.answer call (.failed .closed)])
    else
      match l.pipeline.accept o now with
      | .ok pipeline => ({ l with pipeline }, [.answer call .done])
      | .error e => (l, [.answer call (.failed e)])
  | .flush => ({ l with flushes := l.flushes ++ [call] }, [])
  | .snapshot =>
    match l.pipeline.snapshot with
    | .ok c => (l, [.answer call (.checkpoint c)])
    | .error e => (l, [.answer call (.failed e)])
  | .stats => (l, [.answer call (.stats l.pipeline.stats)])
  | .close =>
    -- the first caller who closes is told at the end, every other one at once
    if l.closing.isSome then (l, [.answer call (.failed .closed)])
    else ({ l with closing := some call }, [])

/-- Do something and then turn. -/
def andTurn (did : EventLoop × List Effect) (now : Time) : EventLoop × List Effect :=
  let (l, effects) := did.1.turn now
  (l, did.2 ++ effects)

/-- Settle the oldest outcome that was posted. -/
def takeOutcome (l : EventLoop) (m : Moment) : EventLoop × List Effect :=
  match l.inbox with
  | [] => (l, [])
  | (id, outcome) :: inbox =>
    let (_, pipeline) := l.pipeline.resolve id outcome m.now m.classify
    andTurn ({ l with pipeline, inbox }, []) m.now

/-- The outcome of a submitted batch comes back.  Nobody takes it if the loop is gone. -/
def receive (l : EventLoop) (id : BatchId) (outcome : Outcome) : EventLoop :=
  if l.submitted.any (·.id == id) then
    let submitted := l.submitted.filter (·.id != id)
    if l.phase = .running then { l with submitted, inbox := l.inbox ++ [(id, outcome)] }
    else { l with submitted }
  else l

/-- One event and the turn after it.  A loop that no longer runs does nothing. -/
def step (l : EventLoop) (m : Moment) : Event → EventLoop × List Effect
  | .post id outcome => (l.receive id outcome, [])
  | .depart call => ({ l with departed := call :: l.departed }, [])
  | .request call command =>
    if l.phase = .running then andTurn (l.handle m.now call command) m.now
    else (l, [.answer call (.failed .closed)])
  | .take => if l.phase = .running then l.takeOutcome m else (l, [])
  | .wake => if l.phase = .running then l.turn m.now else (l, [])
  | .release => if l.phase = .running then l.leave else (l, [])
  | .stop => if l.phase = .running then ({ l with phase := .stopped }, []) else (l, [])

/-- The first turn of a loop over some work. -/
def start (p : Pipeline) (now : Time) : EventLoop × List Effect :=
  turn { pipeline := p } now

/-- A sequence of events. -/
def run (l : EventLoop) : List (Moment × Event) → EventLoop × List Effect
  | [] => (l, [])
  | (m, e) :: rest =>
    let (l, effects) := l.step m e
    let (l, others) := l.run rest
    (l, effects ++ others)

/-- When the loop wakes up although nothing happens. -/
def deadline (l : EventLoop) (now : Time) : Option Time :=
  if l.phase = .running then l.pipeline.nextDeadline now else none

end EventLoop

end BulkDelivery
