import BulkDelivery.Opening
import BulkDelivery.Session.Clock

/-!
# The calls of a session

The calls that a session makes to its present writer and its present store.  After each call
everything is done that can be done at the present time.

## Main definitions

* `Session.openWriter`, `Session.write`, `Session.flush`, … — the calls.
* `Session.flushInBackground`, `Session.poll`, `Session.join`, … — the same without waiting.
* `Session.newStore`, `Session.releasePermits`, `Session.report` — the present store.
-/

namespace BulkDelivery

/-- Why a session refuses a call. -/
inductive Refusal
  /-- No writer is open, or somebody else still uses it. -/
  | noWriter
  /-- No call of this name is in the background. -/
  | noBackground
  /-- The call failed. -/
  | failed (error : DeliveryError)
  deriving DecidableEq, Repr, Inhabited

namespace Session

/-! ### Calls -/

/-- What a call comes to, and the session after it. -/
abbrev Outcome (α : Type) := Except Refusal α × Session

/-- Turn a call's answer into what the call comes to. -/
def done : Answer → Except Refusal Unit
  | .failed e => .error (.failed e)
  | _ => .ok ()

/-- Ask a writer for something that it answers at once. -/
def ask (s : Session) (i : Nat) (command : Command) : Answer × Session :=
  let id := s.nextCall
  let s := { s with nextCall := id + 1 }.feed i (.request id command)
  ((s.answers.lookup id).getD (.failed .closed), { s with answers := [] })

/-- Start a call that waits. -/
def begin (s : Session) (i : Nat) (waiting : Waiting) : CallId × Session :=
  let id := s.nextCall
  let timeout := (s.stations[i]?.map fun station =>
    station.loop.pipeline.settings.flushTimeout).getD 0
  let call : Call := { id, waiting, station := i, limit := .ofMillis timeout }
  let command :=
    match waiting with
    | .flush => Command.flush
    | .close => Command.close
  let s := { s with nextCall := id + 1, calls := s.calls ++ [call] }
  (id, (s.plan (·.setAt (s.now + timeout) (.giveUp id))).feed i (.request id command))

/-- Let go of a writer on behalf of the caller who opened it. -/
def release (s : Session) (i : Nat) : Session :=
  (s.changeStation i ({ · with isHeld := false })).letGo i

/-- The way a writer connects to a scripted store. -/
def connector (plain : Bool) : Connector ScriptedStore where
  connect store :=
    match store.connectFailure with
    | some f => .error f
    | none => .ok { store with connections := store.connections + 1 }
  verify store :=
    match store.verifyFailure with
    | some f => if plain then .ok () else .error f
    | none => .ok ()
  classify store := if plain then elasticsearch.classify else store.classifier.classify

/-- Open a writer.  It takes the place of the one that was open before, unless opening fails. -/
def openWriter (s : Session) (o : Opening) (conflictRetries : Option Int32) (plain : Bool) :
    Outcome UInt32 :=
  let store := s.presentStore
  match o.begin (connector plain) (s.storeAt store) s.now with
  | (.error e, store') => (.error (.failed e), (s.setStore store store').settle)
  | (.ok pipeline, store') =>
    let s := s.setStore store store'
    let i := s.stations.length
    let (loop, effects) := EventLoop.start pipeline s.now
    let station : Station := { loop, store, plain }
    let previous := s.current
    let s := { s with
      stations := s.stations ++ [station]
      current := some i
      context := { writerId := .mint i, subtask := o.subtask }
      converter := Draft.converter conflictRetries }.planWake i (loop.deadline s.now)
    let s := previous.elim s s.release
    (.ok o.subtask, (effects.foldl (carryOut i) s).settle)

/-- Convert a record and write it. -/
def write (s : Session) (d : Draft) : Outcome Unit :=
  match s.current with
  | none => (.error .noWriter, s)
  | some i =>
    let (o, context) := s.converter.apply d s.context
    let (answer, s) := { s with context }.ask i (.write o)
    (done answer, s.settle)

/-- Wait until everything is acknowledged. -/
def flush (s : Session) : Outcome Unit :=
  match s.current with
  | none => (.error .noWriter, s)
  | some i =>
    let (id, s) := s.begin i .flush
    let (answer, s) := s.waitFor id
    (done answer, s.settle)

/-- Take a checkpoint of a writer as it is. -/
def snapshotOf (s : Session) (i : Nat) : Outcome Checkpoint :=
  match s.ask i .snapshot with
  | (.checkpoint c, s) => (.ok c, s.settle)
  | (.failed e, s) => (.error (.failed e), s.settle)
  | (_, s) => (.error (.failed .closed), s.settle)

/-- Take a checkpoint after everything is acknowledged, if the settings ask for that. -/
def checkpointOf (s : Session) (i : Nat) : Outcome Checkpoint :=
  let flushes := s.stations[i]?.any fun station =>
    station.loop.pipeline.settings.flushOnCheckpoint
  if flushes then
    match s.flush with
    | (.error e, s) => (.error e, s)
    | (.ok (), s) => s.snapshotOf i
  else s.snapshotOf i

/-- Keep a checkpoint that was taken. -/
def keepCheckpoint : Outcome Checkpoint → Outcome Checkpoint
  | (.ok c, s) => (.ok c, { s with lastCheckpoint := some c })
  | (.error e, s) => (.error e, s)

/-- Take a checkpoint of what is pending. -/
def snapshot (s : Session) : Outcome Checkpoint :=
  match s.current with
  | none => (.error .noWriter, s)
  | some i => keepCheckpoint (s.snapshotOf i)

/-- Take a checkpoint, after a flush if the settings ask for one. -/
def snapshotState (s : Session) : Outcome Checkpoint :=
  match s.current with
  | none => (.error .noWriter, s)
  | some i => keepCheckpoint (s.checkpointOf i)

/-- Take a checkpoint, after a flush if the settings ask for one, and store it. -/
def storeCheckpoint (s : Session) : Outcome Bytes :=
  match s.current with
  | none => (.error .noWriter, s)
  | some i =>
    match s.checkpointOf i with
    | (.ok c, s) => (.ok c.encode, { s with lastStored := some c.encode })
    | (.error e, s) => (.error e, s)

/-- The counters of the writer. -/
def stats (s : Session) : Outcome Stats :=
  match s.current with
  | none => (.error .noWriter, s)
  | some i =>
    match s.ask i .stats with
    | (.stats stats, s) => (.ok stats, s.settle)
    | (.failed e, s) => (.error (.failed e), s.settle)
    | (_, s) => (.error (.failed .closed), s.settle)

/-- The writer, if nobody else waits for it; it is then no longer open. -/
def takeWriter? (s : Session) : Option (Nat × Session) :=
  match s.current with
  | none => none
  | some i => if s.isAwaited i then none else some (i, { s with current := none })

/-- Start to close a writer.  Only the call that closes it holds it from then on. -/
def beginClose (s : Session) (i : Nat) : CallId × Session :=
  let (id, s) := s.begin i .close
  (id, s.release i)

/-- Close the writer and wait until it is closed. -/
def close (s : Session) : Outcome Unit :=
  match s.takeWriter? with
  | none => (.error .noWriter, s)
  | some (i, s) =>
    let (id, s) := s.beginClose i
    let (answer, s) := s.waitFor id
    (done answer, s.settle)

/-- Let go of the writer. -/
def drop (s : Session) : Outcome Unit :=
  match s.takeWriter? with
  | none => (.error .noWriter, s)
  | some (i, s) => (.ok (), (s.release i).settle)

/-- Give a call in the background its name. -/
def name (s : Session) (name : String) (id : CallId) : Session :=
  { s with background := (name, id) :: s.background.filter (·.1 != name) }

/-- Start a flush in the background. -/
def flushInBackground (s : Session) (name : String) : Outcome Unit :=
  match s.current with
  | none => (.error .noWriter, s)
  | some i =>
    let (id, s) := s.begin i .flush
    (.ok (), (s.name name id).settle)

/-- Start to close the writer in the background. -/
def closeInBackground (s : Session) (name : String) : Outcome Unit :=
  match s.takeWriter? with
  | none => (.error .noWriter, s)
  | some (i, s) =>
    let (id, s) := s.beginClose i
    (.ok (), (s.name name id).settle)

/-- Whether a call in the background is finished. -/
def poll (s : Session) (name : String) : Outcome Bool :=
  match s.background.lookup name with
  | none => (.error .noBackground, s)
  | some id => (.ok (!s.isWaiting id), s)

/-- Wait for a call in the background, and forget it. -/
def join (s : Session) (name : String) : Outcome Unit :=
  match s.background.lookup name with
  | none => (.error .noBackground, s)
  | some id =>
    let (answer, s) := s.waitFor id
    (done answer, { s with background := s.background.filter (·.1 != name) }.settle)

/-! ### The present store -/

/-- Use a new store from now on. -/
def newStore (s : Session) : Session :=
  { s with stores := s.stores ++ [{}], reported := 0 }

/-- Give permits to the present store. -/
def releasePermits (s : Session) (count : Nat) : Session :=
  let i := s.presentStore
  let (passing, store) := (s.storeAt i).release count
  (passing.foldl (fun s x => s.plan (·.call (.passage x))) (s.setStore i store)).settle

/-- The batches that were submitted to the present store since the last report. -/
def report (s : Session) : List (List Operation) × Session :=
  let batches := (s.storeAt s.presentStore).batches
  (batches.drop s.reported, { s with reported := batches.length })

/-- The text shown for a writer with the given text for its identity. -/
def writerText (id : String) (subtask : UInt32) : String :=
  s!"BulkSinkWriter \x7b writer_id: WriterId({id}), subtask_index: {subtask.toNat} \x7d"

end Session

end BulkDelivery
