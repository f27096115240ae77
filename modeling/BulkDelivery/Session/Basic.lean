import BulkDelivery.Agenda
import BulkDelivery.Conversion
import BulkDelivery.EventLoop
import BulkDelivery.ScriptedStore

/-!
# Sessions

A session opens writers against scripted stores, one after the other, and makes calls to
them.  Its clock starts at zero and moves only while a call waits.

A writer stops when nobody holds it any more.  A caller in the background who waits for an
answer holds it too.

## Main definitions

* `Station` — a writer that was opened.
* `Call` — a call that waits, or has waited, for its answer.
* `Task` — what a session has to do.
* `Session` — the agenda, the stores, the writers and the calls.
-/

namespace BulkDelivery

/-- A writer that was opened in a session. -/
structure Station where
  /-- Its loop. -/
  loop : EventLoop
  /-- The number of its store. -/
  store : Nat
  /-- Whether it uses its store only to connect and to submit: then the connection is not
  checked, failures are judged by the usual rules, and nothing is released. -/
  plain : Bool
  /-- Whether the caller who opened it still holds it. -/
  isHeld : Bool := true
  /-- When its loop wakes up. -/
  wakeAt : Option Time := none

/-- What a call waits for. -/
inductive Waiting
  /-- That everything is acknowledged. -/
  | flush
  /-- That the writer is closed. -/
  | close
  deriving DecidableEq, Repr, Inhabited

/-- A call that waits, or has waited, for its answer. -/
structure Call where
  /-- Its number. -/
  id : CallId
  /-- What it waits for. -/
  waiting : Waiting
  /-- The number of the writer. -/
  station : Nat
  /-- How long it waits before it gives up. -/
  limit : Duration
  /-- Its answer. -/
  answer : Option Answer := none

/-- Whether a call still waits. -/
def Call.isWaiting (call : Call) : Bool :=
  call.answer.isNone

/-- What a session has to do. -/
inductive Task
  /-- The loop of a writer takes what there is for it. -/
  | loop (station : Nat)
  /-- A batch arrives at the store of its writer. -/
  | arrival (ticket : Ticket) (operations : List Operation)
  /-- A submission need not wait for a permit any more. -/
  | passage (submission : Submission)
  /-- A submission comes back. -/
  | reply (submission : Submission)
  /-- The time of a caller is up. -/
  | giveUp (call : CallId)
  deriving DecidableEq, Inhabited

/-- The agenda, the stores, the writers and the calls. -/
structure Session where
  /-- The clock and what there is to do. -/
  agenda : Agenda Task := {}
  /-- The stores; the last one is the present one. -/
  stores : List ScriptedStore := [{}]
  /-- The writers, in the order of opening. -/
  stations : List Station := []
  /-- The writer that calls go to. -/
  current : Option Nat := none
  /-- What the conversion of records may use. -/
  context : WriterContext := { writerId := .mint 0 }
  /-- The conversion of records. -/
  converter : Converter Draft := Draft.converter none
  /-- The number of the next call. -/
  nextCall : CallId := 0
  /-- Calls that wait or have waited. -/
  calls : List Call := []
  /-- Answers to calls that do not wait. -/
  answers : List (CallId × Answer) := []
  /-- Calls in the background, by name. -/
  background : List (String × CallId) := []
  /-- The last checkpoint that was taken. -/
  lastCheckpoint : Option Checkpoint := none
  /-- The last checkpoint that was stored. -/
  lastStored : Option Bytes := none
  /-- How many batches of the present store were reported. -/
  reported : Nat := 0

namespace Session

/-- The clock. -/
def now (s : Session) : Time :=
  s.agenda.now

/-- Change the agenda. -/
def plan (s : Session) (change : Agenda Task → Agenda Task) : Session :=
  { s with agenda := change s.agenda }

/-! ### Stores -/

/-- The number of the present store. -/
def presentStore (s : Session) : Nat :=
  s.stores.length - 1

/-- The store with a number. -/
def storeAt (s : Session) (i : Nat) : ScriptedStore :=
  s.stores[i]?.getD {}

/-- The session with another state of a store. -/
def setStore (s : Session) (i : Nat) (store : ScriptedStore) : Session :=
  { s with stores := s.stores.set i store }

/-- Change the present store. -/
def changeStore (s : Session) (change : ScriptedStore → ScriptedStore) : Session :=
  s.setStore s.presentStore (change (s.storeAt s.presentStore))

/-- The number of the store of a writer. -/
def storeOf (s : Session) (i : Nat) : Nat :=
  (s.stations[i]?.map Station.store).getD s.presentStore

/-! ### Writers -/

/-- Change a writer. -/
def changeStation (s : Session) (i : Nat) (change : Station → Station) : Session :=
  { s with stations := s.stations.modify i change }

/-- How failures are judged for a writer. -/
def classify (s : Session) (station : Station) : TransportFailure → Verdict :=
  if station.plain then elasticsearch.classify
  else (s.storeAt station.store).classifier.classify

/-- Whether a call of this number waits. -/
def isWaiting (s : Session) (id : CallId) : Bool :=
  s.calls.any fun call => call.id == id && call.isWaiting

/-- Whether a call to a writer waits. -/
def isAwaited (s : Session) (i : Nat) : Bool :=
  s.calls.any fun call => call.station == i && call.isWaiting

/-- Whether somebody holds a writer. -/
def isHeld (s : Session) (i : Nat) : Bool :=
  s.stations[i]?.any Station.isHeld || s.isAwaited i

end Session

end BulkDelivery
