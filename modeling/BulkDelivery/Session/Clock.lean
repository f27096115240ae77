import BulkDelivery.Session.Basic

/-!
# The clock of a session

Everything that can be done at the present time is done in the order in which it became
possible.  When nothing is left to do, the clock jumps to the next time at which something is
due; what is due then is done in the order in which it was planned.

A loop that gets its turn takes everything there is for it: first it notices that nobody
holds it, then it takes the outcomes that were posted to it, one at a time, and then it
notices that its deadline has passed.

## Main definitions

* `Session.feed` — let something happen to a loop.
* `Session.perform` — do a task.
* `Session.settle` — do everything that can be done at the present time.
* `Session.waitFor`, `Session.sleep` — wait for an answer, or for a time.
-/

namespace BulkDelivery

namespace Session

/-! ### Loops -/

/-- Let the loop of a writer take its turn. -/
def rouse (s : Session) (i : Nat) : Session :=
  s.plan (·.call (.loop i))

/-- Let go of a writer: when nobody holds it any more, its loop notices. -/
def letGo (s : Session) (i : Nat) : Session :=
  if s.isHeld i then s else s.rouse i

/-- Keep the answer to a call. -/
def keepAnswer (s : Session) (i : Nat) (id : CallId) (answer : Answer) : Session :=
  if s.isWaiting id then
    let calls := s.calls.map fun call =>
      if call.id = id then { call with answer := some answer } else call
    -- a caller who was told something holds the writer no longer
    ({ s with calls }.plan (·.cancel (.giveUp id))).letGo i
  else { s with answers := (id, answer) :: s.answers }

/-- Carry out what the loop of a writer does. -/
def carryOut (i : Nat) (s : Session) : Effect → Session
  | .submit batch =>
    s.plan (·.call (.arrival { writer := i, batch := batch.id } batch.operations))
  | .answer id answer => s.keepAnswer i id answer
  | .cleanup =>
    if s.stations[i]?.any Station.plain then s
    else s.setStore (s.storeOf i) { s.storeAt (s.storeOf i) with cleanedUp := true }

/-- Plan when the loop of a writer wakes up. -/
def planWake (s : Session) (i : Nat) : Option Time → Session
  | none => (s.changeStation i ({ · with wakeAt := none })).plan (·.cancel (.loop i))
  | some t => (s.changeStation i ({ · with wakeAt := some t })).plan (·.setAt t (.loop i))

/-- Whether the loop turns after an event. -/
def turnsAfter : Event → Bool
  | .post _ _ | .depart _ => false
  | _ => true

/-- Let something happen to the loop of a writer. -/
def feed (s : Session) (i : Nat) (event : Event) : Session :=
  match s.stations[i]? with
  | none => s
  | some station =>
    let m : Moment := { now := s.now, classify := s.classify station }
    let (loop, effects) := station.loop.step m event
    let s := s.changeStation i fun station => { station with loop }
    -- a loop that did not turn keeps the deadline that it had
    let s := if turnsAfter event then s.planWake i (loop.deadline s.now) else s
    effects.foldl (carryOut i) s

/-- What the loop of a writer takes next. -/
def nextEvent? (s : Session) (i : Nat) : Option Event :=
  match s.stations[i]? with
  | none => none
  | some station =>
    if station.loop.phase ≠ .running then none
    else if !s.isHeld i then some .release
    else if !station.loop.inbox.isEmpty then some .take
    else if station.wakeAt.any (· ≤ s.now) then some .wake
    else none

/-- Let the loop of a writer take a number of events at most. -/
def takeTurn : Nat → Nat → Session → Session
  | 0, _, s => s
  | fuel + 1, i, s =>
    match s.nextEvent? i with
    | none => s
    | some event => takeTurn fuel i (s.feed i event)

/-! ### Tasks -/

/-- A submission comes back: its outcome is posted to the loop. -/
def comeBack (s : Session) (x : Submission) : Session :=
  let i := x.ticket.writer
  let outcome := (s.storeAt (s.storeOf i)).reply x
  (s.changeStation i fun station =>
    { station with loop := station.loop.receive x.ticket.batch outcome }).rouse i

/-- The longest sleep, in milliseconds: thirty years of 365 days.  A latency is a sleep too;
what a caller waits for an answer is not. -/
def longestSleep : Nat := 30 * 365 * 24 * 60 * 60 * 1000

/-- The end of a sleep of so many milliseconds that starts now. -/
def wakingTime (s : Session) (ms : Nat) : Time :=
  s.now + min ms longestSleep

/-- A submission need not wait for a permit: it waits for the latency, if there is one. -/
def pass (s : Session) (x : Submission) : Session :=
  let latency := (s.storeAt (s.storeOf x.ticket.writer)).latency
  if latency = 0 then s.comeBack x else s.plan (·.setAt (s.wakingTime latency) (.reply x))

/-- A caller whose time is up gives up.  Who gives up closing a writer stops it. -/
def giveUp (s : Session) (id : CallId) : Session :=
  match s.calls.find? fun call => call.id == id && call.isWaiting with
  | none => s
  | some call =>
    let s := s.feed call.station <|
      match call.waiting with
      | .flush => .depart id
      | .close => .stop
    s.keepAnswer call.station id (.failed (.flushTimeout call.limit))

/-- Do a task. -/
def perform (s : Session) : Task → Session
  | .loop i =>
    let posted := (s.stations[i]?.map fun station => station.loop.inbox.length).getD 0
    takeTurn (posted + 2) i s
  | .arrival ticket operations =>
    let i := s.storeOf ticket.writer
    let (x, store) := (s.storeAt i).arrive ticket operations
    let s := s.setStore i store
    match x with
    | none => s
    | some x => s.pass x
  | .passage x => s.pass x
  | .reply x => s.comeBack x
  | .giveUp id => s.giveUp id

/-- Enough steps for everything that can happen without a further call: every batch that is sent
uses up a line of a script or has operations acknowledged. -/
def patience (s : Session) : Nat :=
  let scripted := s.stores.foldr (fun store n => store.script.length + store.gate.length + n) 0
  let work := s.stations.foldr
    (fun station n => station.loop.pipeline.pendingCount + station.loop.inbox.length
      + station.loop.submitted.length + n) 0
  let planned := s.agenda.ready.length + s.agenda.alarms.length
  8 * (scripted + work + planned + s.calls.length + s.stations.length + 1)

/-- Do a number of tasks at most. -/
def performAll : Nat → Session → Session
  | 0, s => s
  | fuel + 1, s =>
    match s.agenda.take? with
    | none => s
    | some (task, agenda) => performAll fuel ({ s with agenda }.perform task)

/-- Do everything that can be done at the present time. -/
def settle (s : Session) : Session :=
  performAll s.patience s

/-! ### Waiting -/

/-- Jump to a time and do everything that is due. -/
def tick (s : Session) (t : Time) : Session :=
  (s.plan (·.moveTo t)).settle

/-- Let time pass until a call has its answer. -/
def advanceFor : Nat → CallId → Session → Session
  | 0, _, s => s
  | fuel + 1, id, s =>
    if s.isWaiting id then
      match s.agenda.nextTime? with
      | none => s
      | some t => advanceFor fuel id (s.tick t)
    else s

/-- Let time pass until nothing more is due up to a time. -/
def advanceTo : Nat → Time → Session → Session
  | 0, _, s => s
  | fuel + 1, limit, s =>
    match s.agenda.nextTime? with
    | none => s
    | some t => if t ≤ limit then advanceTo fuel limit (s.tick t) else s

/-- Wait for the answer to a call. -/
def waitFor (s : Session) (id : CallId) : Answer × Session :=
  let s := s.settle
  let s := advanceFor s.patience id s
  let answer := (s.calls.find? (·.id == id)).bind Call.answer
  (answer.getD (.failed .closed), { s with calls := s.calls.filter (·.id != id) })

/-- Sleep for so many milliseconds, up to the longest sleep. -/
def sleep (s : Session) (ms : Nat) : Session :=
  let s := s.settle
  let t := s.wakingTime ms
  (advanceTo s.patience t s).tick t

end Session

end BulkDelivery
