import BulkDelivery.Pipeline

/-!
# A store that answers from a script

For trying a writer out there is a store that follows a script.  It notes every batch that is
submitted to it and gives it the next outcome of the script; when the script is used up,
everything succeeds.  While the store is *held*, a submission first waits for a permit, in
order of arrival, and permits that nobody waits for are kept.  Then it waits for the latency
that is set at that moment, and comes back.

## Main definitions

* `ScriptedOutcome` — what the script says about a batch.
* `Ticket`, `Submission` — whose batch it is, and a submission under way.
* `ScriptedStore` — the store.
* `ScriptedStore.arrive`, `ScriptedStore.release` — a batch arrives, permits are given.  Each
  gives the submissions that need not wait for a permit any more.
* `ScriptedStore.reply` — how a submission comes back.
-/

namespace BulkDelivery

/-- What the script says about a batch. -/
inductive ScriptedOutcome
  /-- Every operation succeeds. -/
  | success
  /-- The operations at these positions fail. -/
  | partialFailure (failures : List (Nat × TransportFailure))
  /-- The request fails as a whole. -/
  | fail (failure : TransportFailure)
  /-- So many operations succeed, whatever the batch holds. -/
  | items (count : Nat)
  deriving DecidableEq, Repr, Inhabited

namespace ScriptedOutcome

/-- The operations at these positions are rejected. -/
def rejected (positions : List Nat) : ScriptedOutcome :=
  .partialFailure (positions.map fun i => (i, .rejected s!"item {i} rejected"))

/-- The outcome of a batch of `size` operations. -/
def outcome (took : Duration) (size : Nat) : ScriptedOutcome → Outcome
  | success => .answered (.success size took)
  | partialFailure failures => .answered ((Response.success size took).fail failures)
  | fail failure => .failed failure
  | items count => .answered (.success count took)

end ScriptedOutcome

/-- Whose batch it is: the number of a writer and the number of its batch. -/
structure Ticket where
  /-- The writer. -/
  writer : Nat
  /-- The batch. -/
  batch : BatchId
  deriving DecidableEq, Repr, Inhabited

/-- A batch on its way through the store. -/
structure Submission where
  /-- Whose batch it is. -/
  ticket : Ticket
  /-- The number of its operations. -/
  size : Nat
  /-- What the script says about it. -/
  scripted : ScriptedOutcome
  deriving DecidableEq, Repr, Inhabited

/-- The store. -/
structure ScriptedStore where
  /-- What the script says about the next batches. -/
  script : List ScriptedOutcome := []
  /-- Every batch that was submitted, in order. -/
  batches : List (List Operation) := []
  /-- Whether submissions wait for permits. -/
  held : Bool := false
  /-- Permits that nobody waits for. -/
  permits : Nat := 0
  /-- How long a submission takes, in milliseconds. -/
  latency : Nat := 0
  /-- How long the store reports to have taken. -/
  took : Duration := .ofMillis 1
  /-- What connecting fails with. -/
  connectFailure : Option TransportFailure := none
  /-- What checking a connection fails with. -/
  verifyFailure : Option TransportFailure := none
  /-- How failures are judged. -/
  classifier : Classifier := elasticsearch
  /-- The number of connections made. -/
  connections : Nat := 0
  /-- Whether a connection was released. -/
  cleanedUp : Bool := false
  /-- Submissions that wait for a permit, first come first. -/
  gate : List Submission := []

namespace ScriptedStore

/-- A batch arrives. -/
def arrive (s : ScriptedStore) (ticket : Ticket) (operations : List Operation) :
    Option Submission × ScriptedStore :=
  let scripted := s.script.head?.getD .success
  let x : Submission := { ticket, size := operations.length, scripted }
  let s := { s with batches := s.batches ++ [operations], script := s.script.tail }
  if !s.held then (some x, s)
  else if 0 < s.permits then (some x, { s with permits := s.permits - 1 })
  else (none, { s with gate := s.gate ++ [x] })

/-- Permits are given. -/
def release (s : ScriptedStore) (count : Nat) : List Submission × ScriptedStore :=
  let passing := s.gate.take count
  (passing,
    { s with gate := s.gate.drop count, permits := s.permits + (count - passing.length) })

/-- How a submission comes back. -/
def reply (s : ScriptedStore) (x : Submission) : Outcome :=
  x.scripted.outcome s.took x.size

end ScriptedStore

end BulkDelivery
