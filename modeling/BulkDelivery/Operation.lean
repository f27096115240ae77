import BulkDelivery.Bytes

/-!
# Bulk operations

An operation is one action on one document of the remote store.  It is the unit that is
buffered, batched, sent, acknowledged and retried.

## Main definitions

* `Action` — index, create, update or delete, with its name and its one-octet tag.
* `Operation` — an action, the document it is for, an optional payload and the number of
  times the store retries a conflict.
* `Operation.size` — the size that batching and limits count.
* `Operation.summary` — the text shown for an operation.
-/

namespace BulkDelivery

/-- What an operation does to its document. -/
inductive Action
  /-- Create or replace the document. -/
  | index
  /-- Create the document; the store rejects it if it exists. -/
  | create
  /-- Change part of the document. -/
  | update
  /-- Remove the document. -/
  | delete
  deriving DecidableEq, Repr, Inhabited

namespace Action

/-- Every action, in the order of the tags. -/
def all : List Action := [index, create, update, delete]

/-- The tag that stands for an action in stored bytes. -/
def tag : Action → UInt8
  | index => 1
  | create => 2
  | update => 3
  | delete => 4

/-- The action a tag stands for. -/
def ofTag? (t : UInt8) : Option Action :=
  if t = 1 then some index
  else if t = 2 then some create
  else if t = 3 then some update
  else if t = 4 then some delete
  else none

/-- The name of an action, as it is sent. -/
def name : Action → String
  | index => "index"
  | create => "create"
  | update => "update"
  | delete => "delete"

@[simp] theorem ofTag?_tag (a : Action) : ofTag? a.tag = some a := by
  cases a <;> rfl

theorem ofTag?_eq_some_iff {t : UInt8} {a : Action} : ofTag? t = some a ↔ t = a.tag := by
  constructor
  · intro h
    unfold ofTag? at h
    cases a <;> grind [tag]
  · rintro rfl
    exact ofTag?_tag a

end Action

/-- One action on one document. -/
structure Operation where
  /-- What is done. -/
  action : Action
  /-- Which document it is done to. -/
  target : String
  /-- The serialised document or change.  Having none differs from having an empty one. -/
  payload : Option Bytes
  /-- How often the store retries a conflicting update before it rejects it. -/
  conflictRetries : Int32 := 0
  deriving DecidableEq, Inhabited

namespace Operation

/-- Create or replace a document. -/
def index (target : String) (payload : Bytes) : Operation :=
  { action := .index, target, payload := some payload }

/-- Create a document. -/
def create (target : String) (payload : Bytes) : Operation :=
  { action := .create, target, payload := some payload }

/-- Change part of a document. -/
def update (target : String) (payload : Bytes) : Operation :=
  { action := .update, target, payload := some payload }

/-- Remove a document. -/
def delete (target : String) : Operation :=
  { action := .delete, target, payload := none }

/-- The number of payload octets, none counting as zero. -/
def payloadLength (o : Operation) : Nat :=
  (o.payload.map List.length).getD 0

/-- The octets an operation occupies when stored: ten for the fixed fields, the target, and
the payload behind its length. -/
def size (o : Operation) : Nat :=
  10 + o.target.utf8ByteSize +
    match o.payload with
    | none => 0
    | some p => 4 + p.length

/-- The text shown for an operation. -/
def summary (o : Operation) : String :=
  s!"{o.action.name} {o.target} ({o.payloadLength} payload bytes)"

end Operation

end BulkDelivery
