import BulkDelivery.Failure
import BulkDelivery.Text.Duration

/-!
# Answers of the store

A request either fails as a whole or is answered with one result for each operation of the
batch, by position.

## Main definitions

* `ItemResult`, `Response` — the result for one operation, and the answer to a batch.
* `Outcome` — how a request came back.
-/

namespace BulkDelivery

/-- The result for one operation of a batch. -/
inductive ItemResult
  /-- The store acknowledged the operation. -/
  | success
  /-- The store rejected the operation. -/
  | failed (failure : TransportFailure)
  deriving DecidableEq, Repr, Inhabited

/-- Whether an operation was rejected. -/
def ItemResult.isFailure : ItemResult → Bool
  | success => false
  | failed _ => true

@[simp] theorem ItemResult.isFailure_success : success.isFailure = false := rfl

@[simp] theorem ItemResult.isFailure_failed (failure : TransportFailure) :
    (failed failure).isFailure = true := rfl

/-- The answer to a batch. -/
structure Response where
  /-- The results, in the order of the batch. -/
  items : List ItemResult
  /-- How long the store took. -/
  took : Duration
  deriving DecidableEq, Repr, Inhabited

namespace Response

/-- The answer that acknowledges so many operations. -/
def success (count : Nat) (took : Duration) : Response :=
  { items := List.replicate count .success, took }

/-- The answer with failures at the given positions; positions past the end are ignored. -/
def fail (r : Response) (failures : List (Nat × TransportFailure)) : Response :=
  { r with items := failures.foldl (fun items (i, f) => items.set i (.failed f)) r.items }

/-- The number of rejected operations. -/
def failedCount (r : Response) : Nat :=
  r.items.countP ItemResult.isFailure

/-- Whether an operation was rejected. -/
def hasErrors (r : Response) : Bool :=
  r.items.any ItemResult.isFailure

end Response

/-- How a request came back. -/
inductive Outcome
  /-- The store answered. -/
  | answered (response : Response)
  /-- The request failed as a whole. -/
  | failed (failure : TransportFailure)
  deriving DecidableEq, Repr, Inhabited

end BulkDelivery
