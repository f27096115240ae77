import BulkDelivery.Operation

/-!
# The buffer

The buffer is a queue of operations that wait to be sent.  New operations join at the back;
operations that have to be sent again return to the front.  The buffer keeps the sum of its
entries' sizes, so that it need not be computed when a batch is due.

## Main definitions

* `Time` — a moment, in milliseconds.
* `Entry` — an operation with its size and the time of its admission.
* `Buffer` — the queue.
* `Buffer.push`, `Buffer.requeue`, `Buffer.drain` — join at the back, return to the front,
  take a batch from the front.
* `batchLength` — how many entries make the next batch.
-/

namespace BulkDelivery

/-- A moment, in milliseconds from the start. -/
abbrev Time := Nat

/-- An operation that waits. -/
structure Entry where
  /-- The operation. -/
  operation : Operation
  /-- Its size. -/
  size : Nat
  /-- When it was admitted. -/
  admittedAt : Time
  deriving DecidableEq, Inhabited

/-- The entry of an operation admitted at a time. -/
def Entry.of (operation : Operation) (now : Time) : Entry :=
  { operation, size := operation.size, admittedAt := now }

/-- The sum of the entries' sizes. -/
def totalSize (entries : List Entry) : Nat :=
  entries.foldr (fun e n => e.size + n) 0

@[simp] theorem totalSize_nil : totalSize [] = 0 := rfl

@[simp] theorem totalSize_cons (e : Entry) (es : List Entry) :
    totalSize (e :: es) = e.size + totalSize es := rfl

@[simp] theorem totalSize_append (es fs : List Entry) :
    totalSize (es ++ fs) = totalSize es + totalSize fs := by
  induction es with
  | nil => simp
  | cons e es ih => rw [List.cons_append, totalSize_cons, ih, totalSize_cons, Nat.add_assoc]

/-- How many of the given entries join a batch of `count` entries and `bytes` octets.  A batch
ends before the entry that would exceed a limit, but its first entry joins whatever its size. -/
def batchLength (maxCount maxBytes : Nat) : Nat → Nat → List Entry → Nat
  | _, _, [] => 0
  | count, bytes, e :: rest =>
    if maxCount ≤ count then 0
    else if 0 < count ∧ maxBytes < bytes + e.size then 0
    else 1 + batchLength maxCount maxBytes (count + 1) (bytes + e.size) rest

/-- Operations that wait to be sent, first to be sent first. -/
structure Buffer where
  /-- The queue. -/
  entries : List Entry := []
  /-- The sum of the entries' sizes. -/
  byteTotal : Nat := 0
  deriving DecidableEq, Inhabited

namespace Buffer

/-- The number of operations that wait. -/
def length (b : Buffer) : Nat :=
  b.entries.length

/-- Whether no operation waits. -/
def isEmpty (b : Buffer) : Bool :=
  b.entries.isEmpty

/-- Join at the back. -/
def push (b : Buffer) (e : Entry) : Buffer :=
  { entries := b.entries ++ [e], byteTotal := b.byteTotal + e.size }

/-- Return to the front, in the given order. -/
def requeue (b : Buffer) (es : List Entry) : Buffer :=
  { entries := es ++ b.entries, byteTotal := b.byteTotal + totalSize es }

/-- Take a batch from the front. -/
def drain (b : Buffer) (maxCount maxBytes : Nat) : List Entry × Buffer :=
  let n := batchLength maxCount maxBytes 0 0 b.entries
  let batch := b.entries.take n
  (batch, { entries := b.entries.drop n, byteTotal := b.byteTotal - totalSize batch })

/-- When the operation at the front was admitted. -/
def frontAdmittedAt? (b : Buffer) : Option Time :=
  b.entries.head?.map Entry.admittedAt

/-- The operations that wait, in order. -/
def operations (b : Buffer) : List Operation :=
  b.entries.map Entry.operation

/-- Whether the kept sum is the sum of the entries' sizes. -/
def isBalanced (b : Buffer) : Bool :=
  totalSize b.entries == b.byteTotal

@[simp] theorem entries_push (b : Buffer) (e : Entry) :
    (b.push e).entries = b.entries ++ [e] := rfl

@[simp] theorem entries_requeue (b : Buffer) (es : List Entry) :
    (b.requeue es).entries = es ++ b.entries := rfl

theorem drain_append (b : Buffer) (maxCount maxBytes : Nat) :
    (b.drain maxCount maxBytes).1 ++ (b.drain maxCount maxBytes).2.entries = b.entries :=
  List.take_append_drop _ _

end Buffer

end BulkDelivery
