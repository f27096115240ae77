import BulkDelivery.Operation
import BulkDelivery.WriterId

/-!
# Turning records into operations

A writer takes records of its caller's choosing and turns each of them into an operation when
it is written.  A conversion may use the identity of the writer and draw numbers from the
writer's sequence.

## Main definitions

* `WriterContext` — what a conversion may use.
* `Converter` — a conversion, with a retry count for the updates it makes.
* `Draft` — an operation that may still get a number into its target.
-/

namespace BulkDelivery

/-- What a conversion may use. -/
structure WriterContext where
  /-- Which writer it is. -/
  writerId : WriterId
  /-- The number of the parallel task that the writer belongs to. -/
  subtask : UInt32 := 0
  /-- The next number of the writer's sequence. -/
  sequence : Nat := 0
  deriving DecidableEq, Repr, Inhabited

namespace WriterContext

/-- Draw the next number of the sequence. -/
def draw (c : WriterContext) : Nat × WriterContext :=
  (c.sequence, { c with sequence := c.sequence + 1 })

end WriterContext

/-- How records become operations. -/
structure Converter (Record : Type) where
  /-- The conversion. -/
  convert : Record → WriterContext → Operation × WriterContext
  /-- The retry count that every update gets. -/
  conflictRetries : Option Int32 := none

namespace Converter

variable {Record : Type}

/-- The operation with the converter's retry count, if it has one and the operation is an
update. -/
def stamp (c : Converter Record) (o : Operation) : Operation :=
  match c.conflictRetries, o.action with
  | some retries, .update => { o with conflictRetries := retries }
  | _, _ => o

/-- Turn a record into an operation. -/
def apply (c : Converter Record) (record : Record) (context : WriterContext) :
    Operation × WriterContext :=
  let (o, context) := c.convert record context
  (c.stamp o, context)

/-- Turn records into operations, in order. -/
def applyAll (c : Converter Record) : List Record → WriterContext → List Operation × WriterContext
  | [], context => ([], context)
  | record :: rest, context =>
    let (o, context) := c.apply record context
    let (os, context) := c.applyAll rest context
    (o :: os, context)

/-- The text shown for a converter. -/
def text (c : Converter Record) : String :=
  let retries :=
    match c.conflictRetries with
    | none => "None"
    | some retries => s!"Some({retries.toInt})"
  "OperationConverter \x7b retry_on_conflict: " ++ retries ++ " \x7d"

end Converter

/-- An operation that may still get a number into its target. -/
structure Draft where
  /-- The operation. -/
  operation : Operation
  /-- Whether the task and a number of the sequence are put behind the target. -/
  numbered : Bool := false
  deriving DecidableEq, Inhabited

/-- The conversion of drafts. -/
def Draft.convert (d : Draft) (c : WriterContext) : Operation × WriterContext :=
  if d.numbered then
    let (n, c') := c.draw
    ({ d.operation with target := s!"{d.operation.target}-{c.subtask.toNat}-{n}" }, c')
  else (d.operation, c)

/-- The converter of drafts. -/
def Draft.converter (conflictRetries : Option Int32) : Converter Draft :=
  { convert := Draft.convert, conflictRetries }

end BulkDelivery
