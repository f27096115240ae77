import BulkDelivery.DecodeError
import BulkDelivery.Failure.Classifier
import BulkDelivery.Settings

/-!
# What a caller of a writer is told

## Main definitions

* `DeliveryError` — why a call was refused or failed.
* `DeliveryError.message` — the text shown for an error.
* `DeliveryError.isFatal`, `DeliveryError.isRetryable` — whether the writer is of no further
  use, and whether the same call may succeed later.
* `DeliveryError.sources` — the texts of everything behind an error.
-/

namespace BulkDelivery

/-- Why a call was refused or failed. -/
inductive DeliveryError
  /-- The operation is larger than a record may be. -/
  | recordTooLarge (size max : Nat)
  /-- As many operations are pending as may be. -/
  | bufferFull (capacity : Nat)
  /-- A stored checkpoint cannot be read. -/
  | corruptState (why : DecodeError)
  /-- A fatal failure ended delivery. -/
  | halted (halt : Halt)
  /-- The store could not be reached, which may pass. -/
  | connect (failure : TransportFailure)
  /-- Not everything was sent in time. -/
  | flushTimeout (limit : Duration)
  /-- The writer is closed. -/
  | closed
  /-- The settings were refused. -/
  | invalidSettings (why : SettingsError)
  deriving DecidableEq, Repr, Inhabited

namespace DeliveryError

/-- The text shown for an error. -/
def message : DeliveryError → String
  | recordTooLarge size max =>
    s!"record of {size} bytes exceeds the maximum record size of {max} bytes"
  | bufferFull capacity => s!"buffer full: {capacity} operations already buffered"
  | corruptState why => s!"corrupt checkpoint state: {why.message}"
  | halted halt => halt.reason
  | connect failure => s!"failed to connect: {failure.text}"
  | flushTimeout limit => s!"flush did not complete within {limit.text}"
  | closed => "writer is closed"
  | invalidSettings why => s!"invalid configuration: {why.message}"

/-- Whether the writer cannot go on after an error. -/
def isFatal : DeliveryError → Bool
  | halted _ | corruptState _ | flushTimeout _ | closed => true
  | _ => false

/-- Whether the same call may succeed later. -/
def isRetryable : DeliveryError → Bool
  | bufferFull _ | connect _ => true
  | _ => false

/-- The texts of everything behind an error. -/
def sources : DeliveryError → List String
  | corruptState why => [why.message]
  | halted halt => halt.sources
  | invalidSettings why => [why.message]
  | _ => []

theorem not_isFatal_and_isRetryable (e : DeliveryError) : (e.isFatal && e.isRetryable) = false := by
  cases e <;> rfl

end DeliveryError

end BulkDelivery
