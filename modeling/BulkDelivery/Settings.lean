import BulkDelivery.Text.Duration

/-!
# Settings of a writer

The settings hold every limit a writer keeps.  They are checked before a writer is opened:
the limits that must be positive, in the order in which they are listed, then that a single
record fits a batch, then that a full batch fits the buffer.

## Main definitions

* `Settings` — the limits, with their defaults.
* `Settings.testing` — small limits and short times.
* `Settings.validate` — the first fault of some settings.
* `SettingsError` — why settings are refused, or could not be read or written.
-/

namespace BulkDelivery

/-- The limits a writer keeps. -/
structure Settings where
  /-- The most operations in a batch. -/
  maxBatchSize : Nat := 500
  /-- The largest sum of operation sizes in a batch. -/
  maxBatchBytes : Nat := 5242880
  /-- The most batches that may be without an answer at once. -/
  maxInFlight : Nat := 50
  /-- The most operations that may be pending before further ones are refused. -/
  maxBuffered : Nat := 10000
  /-- How long an operation waits, in milliseconds, before it is sent in a batch that is not full. -/
  maxTimeInBuffer : Nat := 5000
  /-- The largest size of a single operation. -/
  maxRecordBytes : Nat := 1048576
  /-- Whether everything is sent before a checkpoint is taken. -/
  flushOnCheckpoint : Bool := true
  /-- How long nothing is sent, in milliseconds, after operations had to be put back. -/
  retryBackoff : Nat := 100
  /-- How long a caller waits, in milliseconds, for everything to be sent. -/
  flushTimeout : Nat := 30000
  deriving DecidableEq, Repr, Inhabited

/-- Why settings are refused, or could not be read or written. -/
inductive SettingsError
  /-- A limit that must be positive is zero. -/
  | zeroLimit (name : String)
  /-- A single record may be larger than a batch. -/
  | recordExceedsBatch (record batch : Nat)
  /-- A full batch may be larger than the buffer. -/
  | batchExceedsBuffer (batch buffer : Nat)
  /-- The file could not be read. -/
  | unreadable (path : String)
  /-- The file does not hold settings. -/
  | notSettings (path : String)
  /-- The file could not be written. -/
  | unwritable (path : String)
  /-- The file could not be created with the defaults. -/
  | defaultUnwritable (path : String)
  /-- A limit is too large to be written. -/
  | unprintable
  deriving DecidableEq, Repr, Inhabited

/-- The text shown for an error. -/
def SettingsError.message : SettingsError → String
  | zeroLimit name => s!"{name} must be greater than zero"
  | recordExceedsBatch record batch =>
    s!"max_record_size_in_bytes ({record}) cannot exceed max_batch_size_in_bytes ({batch})"
  | batchExceedsBuffer batch buffer =>
    s!"max_batch_size ({batch}) cannot exceed max_buffered_requests ({buffer})"
  | unreadable path => s!"Failed to read config file '{path}'"
  | notSettings path => s!"Failed to parse config file '{path}'"
  | unwritable path => s!"Failed to write config file '{path}'"
  | defaultUnwritable path => s!"Failed to write default config file '{path}'"
  | unprintable => "Failed to serialize config"

namespace Settings

/-- Small limits and short times, for trying a writer out. -/
def testing : Settings where
  maxBatchSize := 10
  maxBatchBytes := 65536
  maxInFlight := 2
  maxBuffered := 100
  maxTimeInBuffer := 100
  maxRecordBytes := 16384
  flushOnCheckpoint := true
  retryBackoff := 10
  flushTimeout := 5000

/-- The limits that must be positive, under the names they have in a file, in the order in
which they are checked. -/
def positiveLimits (s : Settings) : List (String × Nat) :=
  [ ("max_batch_size", s.maxBatchSize),
    ("max_batch_size_in_bytes", s.maxBatchBytes),
    ("max_in_flight_requests", s.maxInFlight),
    ("max_buffered_requests", s.maxBuffered),
    ("max_time_in_buffer_ms", s.maxTimeInBuffer),
    ("max_record_size_in_bytes", s.maxRecordBytes),
    ("flush_timeout_ms", s.flushTimeout) ]

/-- Refuse settings that cannot work, with their first fault. -/
def validate (s : Settings) : Except SettingsError Unit :=
  match s.positiveLimits.find? (·.2 == 0) with
  | some (name, _) => .error (.zeroLimit name)
  | none =>
    if s.maxBatchBytes < s.maxRecordBytes then
      .error (.recordExceedsBatch s.maxRecordBytes s.maxBatchBytes)
    else if s.maxBuffered < s.maxBatchSize then
      .error (.batchExceedsBuffer s.maxBatchSize s.maxBuffered)
    else
      .ok ()

/-- What settings that pass validation promise. -/
structure Valid (s : Settings) : Prop where
  maxBatchSize_pos : 0 < s.maxBatchSize
  maxBatchBytes_pos : 0 < s.maxBatchBytes
  maxInFlight_pos : 0 < s.maxInFlight
  maxBuffered_pos : 0 < s.maxBuffered
  maxTimeInBuffer_pos : 0 < s.maxTimeInBuffer
  maxRecordBytes_pos : 0 < s.maxRecordBytes
  flushTimeout_pos : 0 < s.flushTimeout
  record_le_batch : s.maxRecordBytes ≤ s.maxBatchBytes
  batch_le_buffer : s.maxBatchSize ≤ s.maxBuffered

theorem validate_eq_ok_iff (s : Settings) : s.validate = .ok () ↔ s.Valid := by
  constructor
  · intro h
    unfold validate at h
    split at h
    · cases h
    · rename_i hfind
      simp only [positiveLimits, List.find?_eq_none, List.mem_cons, List.not_mem_nil, or_false,
        beq_iff_eq, forall_eq_or_imp, forall_eq] at hfind
      split at h
      · cases h
      · split at h
        · cases h
        · constructor <;> omega
  · rintro ⟨h₁, h₂, h₃, h₄, h₅, h₆, h₇, hrecord, hbatch⟩
    have hfind : s.positiveLimits.find? (·.2 == 0) = none := by
      simp only [positiveLimits, List.find?_eq_none, List.mem_cons, List.not_mem_nil, or_false,
        beq_iff_eq, forall_eq_or_imp, forall_eq]
      omega
    simp only [validate, hfind]
    rw [if_neg (by omega), if_neg (by omega)]

end Settings

end BulkDelivery
