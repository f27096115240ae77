import BulkDelivery.Folder
import BulkDelivery.Settings
import BulkDelivery.Toml.Document

/-!
# Settings in files

Settings are kept in a file of lines `key = value`.  Every key that is missing has its
default, keys that mean nothing here are passed over, and what was read must pass
validation.  Integers in a file have sixty-four bits with a sign, so settings with a larger
limit cannot be written.

## Main definitions

* `Settings.fields` — the lines of a settings file, in order.
* `Settings.render?` — the text of a settings file.
* `Settings.parse?` — the settings that a text holds.
* `Settings.load`, `Settings.save`, `Settings.createDefault` — the same with files.
-/

namespace BulkDelivery

namespace Settings

/-- The name that a settings file usually has. -/
def fileName : String := "esink.toml"

/-! ### Writing -/

/-- The value of a field in a file. -/
inductive FieldValue
  /-- A limit. -/
  | limit (n : Nat)
  /-- A choice. -/
  | choice (b : Bool)
  deriving DecidableEq, Repr, Inhabited

/-- The fields of a settings file, in order. -/
def fields (s : Settings) : List (String × FieldValue) :=
  [ ("max_batch_size", .limit s.maxBatchSize),
    ("max_batch_size_in_bytes", .limit s.maxBatchBytes),
    ("max_in_flight_requests", .limit s.maxInFlight),
    ("max_buffered_requests", .limit s.maxBuffered),
    ("max_time_in_buffer_ms", .limit s.maxTimeInBuffer),
    ("max_record_size_in_bytes", .limit s.maxRecordBytes),
    ("flush_on_checkpoint", .choice s.flushOnCheckpoint),
    ("retry_backoff_ms", .limit s.retryBackoff),
    ("flush_timeout_ms", .limit s.flushTimeout) ]

/-- The largest integer that a file can hold. -/
def maxFileInteger : Nat := 0x7FFFFFFFFFFFFFFF

namespace FieldValue

/-- Whether a value can be written. -/
def isPrintable : FieldValue → Bool
  | limit n => n ≤ maxFileInteger
  | choice _ => true

/-- The text of a value. -/
def text : FieldValue → String
  | limit n => toString n
  | choice b => toString b

end FieldValue

/-- The line of a field. -/
def line (field : String × FieldValue) : String :=
  field.1 ++ " = " ++ field.2.text ++ "\n"

/-- The text of a settings file, unless a limit is too large for it. -/
def render? (s : Settings) : Option String :=
  if s.fields.all (·.2.isPrintable) then some (String.join (s.fields.map line)) else none

/-- The lines of the settings file that is written for a new writer. -/
def defaultLines : List String :=
  [ "# esink bulk writer configuration",
    "",
    "# A batch is dispatched once it holds this many operations...",
    "max_batch_size = 500",
    "# ...or this many bytes of encoded operations...",
    "max_batch_size_in_bytes = 5242880",
    "# ...or once the oldest buffered operation has waited this long.",
    "max_time_in_buffer_ms = 5000",
    "",
    "# Batches awaiting a response at once. Flushes wait for a free slot.",
    "max_in_flight_requests = 50",
    "",
    "# Buffer capacity. Writes fail with \"buffer full\" beyond it.",
    "max_buffered_requests = 10000",
    "",
    "# Single operations larger than this are rejected.",
    "max_record_size_in_bytes = 1048576",
    "",
    "# Flush the whole buffer before every checkpoint snapshot.",
    "flush_on_checkpoint = true",
    "",
    "# Pause after a batch had to be requeued.",
    "retry_backoff_ms = 100",
    "",
    "# Give up on a full flush (checkpoint or close) after this long.",
    "flush_timeout_ms = 30000" ]

/-- The text of the settings file that is written for a new writer. -/
def defaultText : String :=
  String.join (defaultLines.map (· ++ "\n"))

/-! ### Reading -/

/-- The limit under a key, or the default when the key is missing. -/
def readLimit? (entries : Toml.Entries) (key : String) (default : Nat) : Option Nat :=
  match entries.lookup key with
  | none => some default
  | some (.integer n) => if 0 ≤ n then some n.toNat else none
  | some _ => none

/-- The choice under a key, or the default when the key is missing. -/
def readChoice? (entries : Toml.Entries) (key : String) (default : Bool) : Option Bool :=
  match entries.lookup key with
  | none => some default
  | some (.boolean b) => some b
  | some _ => none

/-- The settings in the entries of a document. -/
def ofEntries? (entries : Toml.Entries) : Option Settings := do
  let d : Settings := {}
  return {
    maxBatchSize := ← readLimit? entries "max_batch_size" d.maxBatchSize
    maxBatchBytes := ← readLimit? entries "max_batch_size_in_bytes" d.maxBatchBytes
    maxInFlight := ← readLimit? entries "max_in_flight_requests" d.maxInFlight
    maxBuffered := ← readLimit? entries "max_buffered_requests" d.maxBuffered
    maxTimeInBuffer := ← readLimit? entries "max_time_in_buffer_ms" d.maxTimeInBuffer
    maxRecordBytes := ← readLimit? entries "max_record_size_in_bytes" d.maxRecordBytes
    flushOnCheckpoint := ← readChoice? entries "flush_on_checkpoint" d.flushOnCheckpoint
    retryBackoff := ← readLimit? entries "retry_backoff_ms" d.retryBackoff
    flushTimeout := ← readLimit? entries "flush_timeout_ms" d.flushTimeout }

/-- The settings that a text holds. -/
def parse? (text : String) : Option Settings :=
  (Toml.parse? text).bind ofEntries?

/-! ### Files -/

/-- Read settings from a file and check them. -/
def load (folder : Folder) (path : String) : Except SettingsError Settings :=
  match (folder.read? path).bind ofUtf8? with
  | none => .error (.unreadable path)
  | some text =>
    match parse? text with
    | none => .error (.notSettings path)
    | some s =>
      match s.validate with
      | .error e => .error e
      | .ok () => .ok s

/-- Write settings to a file.  They are not checked. -/
def save (s : Settings) (folder : Folder) (path : String) : Except SettingsError Folder :=
  match s.render? with
  | none => .error .unprintable
  | some text =>
    match folder.write? path (utf8 text) with
    | none => .error (.unwritable path)
    | some folder => .ok folder

/-- Write a file of defaults unless something is there already. -/
def createDefault (folder : Folder) (path : String) : Except SettingsError Folder :=
  if folder.holds path then .ok folder
  else
    match folder.write? path (utf8 defaultText) with
    | none => .error (.defaultUnwritable path)
    | some folder => .ok folder

end Settings

end BulkDelivery
