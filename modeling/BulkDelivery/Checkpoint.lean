import BulkDelivery.Bytes.Crc32
import BulkDelivery.Operation.Encoding

/-!
# Checkpoints

A checkpoint holds the operations that a writer has accepted and the store has not yet
acknowledged, in order.  Its stored form is

* the four octets `ESBS` and one octet for the version,
* the number of operations, in four octets,
* each operation behind the length of its encoding, in four octets,
* the sum of the operations' sizes, in eight octets,
* the checksum of everything before it, in four octets.

Reading checks all of it: the magic, the checksum, the version, every operation, that
nothing follows, and that the recorded total is the true one.

## Main definitions

* `Checkpoint`, `Checkpoint.byteTotal` — the operations and the sum of their sizes.
* `Checkpoint.encode` — the stored form.
* `Checkpoint.decode` — the checkpoint of a stored form.
-/

namespace BulkDelivery

/-- Operations that were accepted and not yet acknowledged, in order. -/
structure Checkpoint where
  /-- The operations, oldest place first. -/
  operations : List Operation := []
  deriving DecidableEq, Inhabited

namespace Checkpoint

/-- The checkpoint of no operations. -/
def empty : Checkpoint := {}

/-- The sum of the operations' sizes. -/
def byteTotal (c : Checkpoint) : Nat :=
  c.operations.foldr (fun o n => o.size + n) 0

/-- The number of operations. -/
def length (c : Checkpoint) : Nat :=
  c.operations.length

/-- The four octets a checkpoint starts with. -/
def magic : Bytes := [0x45, 0x53, 0x42, 0x53]

/-- The version of the stored form. -/
def version : UInt8 := 1

/-! ### Writing -/

/-- An operation behind the length of its encoding. -/
def frame (o : Operation) : Bytes :=
  littleEndian 4 o.encode.length ++ o.encode

/-- Everything after the version and before the checksum. -/
def content (c : Checkpoint) : Bytes :=
  littleEndian 4 c.operations.length ++
    (c.operations.flatMap frame ++ littleEndian 8 c.byteTotal)

/-- Everything before the checksum. -/
def body (c : Checkpoint) : Bytes :=
  magic ++ version :: c.content

/-- A body behind which its checksum is written. -/
def withChecksum (b : Bytes) : Bytes :=
  b ++ littleEndian 4 (crc32 b).toNat

/-- The stored form of a checkpoint. -/
def encode (c : Checkpoint) : Bytes :=
  withChecksum c.body

/-! ### Reading -/

/-- Read one operation behind its length. -/
def readFrame (b : Bytes) : Except DecodeError (Operation × Bytes) := do
  let (length, b) ← drawBytes.number 4 b
  let (octets, b) ← drawBytes length b
  let o ← Operation.decode octets
  return (o, b)

/-- Read the given number of operations. -/
def readFrames : Nat → Bytes → Except DecodeError (List Operation × Bytes)
  | 0, b => .ok ([], b)
  | n + 1, b => do
    let (o, b) ← readFrame b
    let (rest, b) ← readFrames n b
    return (o :: rest, b)

/-- Read what stands between the version and the checksum. -/
def decodeContent (b : Bytes) : Except DecodeError Checkpoint := do
  let (count, b) ← drawBytes.number 4 b
  let (operations, b) ← readFrames count b
  let (recorded, b) ← drawBytes.number 8 b
  if !b.isEmpty then
    throw (.malformed (.afterState b.length))
  let c : Checkpoint := { operations }
  if c.byteTotal ≠ recorded then
    throw (.sizeMismatch recorded c.byteTotal)
  return c

/-- The least length of a stored checkpoint: that of one without operations. -/
def minLength : Nat := 21

/-- The checkpoint of a stored form.  The magic is checked first, then the checksum, then the
version, and only then what they enclose. -/
def decode (b : Bytes) : Except DecodeError Checkpoint :=
  if b.length < minLength then
    .error .insufficientData
  else if b.take 4 ≠ magic then
    .error (.badMagic (b.take 4))
  else
    let enclosed := b.take (b.length - 4)
    let stored := BitVec.ofNat 32 (ofLittleEndian (b.drop (b.length - 4)))
    let computed := crc32 enclosed
    if stored ≠ computed then
      .error (.checksumMismatch stored computed)
    else
      let found := (enclosed.drop 4).headD 0
      if found ≠ version then
        .error (.unsupportedVersion found)
      else
        decodeContent (enclosed.drop 5)

end Checkpoint

end BulkDelivery
