import BulkDelivery.Bytes.Draw
import BulkDelivery.Operation

/-!
# Operations as bytes

An operation is stored as its tag, its retry count, its target behind the target's length,
an octet that says whether a payload follows, and then the payload behind its length.
Numbers are four octets wide, so the fixed fields take ten octets.  Lengths are reduced to
their width, hence a text or payload of 2^32 octets or more cannot be read back.

## Main definitions

* `Operation.encode` — the bytes of an operation.
* `Operation.read` — an operation read from any supply of bytes.
* `Operation.decode` — the operation that a byte string encodes, to its last octet.

## Main results

* `Operation.length_encode` — an encoding is as long as the operation's size.
-/

namespace BulkDelivery

namespace Operation

/-- The bytes of an optional payload: a flag, then the length and the payload if there is one. -/
def encodePayload : Option Bytes → Bytes
  | none => [0]
  | some p => 1 :: (littleEndian 4 p.length ++ p)

/-- The bytes of an operation. -/
def encode (o : Operation) : Bytes :=
  o.action.tag ::
    (littleEndian 4 o.conflictRetries.toUInt32.toNat ++
      (littleEndian 4 o.target.utf8ByteSize ++ (utf8 o.target ++ encodePayload o.payload)))

theorem length_encode (o : Operation) : o.encode.length = o.size := by
  cases h : o.payload <;> simp [encode, encodePayload, size, h] <;> omega

variable {σ : Type}

/-- Read an optional payload. -/
def readPayload (draw : Draw σ) (s : σ) : Except DecodeError (Option Bytes × σ) := do
  let (flag, s) ← draw.octet s
  if flag = 0 then
    return (none, s)
  else if flag = 1 then
    let (length, s) ← draw.number 4 s
    let (payload, s) ← draw length s
    return (some payload, s)
  else
    throw (.malformed (.payloadFlag flag))

/-- Read an operation, field by field. -/
def read (draw : Draw σ) (s : σ) : Except DecodeError (Operation × σ) := do
  let (tag, s) ← draw.octet s
  match Action.ofTag? tag with
  | none => throw (.unknownAction tag)
  | some action =>
    let (retries, s) ← draw.number 4 s
    let (length, s) ← draw.number 4 s
    let (octets, s) ← draw length s
    match ofUtf8? octets with
    | none => throw .invalidText
    | some target =>
      let (payload, s) ← readPayload draw s
      return ({ action, target, payload, conflictRetries := (UInt32.ofNat retries).toInt32 }, s)

/-- The operation a byte string encodes.  Nothing may follow it. -/
def decode (b : Bytes) : Except DecodeError Operation := do
  let (o, rest) ← read drawBytes b
  if rest.isEmpty then
    return o
  else
    throw (.malformed (.afterOperation rest.length))

end Operation

end BulkDelivery
