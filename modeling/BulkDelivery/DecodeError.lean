import BulkDelivery.Bytes.Hex
import BulkDelivery.Failure

/-!
# Why stored bytes are refused

Stored bytes are either read back whole or refused with one of these causes; nothing is
ever restored in part.

## Main definitions

* `Malformation` — what is wrong with the structure of the bytes.
* `DecodeError` — the causes of a refusal.
* `DecodeError.message` — the text shown for a cause.
* `DecodeError.ofIo` — the cause that an input/output error amounts to.
-/

namespace BulkDelivery

/-- What is wrong with the structure of stored bytes. -/
inductive Malformation
  /-- The octet that says whether a payload follows is neither zero nor one. -/
  | payloadFlag (flag : UInt8)
  /-- Octets follow a complete operation. -/
  | afterOperation (count : Nat)
  /-- Octets follow the last field of a checkpoint. -/
  | afterState (count : Nat)
  /-- A fault described elsewhere. -/
  | described (text : String)
  deriving DecidableEq, Repr, Inhabited

namespace Malformation

/-- The text shown for a malformation. -/
def text : Malformation → String
  | payloadFlag flag => s!"invalid payload flag {flag.toNat}"
  | afterOperation count => s!"{count} trailing bytes after operation"
  | afterState count => s!"{count} unexpected bytes after state"
  | described text => text

end Malformation

/-- Why stored bytes are refused. -/
inductive DecodeError
  /-- The bytes end too early. -/
  | insufficientData
  /-- The structure is wrong. -/
  | malformed (what : Malformation)
  /-- The bytes do not start as a checkpoint does. -/
  | badMagic (found : Bytes)
  /-- The version is not one that can be read. -/
  | unsupportedVersion (version : UInt8)
  /-- The stored checksum is not that of the bytes. -/
  | checksumMismatch (stored computed : BitVec 32)
  /-- No action has this tag. -/
  | unknownAction (tag : UInt8)
  /-- A target is not valid text. -/
  | invalidText
  /-- The recorded total is not the size of the operations. -/
  | sizeMismatch (recorded computed : Nat)
  /-- The bytes could not be read or written. -/
  | io (message : String)
  deriving DecidableEq, Repr, Inhabited

namespace DecodeError

/-- The text shown for a cause. -/
def message : DecodeError → String
  | insufficientData => "Insufficient data to decode"
  | malformed what => s!"Invalid format: {what.text}"
  | badMagic found =>
    let octets := found.map fun x => String.ofList (hexDigits 2 x.toNat)
    "Bad magic bytes: [" ++ String.intercalate ", " octets ++ "]"
  | unsupportedVersion version => s!"Unsupported format version: {version.toNat}"
  | checksumMismatch stored computed =>
    "Checksum mismatch: expected " ++ String.ofList (hexDigits 8 stored.toNat) ++
      ", computed " ++ String.ofList (hexDigits 8 computed.toNat)
  | unknownAction tag =>
    "Unknown operation kind tag: 0x" ++ String.ofList (hexDigits 2 tag.toNat)
  | invalidText => "Operation target is not valid UTF-8"
  | sizeMismatch recorded computed =>
    s!"State size mismatch: recorded {recorded} bytes, computed {computed} bytes"
  | io message => s!"I/O error: {message}"

/-- The cause an input/output error amounts to: an unexpected end is missing data. -/
def ofIo (e : IoError) : DecodeError :=
  match e.kind with
  | .unexpectedEof => insufficientData
  | _ => io e.message

end DecodeError

end BulkDelivery
