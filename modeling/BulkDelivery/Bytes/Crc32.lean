import BulkDelivery.Bytes

/-!
# The CRC-32 checksum

The checksum is the remainder of a polynomial division over bits, least significant
bit first: the register starts with all bits set, each octet is added to its low end
and shifted out bit by bit, and the final register is inverted.

## Main definitions

* `Crc32.polynomial` — the reflected generator.
* `Crc32.shift r` — one step of the division.
* `Crc32.feed r x` — the register after one more octet.
* `crc32 b` — the checksum of a byte string.
-/

namespace BulkDelivery

namespace Crc32

/-- The reflected generator polynomial. -/
def polynomial : BitVec 32 := 0xEDB88320#32

/-- One step of the division: the lowest bit leaves, and the generator is added if it was set. -/
def shift (r : BitVec 32) : BitVec 32 :=
  if r.getLsbD 0 then (r >>> 1) ^^^ polynomial else r >>> 1

/-- Eight steps of the division. -/
def shiftOctet (r : BitVec 32) : BitVec 32 :=
  shift (shift (shift (shift (shift (shift (shift (shift r)))))))

/-- The register after one more octet. -/
def feed (r : BitVec 32) (x : UInt8) : BitVec 32 :=
  shiftOctet (r ^^^ x.toBitVec.setWidth 32)

/-- The register after a byte string. -/
def register (r : BitVec 32) (b : Bytes) : BitVec 32 :=
  b.foldl feed r

@[simp] theorem register_nil (r : BitVec 32) : register r [] = r := rfl

@[simp] theorem register_cons (r : BitVec 32) (x : UInt8) (b : Bytes) :
    register r (x :: b) = register (feed r x) b := rfl

theorem register_append (r : BitVec 32) (a b : Bytes) :
    register r (a ++ b) = register (register r a) b :=
  List.foldl_append

end Crc32

/-- The checksum of a byte string. -/
def crc32 (b : Bytes) : BitVec 32 :=
  ~~~ Crc32.register (BitVec.allOnes 32) b

end BulkDelivery
