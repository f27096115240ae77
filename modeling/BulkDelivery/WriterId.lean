import BulkDelivery.Bytes.Hex

/-!
# Identities of writers

Every writer has an identity of its own, which is shown as thirty-two hexadecimal digits in
groups of eight, four, four, four and twelve.  Identities are minted from a supply of numbers
of 122 bits; six bits are fixed and mark the form of the identity.

## Main definitions

* `WriterId`, `WriterId.mint` — an identity, and the one with a given number.
* `WriterId.text` — the text shown for an identity.
-/

namespace BulkDelivery

/-- The identity of a writer, a number of 122 bits. -/
structure WriterId where
  /-- The number. -/
  number : BitVec 122
  deriving DecidableEq, Repr, Inhabited

namespace WriterId

/-- The identity with a given number. -/
def mint (n : Nat) : WriterId := ⟨BitVec.ofNat 122 n⟩

/-- The text shown for an identity.  The first digit of the third group is four, and the first
digit of the fourth group starts with the bits one and zero. -/
def text (id : WriterId) : String :=
  let n := id.number.toNat
  String.ofList <|
    hexDigits 8 (n >>> 90) ++ ['-'] ++
    hexDigits 4 (n >>> 74) ++ ['-'] ++
    '4' :: hexDigits 3 (n >>> 62) ++ ['-'] ++
    hexDigits 4 (0x8000 + (n >>> 48) % 0x4000) ++ ['-'] ++
    hexDigits 12 n

end WriterId

end BulkDelivery
