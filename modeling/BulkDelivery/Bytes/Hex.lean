import BulkDelivery.Bytes

/-!
# Hexadecimal text

Octets and fixed-width numbers are shown in lower-case hexadecimal digits, most
significant digit first.

## Main definitions

* `hexDigits width n` — the lowest `width` hexadecimal digits of `n`.
* `hexText b` — two digits for each octet.
* `ofHex? s` — the octets of a text of digit pairs.
-/

namespace BulkDelivery

/-- The digit of a number below sixteen. -/
def hexDigit (n : Nat) : Char :=
  if n < 10 then Char.ofNat (48 + n) else Char.ofNat (87 + n)

/-- The lowest `width` hexadecimal digits of `n`, most significant first. -/
def hexDigits : Nat → Nat → List Char
  | 0, _ => []
  | width + 1, n => hexDigits width (n / 16) ++ [hexDigit (n % 16)]

/-- Two digits for each octet. -/
def hexText (b : Bytes) : String :=
  String.ofList (b.flatMap fun x => hexDigits 2 x.toNat)

/-- The value of a hexadecimal digit of either case. -/
def hexValue? (c : Char) : Option Nat :=
  if '0' ≤ c ∧ c ≤ '9' then some (c.toNat - 48)
  else if 'a' ≤ c ∧ c ≤ 'f' then some (c.toNat - 87)
  else if 'A' ≤ c ∧ c ≤ 'F' then some (c.toNat - 55)
  else none

/-- The octets of a text of digit pairs, collected in reverse. -/
def ofHexPairs? : Bytes → List Char → Option Bytes
  | done, [] => some done.reverse
  | _, [_] => none
  | done, high :: low :: rest =>
    match hexValue? high, hexValue? low with
    | some h, some l => ofHexPairs? (UInt8.ofNat (16 * h + l) :: done) rest
    | _, _ => none

/-- The octets of a text of digit pairs. -/
def ofHex? (s : String) : Option Bytes :=
  ofHexPairs? [] s.toList

end BulkDelivery
