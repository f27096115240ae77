/-!
# Durations as text

A duration is shown in the largest of the units second, millisecond, microsecond and
nanosecond of which it holds at least one, with a decimal fraction for the rest and no
trailing zeros; nothing at all is `0ns`.

## Main definitions

* `Duration` — a number of nanoseconds.
* `Duration.ofMillis`, `Duration.millis` — whole milliseconds.
* `Duration.text` — the text shown for a duration.
-/

namespace BulkDelivery

/-- A length of time. -/
structure Duration where
  /-- In nanoseconds. -/
  nanos : Nat
  deriving DecidableEq, Repr, Inhabited

namespace Duration

/-- So many milliseconds. -/
def ofMillis (ms : Nat) : Duration := ⟨ms * 1000000⟩

/-- The whole milliseconds of a duration. -/
def millis (d : Duration) : Nat := d.nanos / 1000000

/-- The lowest `width` decimal digits of `n`, most significant first. -/
def paddedDigits : Nat → Nat → List Char
  | 0, _ => []
  | width + 1, n => paddedDigits width (n / 10) ++ [Char.ofNat (48 + n % 10)]

/-- A list without the zeros at its end. -/
def dropTrailingZeros (digits : List Char) : List Char :=
  (digits.reverse.dropWhile (· == '0')).reverse

/-- A number of nanoseconds in a unit of `10 ^ places` nanoseconds. -/
def inUnit (places : Nat) (unit : String) (nanos : Nat) : String :=
  let whole := toString (nanos / Nat.pow 10 places)
  match dropTrailingZeros (paddedDigits places (nanos % Nat.pow 10 places)) with
  | [] => whole ++ unit
  | fraction => whole ++ "." ++ String.ofList fraction ++ unit

/-- The text shown for a duration. -/
def text (d : Duration) : String :=
  if Nat.pow 10 9 ≤ d.nanos then inUnit 9 "s" d.nanos
  else if Nat.pow 10 6 ≤ d.nanos then inUnit 6 "ms" d.nanos
  else if Nat.pow 10 3 ≤ d.nanos then inUnit 3 "µs" d.nanos
  else inUnit 0 "ns" d.nanos

end Duration

end BulkDelivery
