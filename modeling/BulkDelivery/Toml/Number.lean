import BulkDelivery.Toml.Text
import BulkDelivery.Toml.Value

/-!
# Numbers and dates of a document

Integers are decimal with an optional sign, or hexadecimal, octal or binary without one, and
must fit sixty-four bits with a sign.  Digits may be separated by single underscores.  A
number with a fraction or an exponent is kept as it was written, unless it is positive and
too large for a double.  A date may carry a time, and a time may stand alone.

## Main definitions

* `digits?` — digits with underscores between them.
* `dateTime?` — a date, a date with a time, or a time.
* `number?` — an integer, a number with a fraction or an exponent, or a date or time.
-/

namespace BulkDelivery.Toml

/-- The decimal digits. -/
def isDigit (c : Char) : Bool := '0' ≤ c && c ≤ '9'

/-- The hexadecimal digits, of either case. -/
def isHexDigit (c : Char) : Bool :=
  isDigit c || ('a' ≤ c && c ≤ 'f') || ('A' ≤ c && c ≤ 'F')

/-- Further digits, each of which may follow an underscore. -/
def moreDigits? (isDigit : Char → Bool) : List Char → List Char → Option (List Char × List Char)
  | done, [] => some (done.reverse, [])
  | done, '_' :: c :: rest => if isDigit c then moreDigits? isDigit (c :: done) rest else none
  | done, c :: rest =>
    if isDigit c then moreDigits? isDigit (c :: done) rest
    else if c = '_' then none
    else some (done.reverse, c :: rest)

/-- Digits with single underscores between them. -/
def digits? (isDigit : Char → Bool) : List Char → Option (List Char × List Char)
  | [] => none
  | c :: rest => if isDigit c then moreDigits? isDigit [c] rest else none

/-- The number that digits stand for in a base. -/
def ofDigits (base : Nat) (digits : List Char) : Nat :=
  digits.foldl (fun n c => base * n + (hexValue? c).getD 0) 0

/-! ### Dates and times -/

/-- A number of exactly `width` digits. -/
def fixedDigits? (width : Nat) (cs : List Char) : Option (Nat × List Char) :=
  let front := cs.take width
  if front.length = width ∧ front.all isDigit then some (ofDigits 10 front, cs.drop width)
  else none

/-- The days of a month. -/
def daysIn (year month : Nat) : Nat :=
  if month = 2 then
    if year % 4 = 0 ∧ (year % 100 ≠ 0 ∨ year % 400 = 0) then 29 else 28
  else if month = 4 ∨ month = 6 ∨ month = 9 ∨ month = 11 then 30
  else 31

/-- The characters after an expected one. -/
def expect? (c : Char) : List Char → Option (List Char)
  | [] => none
  | d :: rest => if d = c then some rest else none

/-- The characters after a date. -/
def date? (cs : List Char) : Option (List Char) := do
  let (year, cs) ← fixedDigits? 4 cs
  let cs ← expect? '-' cs
  let (month, cs) ← fixedDigits? 2 cs
  let cs ← expect? '-' cs
  let (day, cs) ← fixedDigits? 2 cs
  if 1 ≤ month ∧ month ≤ 12 ∧ 1 ≤ day ∧ day ≤ daysIn year month then some cs else none

/-- The characters after a fraction of a second, if there is one. -/
def skipSecondFraction : List Char → List Char
  | '.' :: c :: rest => if isDigit c then rest.dropWhile isDigit else '.' :: c :: rest
  | cs => cs

/-- The characters after a time of day. -/
def time? (cs : List Char) : Option (List Char) := do
  let (hour, cs) ← fixedDigits? 2 cs
  let cs ← expect? ':' cs
  let (minute, cs) ← fixedDigits? 2 cs
  let cs ← expect? ':' cs
  let (second, cs) ← fixedDigits? 2 cs
  if hour ≤ 23 ∧ minute ≤ 59 ∧ second ≤ 60 then some (skipSecondFraction cs) else none

/-- The characters after a signed offset from universal time. -/
def signedOffset? (cs : List Char) : Option (List Char) := do
  let (hour, cs) ← fixedDigits? 2 cs
  let cs ← expect? ':' cs
  let (minute, cs) ← fixedDigits? 2 cs
  if hour ≤ 23 ∧ minute ≤ 59 then some cs else none

/-- The characters after an offset from universal time, if there is one. -/
def skipOffset : List Char → List Char
  | 'Z' :: rest => rest
  | 'z' :: rest => rest
  | '+' :: rest => (signedOffset? rest).getD ('+' :: rest)
  | '-' :: rest => (signedOffset? rest).getD ('-' :: rest)
  | cs => cs

/-- The characters after a time that follows a date, if there is one. -/
def skipTimeOfDate : List Char → List Char
  | c :: rest =>
    if c = 'T' ∨ c = 't' ∨ c = ' ' then
      match time? rest with
      | some rest => skipOffset rest
      | none => c :: rest
    else c :: rest
  | [] => []

/-- A date, a date with a time, or a time. -/
def dateTime? (cs : List Char) : Option (Value × List Char) :=
  let after? :=
    match date? cs with
    | some rest => some (skipTimeOfDate rest)
    | none => time? cs
  after?.map fun rest =>
    (.dateTime (String.ofList (cs.take (cs.length - rest.length))), rest)

/-! ### Numbers -/

/-- The integers that sixty-four bits with a sign can hold. -/
def integer? (n : Int) : Option Value :=
  if -0x8000000000000000 ≤ n ∧ n < 0x8000000000000000 then some (.integer n) else none

/-- The least number that a double rounds to infinity. -/
def doubleOverflow : Nat := (1 <<< 1024) - (1 <<< 970)

/-- Whether `mantissa * 10 ^ exponent` is too large for a double.  Exponents far off are
decided by the number of digits alone. -/
def overflows (digitCount mantissa : Nat) (exponent : Int) : Bool :=
  if mantissa = 0 then false
  else if 400 < exponent + digitCount ∧ 400 < exponent + (toString mantissa).length then true
  else if exponent + digitCount < 300 then false
  else if 0 ≤ exponent then doubleOverflow ≤ mantissa * Nat.pow 10 exponent.toNat
  else doubleOverflow * Nat.pow 10 (-exponent).toNat ≤ mantissa

/-- Digits before any point: a single zero, or digits that do not start with one. -/
def wholePart? : List Char → Option (List Char × List Char)
  | '0' :: rest => some (['0'], rest)
  | cs => digits? isDigit cs

/-- A fraction, if there is one. -/
def fraction? : List Char → Option (List Char × List Char)
  | '.' :: rest => digits? isDigit rest
  | cs => some ([], cs)

/-- The digits of an exponent behind its sign. -/
def exponentDigits? (negative : Bool) (cs : List Char) : Option (Int × List Char) := do
  let (digits, rest) ← digits? isDigit cs
  let n : Int := ofDigits 10 digits
  return (if negative then -n else n, rest)

/-- An exponent behind its letter. -/
def exponent? : List Char → Option (Int × List Char)
  | '+' :: rest => exponentDigits? false rest
  | '-' :: rest => exponentDigits? true rest
  | cs => exponentDigits? false cs

/-- The characters of a number that has a fraction or an exponent. -/
def isFloatMark (c : Char) : Bool := c == '.' || c == 'e' || c == 'E'

/-- A decimal number behind its sign. -/
def decimal? (negative : Bool) (cs : List Char) : Option (Value × List Char) := do
  let (whole, rest) ← wholePart? cs
  if rest.head?.any isFloatMark then
    let (fraction, rest) ← fraction? rest
    let (exponent, rest) ←
      match rest with
      | 'e' :: rest => exponent? rest
      | 'E' :: rest => exponent? rest
      | rest => some (0, rest)
    let digits := whole ++ fraction
    if !negative && overflows digits.length (ofDigits 10 digits) (exponent - fraction.length) then
      none
    else
      return (.float (String.ofList (cs.take (cs.length - rest.length))), rest)
  else
    let n : Int := ofDigits 10 whole
    let value ← integer? (if negative then -n else n)
    return (value, rest)

/-- The characters after a word. -/
def word? (word cs : List Char) : Option (List Char) :=
  if word.isPrefixOf cs then some (cs.drop word.length) else none

/-- An infinite number, or none at all, in words. -/
def specialFloat? (cs : List Char) : Option (Value × List Char) :=
  match word? ['i', 'n', 'f'] cs with
  | some rest => some (.float "inf", rest)
  | none => (word? ['n', 'a', 'n'] cs).map fun rest => (.float "nan", rest)

/-- A number behind its sign. -/
def signed? (negative : Bool) (cs : List Char) : Option (Value × List Char) :=
  match specialFloat? cs with
  | some found => some found
  | none => decimal? negative cs

/-- An integer in another base behind its mark. -/
def based? (base : Nat) (isDigit : Char → Bool) (cs : List Char) : Option (Value × List Char) := do
  let (digits, rest) ← digits? isDigit cs
  let value ← integer? (ofDigits base digits)
  return (value, rest)

/-- An integer, a number with a fraction or an exponent, or a date or time. -/
def number? (cs : List Char) : Option (Value × List Char) :=
  match dateTime? cs with
  | some found => some found
  | none =>
    match cs with
    | '0' :: 'x' :: rest => based? 16 isHexDigit rest
    | '0' :: 'o' :: rest => based? 8 (fun c => '0' ≤ c && c ≤ '7') rest
    | '0' :: 'b' :: rest => based? 2 (fun c => c == '0' || c == '1') rest
    | '+' :: rest => signed? false rest
    | '-' :: rest => signed? true rest
    | cs => decimal? false cs

end BulkDelivery.Toml
