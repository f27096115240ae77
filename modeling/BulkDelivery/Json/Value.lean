import BulkDelivery.Bytes.Hex

/-!
# JSON texts

A JSON text is read into a value.  Numbers are only told apart as far as integers go, and a
text keeps whether its escapes stand for characters: a lone half of a pair of escapes is
tolerated as long as nobody asks for the text.

## Main definitions

* `Json.Value` — values.
* `Json.quote` — a text as it is written.
* `Json.decimal`, `Json.integerText` — numbers as they are written.
* `Json.value?`, `Json.parse?` — a value at the front of some characters, and the value of a
  whole text.
-/

namespace BulkDelivery.Json

/-- A JSON value. -/
inductive Value where
  /-- The null value. -/
  | null
  /-- A truth value. -/
  | boolean (b : Bool)
  /-- A number, known if it was written as an integer. -/
  | number (integer? : Option Int)
  /-- A text, known if its escapes stand for characters. -/
  | text (s? : Option String)
  /-- Values in brackets. -/
  | array (items : List Value)
  /-- Names with values in braces, in order. -/
  | object (members : List (Option String × Value))
  deriving Inhabited

/-! ### Writing -/

/-- A character as it stands in a text. -/
def escape (c : Char) : List Char :=
  if c = '"' then ['\\', '"']
  else if c = '\\' then ['\\', '\\']
  else if c = '\x08' then ['\\', 'b']
  else if c = '\x0c' then ['\\', 'f']
  else if c = '\n' then ['\\', 'n']
  else if c = '\r' then ['\\', 'r']
  else if c = '\t' then ['\\', 't']
  else if c < ' ' then '\\' :: 'u' :: hexDigits 4 c.toNat
  else [c]

/-- A text in quotation marks. -/
def quote (s : List Char) : List Char :=
  '"' :: (s.flatMap escape ++ ['"'])

/-- The decimal digits of a number. -/
def decimal (n : Nat) : List Char :=
  Nat.toDigits 10 n

/-- An integer in decimal digits. -/
def integerText : Int → List Char
  | .ofNat n => decimal n
  | .negSucc n => '-' :: decimal (n + 1)

/-! ### Reading texts -/

/-- Blank characters between values. -/
def isBlank (c : Char) : Bool := c == ' ' || c == '\n' || c == '\t' || c == '\r'

/-- The characters after blanks. -/
def skipBlanks (cs : List Char) : List Char := cs.dropWhile isBlank

/-- The character a short escape stands for. -/
def shortEscape? : Char → Option Char
  | '"' => some '"'
  | '\\' => some '\\'
  | '/' => some '/'
  | 'b' => some '\x08'
  | 'f' => some '\x0c'
  | 'n' => some '\n'
  | 'r' => some '\r'
  | 't' => some '\t'
  | _ => none

/-- One part of a text: a character, or a number of sixteen bits that was escaped. -/
inductive Unit16
  /-- A character. -/
  | plain (c : Char)
  /-- An escaped number. -/
  | escaped (n : Nat)
  deriving DecidableEq, Repr, Inhabited

/-- The number of four hexadecimal digits. -/
def fourHex? (a b c d : Char) : Option Nat := do
  return 4096 * (← hexValue? a) + 256 * (← hexValue? b) + 16 * (← hexValue? c) + (← hexValue? d)

/-- The parts of a text up to the closing quotation mark. -/
def parts? : List Unit16 → List Char → Option (List Unit16 × List Char)
  | _, [] => none
  | done, '"' :: rest => some (done.reverse, rest)
  | done, '\\' :: 'u' :: a :: b :: c :: d :: rest =>
    match fourHex? a b c d with
    | some n => parts? (.escaped n :: done) rest
    | none => none
  | done, '\\' :: e :: rest =>
    match shortEscape? e with
    | some c => parts? (.plain c :: done) rest
    | none => none
  | done, c :: rest => if c < ' ' then none else parts? (.plain c :: done) rest

/-- The characters that the parts of a text stand for, if every escaped number is a character or
half of a pair. -/
def characters? : List Unit16 → Option (List Char)
  | [] => some []
  | .plain c :: rest => (characters? rest).map (c :: ·)
  | .escaped high :: .escaped low :: rest =>
    if 0xD800 ≤ high ∧ high < 0xDC00 then
      if 0xDC00 ≤ low ∧ low < 0xE000 then
        let n := 0x10000 + (high - 0xD800) * 0x400 + (low - 0xDC00)
        (characters? rest).map (Char.ofNat n :: ·)
      else none
    else if 0xDC00 ≤ high ∧ high < 0xE000 then none
    else (characters? (.escaped low :: rest)).map (Char.ofNat high :: ·)
  | .escaped n :: rest =>
    if 0xD800 ≤ n ∧ n < 0xE000 then none
    else (characters? rest).map (Char.ofNat n :: ·)

/-- A text after its opening quotation mark. -/
def text? (cs : List Char) : Option (Option String × List Char) :=
  (parts? [] cs).map fun (parts, rest) => ((characters? parts).map String.ofList, rest)

/-! ### Reading numbers -/

/-- The decimal digits. -/
def isDigit (c : Char) : Bool := '0' ≤ c && c ≤ '9'

/-- The number that decimal digits stand for. -/
def ofDecimal (digits : List Char) : Nat :=
  digits.foldl (fun n c => 10 * n + (c.toNat - 48)) 0

/-- The characters after a run of at least one digit. -/
def skipDigits? (cs : List Char) : Option (List Char) :=
  match cs with
  | c :: rest => if isDigit c then some (rest.dropWhile isDigit) else none
  | [] => none

/-- The characters after a fraction, and whether there is one. -/
def fraction? : List Char → Option (Bool × List Char)
  | '.' :: rest => (skipDigits? rest).map (true, ·)
  | cs => some (false, cs)

/-- The characters after an exponent behind its letter. -/
def exponentBody? : List Char → Option (List Char)
  | '+' :: rest => skipDigits? rest
  | '-' :: rest => skipDigits? rest
  | cs => skipDigits? cs

/-- The characters after an exponent, and whether there is one. -/
def exponent? : List Char → Option (Bool × List Char)
  | 'e' :: rest => (exponentBody? rest).map (true, ·)
  | 'E' :: rest => (exponentBody? rest).map (true, ·)
  | cs => some (false, cs)

/-- Digits that do not start with a superfluous zero. -/
def whole? : List Char → Option (Nat × List Char)
  | '0' :: c :: rest => if isDigit c then none else some (0, c :: rest)
  | cs =>
    match cs.takeWhile isDigit with
    | [] => none
    | digits => some (ofDecimal digits, cs.dropWhile isDigit)

/-- A number behind its sign.  A negative zero is no integer, nor is a number with a fraction or
an exponent. -/
def unsigned? (negative : Bool) (cs : List Char) : Option (Option Int × List Char) := do
  let (n, rest) ← whole? cs
  let (hasFraction, rest) ← fraction? rest
  let (hasExponent, rest) ← exponent? rest
  let integer? : Option Int :=
    if hasFraction || hasExponent then none
    else if negative then
      if n = 0 then none else some (-n)
    else some n
  return (integer?, rest)

/-- A number. -/
def number? : List Char → Option (Option Int × List Char)
  | '-' :: rest => unsigned? true rest
  | cs => unsigned? false cs

/-! ### Reading values -/

/-- How values are read. -/
abbrev Reader := List Char → Option (Value × List Char)

/-- The items of an array, up to the closing bracket. -/
def items? (value? : Reader) : Nat → List Char → Option (List Value × List Char)
  | 0, _ => none
  | fuel + 1, cs => do
    let (v, rest) ← value? cs
    match skipBlanks rest with
    | ']' :: rest => return ([v], rest)
    | ',' :: rest =>
      let (vs, rest) ← items? value? fuel rest
      return (v :: vs, rest)
    | _ => none

/-- The members of an object, up to the closing brace. -/
def members? (value? : Reader) : Nat → List Char →
    Option (List (Option String × Value) × List Char)
  | 0, _ => none
  | fuel + 1, cs =>
    match skipBlanks cs with
    | '"' :: rest => do
      let (name, rest) ← text? rest
      match skipBlanks rest with
      | ':' :: rest =>
        let (v, rest) ← value? rest
        match skipBlanks rest with
        | '\x7d' :: rest => return ([(name, v)], rest)
        | ',' :: rest =>
          let (others, rest) ← members? value? fuel rest
          return ((name, v) :: others, rest)
        | _ => none
      | _ => none
    | _ => none

/-- The characters after a word. -/
def word? (word cs : List Char) : Option (List Char) :=
  if word.isPrefixOf cs then some (cs.drop word.length) else none

/-- A value whose brackets and braces are fewer than `fuel` deep and, at each depth, enclose no
more values than the fuel that is left there. -/
def value? : Nat → Reader
  | 0, _ => none
  | fuel + 1, cs =>
    match skipBlanks cs with
    | '"' :: rest => (text? rest).map fun (s, rest) => (.text s, rest)
    | 'n' :: rest => (word? ['u', 'l', 'l'] rest).map (.null, ·)
    | 't' :: rest => (word? ['r', 'u', 'e'] rest).map (.boolean true, ·)
    | 'f' :: rest => (word? ['a', 'l', 's', 'e'] rest).map (.boolean false, ·)
    | '[' :: rest =>
      match skipBlanks rest with
      | ']' :: rest => some (.array [], rest)
      | _ => (items? (value? fuel) fuel rest).map fun (vs, rest) => (.array vs, rest)
    | '\x7b' :: rest =>
      match skipBlanks rest with
      | '\x7d' :: rest => some (.object [], rest)
      | _ => (members? (value? fuel) fuel rest).map fun (ms, rest) => (.object ms, rest)
    | cs => (number? cs).map fun (n, rest) => (.number n, rest)

/-- The value of a whole text.  Every bracket and every value takes up a character, so the fuel
that is left always exceeds the number of characters that are left. -/
def parse? (text : List Char) : Option Value :=
  match value? (text.length + 1) text with
  | some (v, rest) => if (skipBlanks rest).isEmpty then some v else none
  | none => none

end BulkDelivery.Json
