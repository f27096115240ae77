import BulkDelivery.Toml.Number

/-!
# Documents

A document is a sequence of lines: keys with values, and headers that say which table the
keys after them belong to.  Blank lines and comments may stand anywhere between them.  Values
in brackets may spread over lines, values in braces may not.

## Main definitions

* `value?` — any value, to a bounded depth of brackets.
* `Toml.parse?` — the entries of a document.
-/

namespace BulkDelivery.Toml

/-- How values are read. -/
abbrev Reader := List Char → Option (Value × List Char)

/-! ### Values -/

/-- The items of an array after the first `[` or a comma, up to the closing bracket. -/
def items? (value? : Reader) : Nat → List Char → Option (List Value × List Char)
  | 0, _ => none
  | fuel + 1, cs =>
    match skipLines cs with
    | ']' :: rest => some ([], rest)
    | cs => do
      let (v, rest) ← value? cs
      match skipLines rest with
      | ']' :: rest => return ([v], rest)
      | ',' :: rest =>
        let (vs, rest) ← items? value? fuel rest
        return (v :: vs, rest)
      | _ => none

/-- A key, an equals sign and a value. -/
def pair? (value? : Reader) (cs : List Char) : Option (List String × Value × List Char) := do
  let (key, rest) ← dottedKey? cs
  let rest ← expect? '=' rest
  let (v, rest) ← value? (skipBlanks rest)
  return (key, v, rest)

/-- The pairs of a table in braces, up to the closing brace, added to the entries so far. -/
def pairs? (value? : Reader) : Nat → Entries → List Char → Option (Entries × List Char)
  | 0, _, _ => none
  | fuel + 1, entries, cs => do
    let (key, v, rest) ← pair? value? cs
    let entries ← insert key v entries
    match skipBlanks rest with
    | '\x7d' :: rest => return (entries, rest)
    | ',' :: rest => pairs? value? fuel entries rest
    | _ => none

/-- A table in braces, after the opening one. -/
def inlineTable? (value? : Reader) (cs : List Char) : Option (Value × List Char) :=
  match skipBlanks cs with
  | '\x7d' :: rest => some (.table .inlined [], rest)
  | cs => do
    let (entries, rest) ← pairs? value? (cs.length + 1) [] cs
    return (.table .inlined entries, rest)

/-- A value without brackets or braces. -/
def scalar? (cs : List Char) : Option (Value × List Char) :=
  match cs with
  | [] => none
  | c :: _ =>
    if c = '"' ∨ c = '\x27' then
      (quotedText? cs).map fun (s, rest) => (.text (String.ofList s), rest)
    else if c = 't' then
      (word? ['t', 'r', 'u', 'e'] cs).map fun rest => (.boolean true, rest)
    else if c = 'f' then
      (word? ['f', 'a', 'l', 's', 'e'] cs).map fun rest => (.boolean false, rest)
    else if c = 'i' ∨ c = 'n' then
      specialFloat? cs
    else if c = '+' ∨ c = '-' ∨ isDigit c then
      number? cs
    else none

/-- Any value whose brackets and braces are at most so many deep. -/
def value? : Nat → Reader
  | 0, cs => scalar? cs
  | depth + 1, cs =>
    match cs with
    | '[' :: rest =>
      (items? (value? depth) (rest.length + 1) rest).map fun (vs, rest) => (.array vs, rest)
    | '\x7b' :: rest => inlineTable? (value? depth) rest
    | cs => scalar? cs

/-- The depth to which brackets and braces may nest. -/
def maxDepth : Nat := 79

/-! ### Lines -/

/-- The state of a document while it is read: its entries, and the header that the next keys
belong to. -/
structure Draft where
  /-- The entries so far. -/
  entries : Entries := []
  /-- The header above the next line. -/
  header : List String := []

/-- A line with a key and a value. -/
def pairLine? (draft : Draft) (cs : List Char) : Option (Draft × List Char) := do
  let (key, v, rest) ← pair? (value? maxDepth) cs
  let rest ← lineEnd? rest
  let entries ← descend (insert key v) draft.header draft.entries
  return ({ draft with entries }, rest)

/-- A header line after its opening brackets. -/
def headerLine? (closing : List Char) (start : List String → Entries → Option Entries)
    (draft : Draft) (cs : List Char) : Option (Draft × List Char) := do
  let (path, rest) ← dottedKey? cs
  let rest ← word? closing rest
  let rest ← lineEnd? rest
  let entries ← start path draft.entries
  return ({ entries, header := path }, rest)

/-- A line that holds something. -/
def line? (draft : Draft) (cs : List Char) : Option (Draft × List Char) :=
  match cs with
  | '[' :: '[' :: rest => headerLine? [']', ']'] appendTable draft rest
  | '[' :: rest => headerLine? [']'] openTable draft rest
  | cs => pairLine? draft cs

/-- All lines of a document. -/
def lines? : Nat → Draft → List Char → Option Entries
  | 0, _, _ => none
  | fuel + 1, draft, cs =>
    match skipLines cs with
    | [] => some draft.entries
    | cs =>
      match line? draft cs with
      | none => none
      | some (draft, rest) => lines? fuel draft rest

/-- The entries of a document.  A mark of the byte order at the start is passed over. -/
def parse? (document : String) : Option Entries :=
  let cs :=
    match document.toList with
    | '\ufeff' :: rest => rest
    | cs => cs
  lines? (cs.length + 1) {} cs

end BulkDelivery.Toml
