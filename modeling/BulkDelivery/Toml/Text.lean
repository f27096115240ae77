import BulkDelivery.Bytes.Hex

/-!
# Blanks, comments, texts and keys of a document

Every reader takes the characters that are left and gives what it read together with the
characters after it, or nothing when they do not start with what it reads.

## Main definitions

* `skipBlanks`, `newline?`, `lineEnd?`, `skipLines` — blanks, line ends and comments.
* `quotedText?` — a text in quotation marks or apostrophes, on one line or several.
* `dottedKey?` — a key, or keys separated by dots.
-/

namespace BulkDelivery.Toml

/-! ### Blanks, line ends and comments -/

/-- Spaces and tabs. -/
def isBlank (c : Char) : Bool := c == ' ' || c == '\t'

/-- The characters after leading blanks. -/
def skipBlanks (cs : List Char) : List Char := cs.dropWhile isBlank

/-- The characters after a line end. -/
def newline? : List Char → Option (List Char)
  | '\n' :: rest => some rest
  | '\r' :: '\n' :: rest => some rest
  | _ => none

/-- The characters that comments and texts may hold: all but control characters other than
the tab. -/
def isPlain (c : Char) : Bool := c == '\t' || (' ' ≤ c && c != '\x7f')

/-- The characters after a comment, if there is one. -/
def skipComment : List Char → List Char
  | '#' :: rest => rest.dropWhile isPlain
  | cs => cs

/-- The characters after the end of a line: blanks, perhaps a comment, and then a line end or
the end of the document. -/
def lineEnd? (cs : List Char) : Option (List Char) :=
  match skipComment (skipBlanks cs) with
  | [] => some []
  | rest => newline? rest

/-- The characters after blanks, line ends and comments. -/
def skipLinesUpTo : Nat → List Char → List Char
  | 0, cs => cs
  | fuel + 1, cs =>
    let rest := skipComment (skipBlanks cs)
    match newline? rest with
    | some rest => skipLinesUpTo fuel rest
    | none => rest

/-- The characters after blanks, line ends and comments.  Every line end is a character, so
there are no more of them than characters. -/
def skipLines (cs : List Char) : List Char := skipLinesUpTo cs.length cs

/-! ### Texts -/

/-- The character that a letter after a backslash stands for. -/
def shortEscape? : Char → Option Char
  | 'b' => some '\x08'
  | 't' => some '\t'
  | 'n' => some '\n'
  | 'f' => some '\x0c'
  | 'r' => some '\r'
  | '"' => some '"'
  | '\\' => some '\\'
  | _ => none

/-- The number that hexadecimal digits stand for. -/
def hexNumber? (digits : List Char) : Option Nat :=
  digits.foldl (fun n? c => do return 16 * (← n?) + (← hexValue? c)) (some 0)

/-- The character with a number, if there is one. -/
def character? (n : Nat) : Option Char :=
  if n.isValidChar then some (Char.ofNat n) else none

/-- The character that stands after a backslash. -/
def escape? : List Char → Option (Char × List Char)
  | [] => none
  | 'u' :: rest =>
    if (rest.take 4).length = 4 then do
      let c ← character? (← hexNumber? (rest.take 4))
      return (c, rest.drop 4)
    else none
  | 'U' :: rest =>
    if (rest.take 8).length = 8 then do
      let c ← character? (← hexNumber? (rest.take 8))
      return (c, rest.drop 8)
    else none
  | letter :: rest => (shortEscape? letter).map (·, rest)

theorem length_lt_of_escape? {cs rest : List Char} {c : Char} (h : escape? cs = some (c, rest)) :
    rest.length < cs.length := by
  unfold escape? at h
  split at h
  · cases h
  · split at h
    · simp only [Option.pure_def, Option.bind_eq_bind, Option.bind_eq_some_iff] at h
      obtain ⟨_, _, _, _, h⟩ := h
      simp only [Option.some.injEq, Prod.mk.injEq] at h
      rw [← h.2, List.length_cons, List.length_drop]
      omega
    · cases h
  · split at h
    · simp only [Option.pure_def, Option.bind_eq_bind, Option.bind_eq_some_iff] at h
      obtain ⟨_, _, _, _, h⟩ := h
      simp only [Option.some.injEq, Prod.mk.injEq] at h
      rw [← h.2, List.length_cons, List.length_drop]
      omega
    · cases h
  · simp only [Option.map_eq_some_iff, Prod.mk.injEq] at h
    obtain ⟨_, _, _, rfl⟩ := h
    simp

/-- The rest of a text in quotation marks, up to the closing one. -/
def basicText? (done : List Char) (cs : List Char) : Option (List Char × List Char) :=
  match cs with
  | [] => none
  | '"' :: rest => some (done.reverse, rest)
  | '\\' :: rest =>
    match h : escape? rest with
    | none => none
    | some (c, after) =>
      have := length_lt_of_escape? h
      basicText? (c :: done) after
  | c :: rest => if isPlain c then basicText? (c :: done) rest else none
termination_by cs.length
decreasing_by all_goals simp_all <;> omega

/-- The rest of a text in apostrophes, up to the closing one. -/
def literalText? : List Char → List Char → Option (List Char × List Char)
  | _, [] => none
  | done, c :: rest =>
    if c = '\x27' then some (done.reverse, rest)
    else if isPlain c then literalText? (c :: done) rest
    else none

/-- What follows three closing marks: up to two more of them still belong to the text. -/
def closingMarks (mark : Char) (done : List Char) : List Char → List Char × List Char
  | a :: b :: rest =>
    if a = mark then
      if b = mark then ((mark :: mark :: done).reverse, rest)
      else ((mark :: done).reverse, b :: rest)
    else (done.reverse, a :: b :: rest)
  | [a] => if a = mark then ((mark :: done).reverse, []) else (done.reverse, [a])
  | [] => (done.reverse, [])

/-- The characters after blanks and line ends. -/
def skipEmptyLines (cs : List Char) : List Char :=
  match cs with
  | ' ' :: rest => skipEmptyLines rest
  | '\t' :: rest => skipEmptyLines rest
  | '\n' :: rest => skipEmptyLines rest
  | '\r' :: '\n' :: rest => skipEmptyLines rest
  | cs => cs

/-- The rest of a text of several lines in quotation marks, up to the closing three.  A
backslash at the end of a line takes the line end and all blanks after it away. -/
def basicLines? : Nat → List Char → List Char → Option (List Char × List Char)
  | 0, _, _ => none
  | _ + 1, _, [] => none
  | _ + 1, done, '"' :: '"' :: '"' :: rest => some (closingMarks '"' done rest)
  | fuel + 1, done, '\\' :: rest =>
    match newline? (skipBlanks rest) with
    | some rest => basicLines? fuel done (skipEmptyLines rest)
    | none =>
      match escape? rest with
      | none => none
      | some (c, rest) => basicLines? fuel (c :: done) rest
  | fuel + 1, done, c :: rest =>
    match newline? (c :: rest) with
    | some rest => basicLines? fuel ('\n' :: done) rest
    | none => if isPlain c then basicLines? fuel (c :: done) rest else none

/-- The rest of a text of several lines in apostrophes, up to the closing three. -/
def literalLines? : Nat → List Char → List Char → Option (List Char × List Char)
  | 0, _, _ => none
  | _ + 1, _, [] => none
  | _ + 1, done, '\x27' :: '\x27' :: '\x27' :: rest => some (closingMarks '\x27' done rest)
  | fuel + 1, done, c :: rest =>
    match newline? (c :: rest) with
    | some rest => literalLines? fuel ('\n' :: done) rest
    | none => if isPlain c then literalLines? fuel (c :: done) rest else none

/-- The characters after a line end that opens a text of several lines. -/
def skipFirstNewline (cs : List Char) : List Char :=
  (newline? cs).getD cs

/-- A text on one line. -/
def lineText? : List Char → Option (List Char × List Char)
  | '"' :: rest => basicText? [] rest
  | '\x27' :: rest => literalText? [] rest
  | _ => none

/-- A text, on one line or several. -/
def quotedText? : List Char → Option (List Char × List Char)
  | '"' :: '"' :: '"' :: rest => basicLines? (rest.length + 1) [] (skipFirstNewline rest)
  | '\x27' :: '\x27' :: '\x27' :: rest => literalLines? (rest.length + 1) [] (skipFirstNewline rest)
  | cs => lineText? cs

/-! ### Keys -/

/-- The characters of keys without quotation marks. -/
def isBareKey (c : Char) : Bool :=
  ('a' ≤ c && c ≤ 'z') || ('A' ≤ c && c ≤ 'Z') || ('0' ≤ c && c ≤ '9') || c == '_' || c == '-'

/-- A single key. -/
def simpleKey? (cs : List Char) : Option (List Char × List Char) :=
  match cs.takeWhile isBareKey with
  | [] => lineText? cs
  | key => some (key, cs.dropWhile isBareKey)

/-- Keys separated by dots, with blanks around each of them. -/
def dottedKeyUpTo : Nat → List Char → Option (List String × List Char)
  | 0, _ => none
  | fuel + 1, cs => do
    let (key, rest) ← simpleKey? (skipBlanks cs)
    match skipBlanks rest with
    | '.' :: rest =>
      let (path, rest) ← dottedKeyUpTo fuel rest
      return (String.ofList key :: path, rest)
    | rest => return ([String.ofList key], rest)

/-- The most keys that dots may join. -/
def maxKeyParts : Nat := 79

/-- Keys separated by dots, with blanks around each of them. -/
def dottedKey? (cs : List Char) : Option (List String × List Char) :=
  dottedKeyUpTo maxKeyParts cs

end BulkDelivery.Toml
