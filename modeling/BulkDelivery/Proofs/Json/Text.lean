import BulkDelivery.Json.Value
import Mathlib.Tactic.Common

/-!
# Texts are read as they were written

A text is written character by character, and no character depends on its neighbours.  Quotation
marks, backslashes and control characters become escapes, and a control character without a letter
of its own becomes its number in four hexadecimal digits.  Reading undoes this character by
character: first into parts, where such a number is still apart from the characters, and then into
characters.  No number that was written is half of a pair, so every one stands for itself.

## Main definitions

* `Json.StandsFor` — a part stands for a character by itself.

## Main results

* `Json.exists_part_of_escape` — an escape is read as one part.
* `Json.characters?_eq` — parts that stand for characters become these characters.
* `Json.text?_flatMap_escape` — **a text in quotation marks is read as it was written.**
-/

namespace BulkDelivery

/-! ### Hexadecimal digits -/

theorem hexValue?_hexDigit {d : Nat} (h : d < 16) : hexValue? (hexDigit d) = some d := by
  revert d
  decide

namespace Json

theorem hexDigits_four (n : Nat) :
    hexDigits 4 n = [hexDigit (n / 16 / 16 / 16 % 16), hexDigit (n / 16 / 16 % 16),
      hexDigit (n / 16 % 16), hexDigit (n % 16)] := rfl

/-- Four digits give back every number below 2^16. -/
theorem fourHex?_hexDigit {n : Nat} (h : n < 65536) :
    fourHex? (hexDigit (n / 16 / 16 / 16 % 16)) (hexDigit (n / 16 / 16 % 16))
      (hexDigit (n / 16 % 16)) (hexDigit (n % 16)) = some n := by
  have hdigit (m : Nat) : hexValue? (hexDigit (m % 16)) = some (m % 16) :=
    hexValue?_hexDigit (Nat.mod_lt m (by decide))
  simp only [fourHex?, hdigit, Option.bind_eq_bind, Option.bind_some, Option.pure_def,
    Option.some.injEq]
  omega

/-! ### Parts -/

/-- A part stands for a character by itself: it is the character, or its number and not half of a
pair. -/
def StandsFor : Unit16 → Char → Prop
  | .plain d, c => d = c
  | .escaped n, c => n < 0xD800 ∧ Char.ofNat n = c

variable {part : Unit16} {parts done : List Unit16} {c : Char} {s : List Char}

theorem characters?_cons (h : StandsFor part c) (parts : List Unit16) :
    characters? (part :: parts) = (characters? parts).map (c :: ·) := by
  cases part with
  | plain d =>
    cases h
    rfl
  | escaped n =>
    obtain ⟨hn, rfl⟩ := h
    have hhigh : ¬(0xD800 ≤ n ∧ n < 0xDC00) := by omega
    have hlow : ¬(0xDC00 ≤ n ∧ n < 0xE000) := by omega
    have half : ¬(0xD800 ≤ n ∧ n < 0xE000) := by omega
    -- a number is looked at together with a number that follows
    rcases parts with - | ⟨_ | low, parts⟩
    · simp [characters?, half]
    · simp [characters?, half]
    · rw [characters?, if_neg hhigh, if_neg hlow]

/-- Parts that stand for characters become these characters. -/
theorem characters?_eq (h : List.Forall₂ StandsFor parts s) : characters? parts = some s := by
  induction h with
  | nil => rfl
  | cons hpart _ ih => rw [characters?_cons hpart, ih, Option.map_some]

/-- An escape is read as one part, which stands for the character that was written. -/
theorem exists_part_of_escape (c : Char) (done : List Unit16) (rest : List Char) :
    ∃ part, StandsFor part c ∧ parts? done (escape c ++ rest) = parts? (part :: done) rest := by
  unfold escape
  split_ifs with h₁ h₂ h₃ h₄ h₅ h₆ h₇ h₈
  · exact ⟨.plain '"', h₁.symm, by simp [parts?, shortEscape?]⟩
  · exact ⟨.plain '\\', h₂.symm, by simp [parts?, shortEscape?]⟩
  · exact ⟨.plain '\x08', h₃.symm, by simp [parts?, shortEscape?]⟩
  · exact ⟨.plain '\x0c', h₄.symm, by simp [parts?, shortEscape?]⟩
  · exact ⟨.plain '\n', h₅.symm, by simp [parts?, shortEscape?]⟩
  · exact ⟨.plain '\r', h₆.symm, by simp [parts?, shortEscape?]⟩
  · exact ⟨.plain '\t', h₇.symm, by simp [parts?, shortEscape?]⟩
  · have hsmall : c.toNat < 32 := h₈
    refine ⟨.escaped c.toNat, ⟨by omega, Char.ofNat_toNat c⟩, ?_⟩
    have hnumber := fourHex?_hexDigit (n := c.toNat) (by omega)
    simp only [hexDigits_four, List.cons_append, List.nil_append, parts?, hnumber]
  · refine ⟨.plain c, rfl, ?_⟩
    simp [parts?, h₂, h₈]

theorem exists_parts_of_flatMap_escape (s : List Char) (done : List Unit16) (rest : List Char) :
    ∃ parts, List.Forall₂ StandsFor parts s ∧
      parts? done (s.flatMap escape ++ '"' :: rest) = some (done.reverse ++ parts, rest) := by
  induction s generalizing done with
  | nil => exact ⟨[], .nil, by simp [parts?]⟩
  | cons c s ih =>
    obtain ⟨part, hpart, hread⟩ := exists_part_of_escape c done (s.flatMap escape ++ '"' :: rest)
    obtain ⟨parts, hparts, hrest⟩ := ih (part :: done)
    refine ⟨part :: parts, .cons hpart hparts, ?_⟩
    rw [List.flatMap_cons, List.append_assoc, hread, hrest, List.reverse_cons, List.append_assoc,
      List.singleton_append]

/-- **A text in quotation marks is read as it was written.** -/
theorem text?_flatMap_escape (s rest : List Char) :
    text? (s.flatMap escape ++ '"' :: rest) = some (some (String.ofList s), rest) := by
  obtain ⟨parts, hparts, hread⟩ := exists_parts_of_flatMap_escape s [] rest
  simp only [text?, hread, Option.map_some, List.reverse_nil, List.nil_append,
    characters?_eq hparts]

end Json

end BulkDelivery
