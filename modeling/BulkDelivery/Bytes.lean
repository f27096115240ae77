/-!
# Byte strings

A byte string is a list of octets.  Everything that is stored or sent is built from
two pieces: numbers of a fixed width, written least octet first, and runs of octets
whose length is known before they are read.

## Main definitions

* `Bytes` — a string of octets.
* `splitExactly? n b` — the first `n` octets of `b` and the rest, if there are as many.
* `littleEndian width n` — the lowest `width` base-256 digits of `n`, lowest first.
* `ofLittleEndian b` — the number whose digits are `b`.
* `utf8 s`, `ofUtf8? b` — the octets of a text, and the text of valid octets.

## Main results

* `splitExactly?_append`, `eq_append_of_splitExactly?` — splitting undoes appending, and
  only that.
* `littleEndian_ofLittleEndian` — digits are written back as they were read.
* `ofUtf8?_eq_some_iff` — the octets of a text are the only ones that give it.
-/

namespace BulkDelivery

/-- A string of octets. -/
abbrev Bytes := List UInt8

/-! ### Runs of known length -/

/-- The first `n` octets of `b` and the rest, or nothing when `b` is shorter than `n`. -/
def splitExactly? (n : Nat) (b : Bytes) : Option (Bytes × Bytes) :=
  let front := b.take n
  if front.length = n then some (front, b.drop n) else none

theorem splitExactly?_append (front rest : Bytes) :
    splitExactly? front.length (front ++ rest) = some (front, rest) := by
  simp [splitExactly?]

theorem eq_append_of_splitExactly? {n : Nat} {b front rest : Bytes}
    (h : splitExactly? n b = some (front, rest)) : b = front ++ rest ∧ front.length = n := by
  unfold splitExactly? at h
  simp only at h
  split at h
  · rename_i hlen
    simp only [Option.some.injEq, Prod.mk.injEq] at h
    obtain ⟨rfl, rfl⟩ := h
    exact ⟨(List.take_append_drop n b).symm, hlen⟩
  · cases h

theorem splitExactly?_eq_none_iff {n : Nat} {b : Bytes} :
    splitExactly? n b = none ↔ b.length < n := by
  simp only [splitExactly?, List.length_take, ite_eq_right_iff, reduceCtorEq, imp_false]
  omega

/-! ### Numbers of fixed width -/

/-- The lowest `width` base-256 digits of `n`, lowest first.  Higher digits are lost. -/
def littleEndian : Nat → Nat → Bytes
  | 0, _ => []
  | width + 1, n => UInt8.ofNat n :: littleEndian width (n / 256)

/-- The number whose base-256 digits are given, lowest first. -/
def ofLittleEndian : Bytes → Nat
  | [] => 0
  | digit :: rest => digit.toNat + 256 * ofLittleEndian rest

@[simp] theorem length_littleEndian (width n : Nat) : (littleEndian width n).length = width := by
  induction width generalizing n with
  | zero => rfl
  | succ width ih => simp [littleEndian, ih]

theorem littleEndian_ofLittleEndian (b : Bytes) : littleEndian b.length (ofLittleEndian b) = b := by
  induction b with
  | nil => rfl
  | cons digit rest ih =>
    have hdigit := digit.toNat_lt
    have hlow : UInt8.ofNat (digit.toNat + 256 * ofLittleEndian rest) = digit := by
      apply UInt8.toNat_inj.1
      rw [UInt8.toNat_ofNat']
      omega
    have hhigh : (digit.toNat + 256 * ofLittleEndian rest) / 256 = ofLittleEndian rest := by omega
    rw [ofLittleEndian, List.length_cons, littleEndian, hlow, hhigh, ih]

/-! ### Text -/

/-- The octets of a text. -/
def utf8 (s : String) : Bytes :=
  s.toByteArray.data.toList

/-- The text with the given octets, if they are valid. -/
def ofUtf8? (b : Bytes) : Option String :=
  String.fromUTF8? ⟨b.toArray⟩

@[simp] theorem length_utf8 (s : String) : (utf8 s).length = s.utf8ByteSize := rfl

theorem ofUtf8?_utf8 (s : String) : ofUtf8? (utf8 s) = some s := by
  simp [ofUtf8?, utf8, String.fromUTF8?, String.fromUTF8, s.isValidUTF8]

theorem ofUtf8?_eq_some_iff {b : Bytes} {s : String} : ofUtf8? b = some s ↔ b = utf8 s := by
  constructor
  · intro h
    simp only [ofUtf8?, String.fromUTF8?, Option.dite_none_right_eq_some, Option.some.injEq] at h
    obtain ⟨_, rfl⟩ := h
    simp [utf8, String.fromUTF8]
  · rintro rfl
    exact ofUtf8?_utf8 s

end BulkDelivery
