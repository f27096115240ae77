import BulkDelivery.Proofs.Format.Operation
import BulkDelivery.Proofs.Format.Readers

/-!
# Operations that were cut off or extended

Reading a field looks no further than the field reaches.  So if a byte string is cut off, what is
read from it is the same up to the field in which the cut lies, and this field finds that data is
missing.  Together with the fact that an operation is read from its encoding and from nothing else,
this tells what becomes of every byte string that begins as an encoding does: it is too short, it
is the encoding, or something follows.

## Main definitions

* `Draw.ReadsFront` — a reader takes something from the front and looks no further.

## Main results

* `Draw.ReadsFront.bind` — readers of the front may follow one another.
* `Operation.readsFront_read` — an operation is read from the front.
* `Operation.decode_exactly_encodings` — **the encodings of operations are what is read, and what is
  shorter or longer is refused for this reason.**
-/

namespace BulkDelivery

namespace Draw

variable {α β : Type}

/-- A reader takes something from the front of a byte string and looks no further.  If the string is
cut off behind what is taken, the same is read; if it is cut off before that, data is missing. -/
structure ReadsFront (read : Bytes → Except DecodeError (α × Bytes)) : Prop where
  takes : ∀ b a rest, read b = .ok (a, rest) → rest.length ≤ b.length
  cut : ∀ front back a rest, read (front ++ back) = .ok (a, rest) →
    (rest.length < back.length ∧ read front = .error .insufficientData) ∨
      ∃ rest', rest = rest' ++ back ∧ read front = .ok (a, rest')

theorem readsFront_pure (a : α) : ReadsFront fun b => pure (a, b) where
  takes := by
    intro b a' rest h
    rw [Except.pure_eq_ok_iff, Prod.mk.injEq] at h
    exact Nat.le_of_eq (by rw [h.2])
  cut := by
    intro front back a' rest h
    rw [Except.pure_eq_ok_iff, Prod.mk.injEq] at h
    obtain ⟨rfl, rfl⟩ := h
    exact .inr ⟨front, rfl, rfl⟩

theorem readsFront_throw (e : DecodeError) :
    ReadsFront fun _ => (throw e : Except DecodeError (α × Bytes)) where
  takes := by
    intro b a rest h
    cases h
  cut := by
    intro front back a rest h
    cases h

theorem readsFront_drawBytes (n : Nat) : ReadsFront (drawBytes n) where
  takes := by
    intro b drawn rest h
    obtain ⟨rfl, -⟩ := drawBytes_eq_ok_iff.1 h
    rw [List.length_append]
    omega
  cut := by
    intro front back drawn rest h
    obtain ⟨hsplit, hlen⟩ := drawBytes_eq_ok_iff.1 h
    have hlength := congrArg List.length hsplit
    rw [List.length_append, List.length_append] at hlength
    by_cases hshort : front.length < n
    · refine .inl ⟨by omega, ?_⟩
      rw [drawBytes, splitExactly?_eq_none_iff.2 hshort]
    · -- what is drawn ends before the cut
      obtain ⟨rest', rfl⟩ : drawn <+: front :=
        List.prefix_of_prefix_length_le ⟨rest, hsplit.symm⟩ ⟨back, rfl⟩ (by omega)
      rw [List.append_assoc, List.append_cancel_left_eq] at hsplit
      exact .inr ⟨rest', hsplit.symm, drawBytes_eq_ok_iff.2 ⟨rfl, hlen⟩⟩

/-- Readers of the front may follow one another. -/
theorem ReadsFront.bind {read : Bytes → Except DecodeError (α × Bytes)}
    {next : α × Bytes → Except DecodeError (β × Bytes)} (hread : ReadsFront read)
    (hnext : ∀ a, ReadsFront fun s => next (a, s)) : ReadsFront fun b => read b >>= next where
  takes := by
    intro b c rest h
    obtain ⟨⟨a, s⟩, hfirst, hsecond⟩ := Except.bind_eq_ok_iff.1 h
    exact Nat.le_trans ((hnext a).takes s c rest hsecond) (hread.takes b a s hfirst)
  cut := by
    intro front back c rest h
    obtain ⟨⟨a, s⟩, hfirst, hsecond⟩ := Except.bind_eq_ok_iff.1 h
    rcases hread.cut front back a s hfirst with ⟨hshort, hmissing⟩ | ⟨s', rfl, hfront⟩
    · -- the cut lies in what is read first
      have hless : rest.length ≤ s.length := (hnext a).takes s c rest hsecond
      exact .inl ⟨Nat.lt_of_le_of_lt hless hshort, by rw [hmissing]; rfl⟩
    · rw [hfront]
      exact (hnext a).cut s' back c rest hsecond

theorem compositional_readsFront :
    Compositional drawBytes drawBytes fun _ read _ => ReadsFront read where
  draws := readsFront_drawBytes
  gives _ := readsFront_pure
  refuses _ e _ := readsFront_throw e
  follows hread hnext := hread.bind hnext

end Draw

namespace Operation

open Draw

/-- An operation is read from the front. -/
theorem readsFront_read : ReadsFront (read drawBytes) :=
  compositional_readsFront.operation

variable {o : Operation} {b : Bytes}

theorem decode_eq_ok_iff : decode b = .ok o ↔ b = o.encode ∧ o.Fits := by
  constructor
  · exact eq_encode_of_decode
  · rintro ⟨rfl, hfits⟩
    exact decode_encode hfits

/-- Data is missing from a proper beginning of an encoding. -/
theorem decode_of_append_eq_encode {back : Bytes} (hfits : o.Fits) (h : o.encode = b ++ back)
    (hback : back ≠ []) : decode b = .error .insufficientData := by
  have hread : read drawBytes (b ++ back) = .ok (o, []) :=
    read_eq_ok_iff.2 ⟨by rw [← h, List.append_nil], hfits⟩
  rcases readsFront_read.cut b back o [] hread with ⟨-, hmissing⟩ | ⟨rest', hrest, -⟩
  · rw [decode, hmissing]
    rfl
  · exact absurd (List.append_eq_nil_iff.1 hrest.symm).2 hback

/-- What follows an encoding is counted and refused. -/
theorem decode_of_encode_append (hfits : o.Fits) (hb : b ≠ []) :
    decode (o.encode ++ b) = .error (.malformed (.afterOperation b.length)) := by
  have hread : read drawBytes (o.encode ++ b) = .ok (o, b) := read_eq_ok_iff.2 ⟨rfl, hfits⟩
  have hmore : b.isEmpty = false := by simpa using hb
  rw [decode, hread]
  show (if b.isEmpty then _ else _) = _
  rw [hmore]
  rfl

/-- **The encodings of operations are what is read, and what is shorter or longer is refused for
this reason.**

A byte string is read as an operation if and only if it is the operation's encoding and its target
and its payload are each shorter than 2^32 octets.  An encoding is as long as the size of the
operation says.  Of the proper beginnings of an encoding that can be read, every one is refused
because data is missing; and of its proper extensions, every one because something follows. -/
theorem decode_exactly_encodings (b : Bytes) (o : Operation) :
    (decode b = .ok o ↔
      b = o.encode ∧ o.target.utf8ByteSize < 2 ^ 32 ∧ o.payloadLength < 2 ^ 32) ∧
    o.size = o.encode.length ∧
    (o.target.utf8ByteSize < 2 ^ 32 → o.payloadLength < 2 ^ 32 →
      (∀ front back : Bytes, o.encode = front ++ back → back ≠ [] →
        decode front = .error .insufficientData) ∧
      ∀ more : Bytes, more ≠ [] →
        decode (o.encode ++ more) = .error (.malformed (.afterOperation more.length))) := by
  refine ⟨?_, o.length_encode.symm, ?_⟩
  · rw [decode_eq_ok_iff]
    exact and_congr_right fun _ => ⟨fun h => ⟨h.target, h.payload⟩, fun h => ⟨h.1, h.2⟩⟩
  · intro htarget hpayload
    have hfits : o.Fits := ⟨htarget, hpayload⟩
    exact ⟨fun front back => decode_of_append_eq_encode hfits,
      fun more => decode_of_encode_append hfits⟩

/-- An update with negative retries and an empty payload.  A cut in the middle of a character of its
target is seen as missing data, not as invalid text. -/
theorem decode_exactly_encodings_within_character :
    let o : Operation :=
      { action := .update, target := "a☂", payload := some [], conflictRetries := -2 }
    (o.target.utf8ByteSize < 2 ^ 32 ∧ o.payloadLength < 2 ^ 32) ∧ decode o.encode = .ok o ∧
      o.encode.take 11 = [3, 254, 255, 255, 255, 4, 0, 0, 0, 97, 226] ∧
      decode (o.encode.take 11) = .error .insufficientData ∧
      decode (o.encode ++ [0, 0]) = .error (.malformed (.afterOperation 2)) := by
  intro o
  have htarget : o.target.utf8ByteSize < 2 ^ 32 := by decide +kernel
  have hpayload : o.payloadLength < 2 ^ 32 := by decide +kernel
  obtain ⟨hdecode, -, hrefused⟩ := decode_exactly_encodings o.encode o
  obtain ⟨hcut, hextended⟩ := hrefused htarget hpayload
  exact ⟨⟨htarget, hpayload⟩, hdecode.2 ⟨rfl, htarget, hpayload⟩, by decide +kernel,
    hcut _ _ (List.take_append_drop 11 o.encode).symm (by decide +kernel),
    hextended [0, 0] (by decide)⟩

end Operation

end BulkDelivery
