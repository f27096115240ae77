import BulkDelivery.Operation.Encoding
import BulkDelivery.Proofs.Format.Numbers

/-!
# The stored form of an operation

Reading an operation from the front of a byte string undoes writing it, and only that: what is
read is what was written there, provided that the lengths of its fields fit their width.

## Main definitions

* `Operation.Fits` — the fields of an operation fit the width of their lengths.

## Main results

* `Operation.read_eq_ok_iff` — **an operation is read from its encoding and from nothing else.**
* `Operation.decode_encode`, `Operation.eq_encode_of_decode` — the same for a byte string that
  holds one operation.
-/

namespace BulkDelivery

namespace Operation

/-- The fields of an operation fit the width of their lengths. -/
structure Fits (o : Operation) : Prop where
  target : o.target.utf8ByteSize < 2 ^ 32
  payload : o.payloadLength < 2 ^ 32

theorem fits_of_length_encode {o : Operation} (h : o.encode.length < 2 ^ 32) : o.Fits := by
  rw [length_encode] at h
  unfold size at h
  constructor
  · omega
  · unfold payloadLength
    cases hpayload : o.payload with
    | none => simp
    | some p =>
      simp only [hpayload] at h
      simp only [Option.map_some, Option.getD_some]
      omega

theorem readPayload_eq_ok_iff {b rest : Bytes} {payload : Option Bytes} :
    readPayload drawBytes b = .ok (payload, rest) ↔
      b = encodePayload payload ++ rest ∧ (payload.map List.length).getD 0 < 2 ^ 32 := by
  simp only [readPayload, Except.bind_eq_ok_iff, Prod.exists, Draw.octet_eq_ok_iff]
  constructor
  · rintro ⟨flag, b', rfl, h⟩
    -- the flag is zero, one or invalid
    by_cases hnone : flag = 0
    · rw [if_pos hnone, Except.pure_eq_ok_iff, Prod.mk.injEq] at h
      obtain ⟨rfl, rfl⟩ := h
      exact ⟨by rw [hnone]; rfl, by simp⟩
    rw [if_neg hnone] at h
    by_cases hsome : flag = 1
    · rw [if_pos hsome] at h
      simp only [Except.bind_eq_ok_iff, Except.pure_eq_ok_iff, Prod.exists,
        Draw.number_eq_ok_iff, drawBytes_eq_ok_iff, Prod.mk.injEq] at h
      obtain ⟨n, _, ⟨rfl, hlt⟩, p, _, ⟨rfl, rfl⟩, rfl, rfl⟩ := h
      rw [length_width] at hlt
      exact ⟨by simp [hsome, encodePayload], by simpa using hlt⟩
    · rw [if_neg hsome] at h
      cases h
  · rintro ⟨rfl, hlt⟩
    cases payload with
    | none => exact ⟨0, rest, rfl, rfl⟩
    | some p =>
      refine ⟨1, littleEndian 4 p.length ++ p ++ rest, rfl, ?_⟩
      rw [if_neg (by decide), if_pos rfl]
      simp only [Except.bind_eq_ok_iff, Except.pure_eq_ok_iff, Prod.exists,
        Draw.number_eq_ok_iff, drawBytes_eq_ok_iff, Prod.mk.injEq]
      refine ⟨p.length, p ++ rest, ⟨List.append_assoc _ _ _, ?_⟩, p, rest, ⟨rfl, rfl⟩, rfl, rfl⟩
      rw [length_width]
      simpa using hlt

theorem conflictRetries_ofNat {n : Nat} (h : n < 256 ^ 4) :
    (UInt32.ofNat n).toInt32.toUInt32.toNat = n := by
  rw [length_width] at h
  simpa using h

/-- **An operation is read from its encoding and from nothing else.** -/
theorem read_eq_ok_iff {b rest : Bytes} {o : Operation} :
    read drawBytes b = .ok (o, rest) ↔ b = o.encode ++ rest ∧ o.Fits := by
  simp only [read, Except.bind_eq_ok_iff, Prod.exists, Draw.octet_eq_ok_iff]
  constructor
  · rintro ⟨tag, b', rfl, h⟩
    cases htag : Action.ofTag? tag with
    | none =>
      rw [htag] at h
      cases h
    | some action =>
      simp only [htag, Except.bind_eq_ok_iff, Prod.exists, Draw.number_eq_ok_iff,
        drawBytes_eq_ok_iff] at h
      -- the retry count, then the target behind its length, then the payload
      obtain ⟨retries, _, ⟨rfl, hretries⟩, n, _, ⟨rfl, hlt⟩, octets, _, ⟨rfl, rfl⟩, h⟩ := h
      cases htext : ofUtf8? octets with
      | none =>
        rw [htext] at h
        cases h
      | some target =>
        simp only [htext, Except.bind_eq_ok_iff, Except.pure_eq_ok_iff, Prod.exists,
          readPayload_eq_ok_iff, Prod.mk.injEq] at h
        obtain ⟨payload, _, ⟨rfl, hpayload⟩, rfl, rfl⟩ := h
        rw [ofUtf8?_eq_some_iff] at htext
        rw [htext, length_utf8, length_width] at hlt
        rw [Action.ofTag?_eq_some_iff] at htag
        refine ⟨?_, hlt, hpayload⟩
        rw [htag, htext]
        simp only [encode, conflictRetries_ofNat hretries, length_utf8, List.cons_append,
          List.append_assoc]
  · rintro ⟨rfl, htarget, hpayload⟩
    refine ⟨o.action.tag, _, rfl, ?_⟩
    simp only [Action.ofTag?_tag, Except.bind_eq_ok_iff, Prod.exists, Draw.number_eq_ok_iff,
      drawBytes_eq_ok_iff]
    refine ⟨o.conflictRetries.toUInt32.toNat, _, ⟨List.append_assoc _ _ _, ?_⟩,
      o.target.utf8ByteSize, _, ⟨List.append_assoc _ _ _, ?_⟩,
      utf8 o.target, _, ⟨List.append_assoc _ _ _, length_utf8 _⟩, ?_⟩
    · rw [length_width]
      exact o.conflictRetries.toUInt32.toNat_lt
    · rw [length_width]
      exact htarget
    · simp only [ofUtf8?_utf8, Except.bind_eq_ok_iff, Except.pure_eq_ok_iff, Prod.exists,
        readPayload_eq_ok_iff, Prod.mk.injEq]
      exact ⟨o.payload, rest, ⟨rfl, hpayload⟩, by simp, rfl⟩

theorem decode_encode {o : Operation} (h : o.Fits) : decode o.encode = .ok o := by
  have hread : read drawBytes o.encode = .ok (o, []) :=
    read_eq_ok_iff.2 ⟨(List.append_nil _).symm, h⟩
  simp only [decode, Except.bind_eq_ok_iff]
  exact ⟨(o, []), hread, rfl⟩

theorem eq_encode_of_decode {b : Bytes} {o : Operation} (h : decode b = .ok o) :
    b = o.encode ∧ o.Fits := by
  simp only [decode, Except.bind_eq_ok_iff, Prod.exists, read_eq_ok_iff] at h
  obtain ⟨o', rest, ⟨rfl, hfits⟩, h⟩ := h
  cases rest with
  | nil =>
    rw [List.isEmpty_nil, if_pos rfl, Except.pure_eq_ok_iff] at h
    rw [← h, List.append_nil]
    exact ⟨rfl, hfits⟩
  | cons x rest => cases h

end Operation

end BulkDelivery
