import BulkDelivery.Checkpoint
import BulkDelivery.Proofs.Format.Operation

/-!
# The stored form of a checkpoint

The stored form of a checkpoint repeats itself: the number of operations, the length of each, the
sum of their sizes and the checksum all follow from the operations.  Reading pins each of them
down, so a byte string is the stored form of one checkpoint at most, and a checkpoint is read from
its stored form and from nothing else.

## Main definitions

* `Checkpoint.Fits` — the operations of a checkpoint can be counted and framed.

## Main results

* `Checkpoint.readFrames_eq_ok_iff`, `Checkpoint.decodeContent_eq_ok_iff` — the same for the parts.
* `Checkpoint.decode_eq_ok_iff_content` — what encloses the content.
* `Checkpoint.decode_eq_ok_iff_encode` — **the stored form is exact and canonical.**
-/

namespace BulkDelivery

namespace Checkpoint

/-- The operations of a checkpoint can be counted and framed in four octets. -/
structure Fits (c : Checkpoint) : Prop where
  count : c.operations.length < 2 ^ 32
  frames : ∀ o ∈ c.operations, o.encode.length < 2 ^ 32

/-! ### Frames -/

theorem readFrame_eq_ok_iff {b rest : Bytes} {o : Operation} :
    readFrame b = .ok (o, rest) ↔ b = frame o ++ rest ∧ o.encode.length < 2 ^ 32 := by
  simp only [readFrame, Except.bind_eq_ok_iff, Except.pure_eq_ok_iff, Prod.exists,
    Draw.number_eq_ok_iff, drawBytes_eq_ok_iff, Prod.mk.injEq]
  constructor
  · rintro ⟨n, _, ⟨rfl, hlt⟩, octets, _, ⟨rfl, rfl⟩, o', hdecode, rfl, rfl⟩
    obtain ⟨rfl, -⟩ := Operation.eq_encode_of_decode hdecode
    rw [length_width] at hlt
    exact ⟨by rw [frame, List.append_assoc], hlt⟩
  · rintro ⟨rfl, hlt⟩
    have hdecode := Operation.decode_encode (Operation.fits_of_length_encode hlt)
    refine ⟨o.encode.length, o.encode ++ rest, ⟨List.append_assoc _ _ _, ?_⟩,
      o.encode, rest, ⟨rfl, rfl⟩, o, hdecode, rfl, rfl⟩
    rw [length_width]
    exact hlt

theorem readFrames_eq_ok_iff {n : Nat} {b rest : Bytes} {os : List Operation} :
    readFrames n b = .ok (os, rest) ↔
      os.length = n ∧ b = os.flatMap frame ++ rest ∧ ∀ o ∈ os, o.encode.length < 2 ^ 32 := by
  induction n generalizing b rest os with
  | zero =>
    simp only [readFrames, Except.ok.injEq, Prod.mk.injEq, List.length_eq_zero_iff]
    constructor
    · rintro ⟨rfl, rfl⟩
      exact ⟨rfl, rfl, by simp⟩
    · rintro ⟨rfl, rfl, -⟩
      exact ⟨rfl, rfl⟩
  | succ n ih =>
    simp only [readFrames, Except.bind_eq_ok_iff, Except.pure_eq_ok_iff, Prod.exists,
      readFrame_eq_ok_iff, ih, Prod.mk.injEq]
    constructor
    · rintro ⟨o, _, ⟨rfl, hlt⟩, os, _, ⟨rfl, rfl, hall⟩, rfl, rfl⟩
      refine ⟨rfl, by rw [List.flatMap_cons, List.append_assoc], ?_⟩
      intro o' ho'
      rcases List.mem_cons.1 ho' with rfl | ho'
      · exact hlt
      · exact hall o' ho'
    · rintro ⟨hlen, rfl, hall⟩
      cases os with
      | nil => simp at hlen
      | cons o os =>
        rw [List.length_cons, Nat.add_right_cancel_iff] at hlen
        refine ⟨o, os.flatMap frame ++ rest, ⟨?_, hall o List.mem_cons_self⟩, os, rest,
          ⟨hlen, rfl, fun o' ho' => hall o' (List.mem_cons_of_mem _ ho')⟩, rfl, rfl⟩
        rw [List.flatMap_cons, List.append_assoc]

/-! ### The content -/

theorem byteTotal_le {os : List Operation} (h : ∀ o ∈ os, o.encode.length < 2 ^ 32) :
    byteTotal { operations := os } ≤ os.length * 2 ^ 32 := by
  induction os with
  | nil => exact Nat.le_refl 0
  | cons o os ih =>
    obtain ⟨ho, hrest⟩ := List.forall_mem_cons.1 h
    have hlater := ih hrest
    rw [Operation.length_encode] at ho
    show o.size + byteTotal { operations := os } ≤ (os.length + 1) * 2 ^ 32
    omega

/-- The sum of the sizes fits the eight octets it is written in. -/
theorem Fits.byteTotal_lt {c : Checkpoint} (h : c.Fits) : c.byteTotal < 256 ^ 8 := by
  have hsum := byteTotal_le h.frames
  have hcount := h.count
  calc c.byteTotal ≤ c.operations.length * 2 ^ 32 := hsum
    _ < 2 ^ 32 * 2 ^ 32 := by omega
    _ = 256 ^ 8 := by decide

theorem decodeContent_eq_ok_iff {b : Bytes} {c : Checkpoint} :
    decodeContent b = .ok c ↔ b = c.content ∧ c.Fits := by
  simp only [decodeContent, Except.bind_eq_ok_iff, Prod.exists, Draw.number_eq_ok_iff,
    readFrames_eq_ok_iff]
  constructor
  · rintro ⟨count, _, ⟨rfl, hcount⟩, os, _, ⟨rfl, rfl, hframes⟩, recorded, rest, ⟨rfl, -⟩, h⟩
    cases rest with
    | cons x rest => cases h
    | nil =>
      -- the number that was read back is the sum, or reading fails
      by_cases htotal : ({ operations := os } : Checkpoint).byteTotal = recorded
      · simp only [List.isEmpty_nil, Bool.not_true, Bool.false_eq_true, if_false, htotal, ne_eq,
          not_true_eq_false, Except.pure_eq_ok_iff] at h
        rw [length_width] at hcount
        subst h
        refine ⟨?_, hcount, hframes⟩
        rw [content, htotal, List.append_nil]
      · simp only [List.isEmpty_nil, Bool.not_true, Bool.false_eq_true, if_false, ne_eq, htotal,
          not_false_eq_true, if_true] at h
        cases h
  · rintro ⟨rfl, hfits⟩
    refine ⟨c.operations.length, _, ⟨rfl, ?_⟩, c.operations, _, ⟨rfl, rfl, hfits.frames⟩,
      c.byteTotal, [], ⟨(List.append_nil _).symm, hfits.byteTotal_lt⟩, ?_⟩
    · rw [length_width]
      exact hfits.count
    · have htotal : ({ operations := c.operations } : Checkpoint).byteTotal = c.byteTotal := rfl
      simp [htotal, Except.pure_eq_ok_iff]

/-! ### What encloses the content -/

theorem length_withChecksum (x : Bytes) : (withChecksum x).length = x.length + 4 := by
  simp [withChecksum]

/-- The checksum at the end of a byte string is right if and only if the string is what precedes
it, sealed. -/
theorem stored_eq_crc32_iff {x y : Bytes} (hy : y.length = 4) :
    BitVec.ofNat 32 (ofLittleEndian y) = crc32 x ↔ x ++ y = withChecksum x := by
  rw [withChecksum, List.append_cancel_left_eq]
  have hlt := ofLittleEndian_lt y
  rw [hy, length_width] at hlt
  constructor
  · intro h
    rw [← h, BitVec.toNat_ofNat, Nat.mod_eq_of_lt hlt, ← hy, littleEndian_ofLittleEndian]
  · rintro rfl
    rw [ofLittleEndian_littleEndian, length_width, Nat.mod_eq_of_lt (crc32 x).isLt,
      BitVec.ofNat_toNat, BitVec.setWidth_eq]

theorem length_content (c : Checkpoint) : 12 ≤ c.content.length := by
  simp only [content, List.length_append, length_littleEndian]
  omega

/-- A checkpoint is read from a content between the magic, the version and the checksum. -/
theorem decode_eq_ok_iff_content {b : Bytes} {c : Checkpoint} :
    decode b = .ok c ↔
      ∃ x, b = withChecksum (magic ++ version :: x) ∧ decodeContent x = .ok c := by
  constructor
  · intro h
    unfold decode at h
    -- one check after the other is passed
    split at h
    · cases h
    rename_i hlen
    split at h
    · cases h
    rename_i hmagic
    have hlen : 21 ≤ b.length := Nat.not_lt.1 hlen
    have hmagic : b.take 4 = magic := by simpa using hmagic
    simp only at h
    split at h
    · cases h
    rename_i hstored
    split at h
    · cases h
    rename_i hversion
    -- the enclosed part is the magic, the version and the content
    have htake : (b.take (b.length - 4)).take 4 = magic := by
      rw [List.take_take, Nat.min_eq_left (by omega), hmagic]
    obtain ⟨v, x, hdrop⟩ : ∃ v x, (b.take (b.length - 4)).drop 4 = v :: x := by
      refine List.exists_cons_of_ne_nil fun hnil => ?_
      have hshort := congrArg List.length hnil
      simp only [List.length_drop, List.length_take, List.length_nil] at hshort
      omega
    have hrest : (b.take (b.length - 4)).drop 5 = x := by
      have hsucc : (b.take (b.length - 4)).drop (4 + 1) = ((b.take (b.length - 4)).drop 4).drop 1 :=
        (List.drop_drop).symm
      rw [hsucc, hdrop]
      rfl
    have hv : v = version := by simpa [hdrop] using hversion
    have henclosed : b.take (b.length - 4) = magic ++ version :: x := by
      rw [← List.take_append_drop 4 (b.take (b.length - 4)), htake, hdrop, hv]
    have hsealed := (stored_eq_crc32_iff (by rw [List.length_drop]; omega)).1 (not_not.1 hstored)
    rw [List.take_append_drop] at hsealed
    refine ⟨x, ?_, ?_⟩
    · rw [← henclosed]
      exact hsealed
    · rw [← hrest]
      exact h
  · rintro ⟨x, rfl, hx⟩
    have hcontent : 12 ≤ x.length := by
      rw [(decodeContent_eq_ok_iff.1 hx).1]
      exact length_content c
    have hlen : (magic ++ version :: x).length = x.length + 5 := by simp [magic]
    have htotal : (withChecksum (magic ++ version :: x)).length = x.length + 9 := by
      rw [length_withChecksum, hlen]
    have hmagic : (withChecksum (magic ++ version :: x)).take 4 = magic := rfl
    have hfront : (withChecksum (magic ++ version :: x)).take (x.length + 9 - 4)
        = magic ++ version :: x := by
      rw [withChecksum, List.take_left' (by rw [hlen]; omega)]
    have hback : (withChecksum (magic ++ version :: x)).drop (x.length + 9 - 4)
        = littleEndian 4 (crc32 (magic ++ version :: x)).toNat := by
      rw [withChecksum, List.drop_left' (by rw [hlen]; omega)]
    have hstored := (stored_eq_crc32_iff (length_littleEndian 4 _)).2
      (rfl : (magic ++ version :: x) ++ littleEndian 4 (crc32 (magic ++ version :: x)).toNat
        = withChecksum (magic ++ version :: x))
    have hversion : ((magic ++ version :: x).drop 4).headD 0 = version := rfl
    have hrest : (magic ++ version :: x).drop 5 = x := rfl
    unfold decode
    rw [if_neg (by rw [htotal, minLength]; omega), if_neg (by rw [hmagic]; simp)]
    simp only [htotal, hfront, hback, hstored, hversion, hrest, ne_eq, not_true_eq_false, if_false]
    exact hx

/-! ### The whole -/

theorem decode_encode {c : Checkpoint} (h : c.Fits) : decode c.encode = .ok c :=
  decode_eq_ok_iff_content.2 ⟨c.content, rfl, decodeContent_eq_ok_iff.2 ⟨rfl, h⟩⟩

theorem eq_encode_of_decode {b : Bytes} {c : Checkpoint} (h : decode b = .ok c) :
    b = c.encode ∧ c.Fits := by
  obtain ⟨x, rfl, hx⟩ := decode_eq_ok_iff_content.1 h
  obtain ⟨rfl, hfits⟩ := decodeContent_eq_ok_iff.1 hx
  exact ⟨rfl, hfits⟩

/-- **The stored form is exact and canonical.**  A byte string is read as a checkpoint if and only
if it is the stored form of that checkpoint and the number of operations and the length of each
encoding fit four octets.  So every such checkpoint comes back unchanged, its total included, and
what is read is written back octet by octet. -/
theorem decode_eq_ok_iff_encode (b : Bytes) (c : Checkpoint) :
    (decode b = .ok c ↔ b = c.encode ∧ c.operations.length < 2 ^ 32 ∧
      ∀ o ∈ c.operations, o.encode.length < 2 ^ 32) ∧
    (c.Fits → ∃ c', decode c.encode = .ok c' ∧ c'.operations = c.operations ∧
      c'.byteTotal = c.byteTotal) ∧
    (decode b = .ok c → c.encode = b) := by
  refine ⟨⟨?_, ?_⟩, ?_, ?_⟩
  · intro h
    obtain ⟨hb, hfits⟩ := eq_encode_of_decode h
    exact ⟨hb, hfits.count, hfits.frames⟩
  · rintro ⟨rfl, hcount, hframes⟩
    exact decode_encode ⟨hcount, hframes⟩
  · intro hfits
    exact ⟨c, decode_encode hfits, rfl, rfl⟩
  · intro h
    exact (eq_encode_of_decode h).1.symm

end Checkpoint

end BulkDelivery
