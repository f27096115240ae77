import BulkDelivery.Proofs.Format.Checkpoint
import BulkDelivery.Proofs.Format.Checksum

/-!
# Damage to a stored checkpoint

A stored form leaves the residue in the register, and so does every byte string whose last four
octets are its checksum.  Two strings of the same length that both leave it, and differ inside four
consecutive octets only, do not differ at all.  So damage of this kind is always reported: as a bad
magic if it touches the magic, which is looked at first, and as a wrong checksum otherwise, even
if it touches nothing but the checksum.

## Main definitions

* `Checkpoint.covered`, `Checkpoint.storedChecksum` — the parts that are compared.

## Main results

* `Checkpoint.storedChecksum_eq_iff` — the checksum is right if and only if the residue is left.
* `Checkpoint.decode_damaged` — **damage within four consecutive octets is reported.**
-/

namespace BulkDelivery

namespace Checkpoint

open Crc32

/-- What the checksum at the end of a byte string is computed from. -/
def covered (b : Bytes) : Bytes :=
  b.take (b.length - 4)

/-- The checksum at the end of a byte string. -/
def storedChecksum (b : Bytes) : BitVec 32 :=
  word (b.drop (b.length - 4))

variable {b : Bytes} {c : Checkpoint}

/-! ### The checks in their order -/

theorem decode_of_magic_ne (hlen : minLength ≤ b.length) (hmagic : b.take 4 ≠ magic) :
    decode b = .error (.badMagic (b.take 4)) := by
  rw [decode, if_neg (Nat.not_lt.2 hlen), if_pos hmagic]

theorem decode_of_checksum_ne (hlen : minLength ≤ b.length) (hmagic : b.take 4 = magic)
    (hsum : storedChecksum b ≠ crc32 (covered b)) :
    decode b = .error (.checksumMismatch (storedChecksum b) (crc32 (covered b))) := by
  rw [decode, if_neg (Nat.not_lt.2 hlen), if_neg (not_not.2 hmagic)]
  exact if_pos hsum

/-! ### What a stored form leaves in the register -/

/-- The checksum is right if and only if the residue is left. -/
theorem storedChecksum_eq_iff (hlen : 4 ≤ b.length) :
    storedChecksum b = crc32 (covered b) ↔ register (BitVec.allOnes 32) b = residue := by
  have hlast : (b.drop (b.length - 4)).length = 4 := by rw [List.length_drop]; omega
  have hsplit : register (BitVec.allOnes 32) b =
      register (register (BitVec.allOnes 32) (covered b)) (b.drop (b.length - 4)) := by
    rw [← register_append, covered, List.take_append_drop]
  rw [hsplit, register_eq_residue_iff hlast]
  rfl

theorem minLength_le_length_encode (c : Checkpoint) : minLength ≤ c.encode.length := by
  have hcontent := length_content c
  simp only [encode, length_withChecksum, body, List.length_append, List.length_cons, magic,
    List.length_nil, minLength]
  omega

theorem take_encode (c : Checkpoint) : c.encode.take 4 = magic := rfl

theorem register_encode (c : Checkpoint) :
    register (BitVec.allOnes 32) c.encode = residue := by
  have hword : word (littleEndian 4 (crc32 c.body).toNat) = crc32 c.body :=
    (stored_eq_crc32_iff (length_littleEndian 4 _)).2 rfl
  rw [encode, withChecksum, register_append, register_eq_residue_iff (length_littleEndian 4 _),
    hword, crc32]

/-! ### Damage -/

theorem take_congr {b b' : Bytes} {n : Nat} (h : ∀ i < n, b[i]? = b'[i]?) :
    b.take n = b'.take n := by
  apply List.ext_getElem?
  intro i
  rw [List.getElem?_take, List.getElem?_take]
  split
  · next hi => exact h i hi
  · rfl

/-- A string that leaves the residue and differs from a stored form inside four consecutive octets
only is that stored form. -/
theorem eq_encode_of_register {k : Nat} (hlen : b.length = c.encode.length)
    (houtside : ∀ i : Nat, i < k ∨ k + 4 ≤ i → b[i]? = c.encode[i]?)
    (h : register (BitVec.allOnes 32) b = residue) : b = c.encode := by
  have htake : b.take k = c.encode.take k := take_congr fun i hi => houtside i (.inl hi)
  have hdrop : b.drop (k + 4) = c.encode.drop (k + 4) := by
    apply List.ext_getElem?
    intro i
    rw [List.getElem?_drop, List.getElem?_drop]
    exact houtside (k + 4 + i) (.inr (by omega))
  -- both are the same octets around a window
  have hwindow : ∀ d : Bytes, d = d.take k ++ ((d.drop k).take 4 ++ d.drop (k + 4)) := by
    intro d
    rw [← List.drop_drop, List.take_append_drop, List.take_append_drop]
  have hwidth : ((b.drop k).take 4).length = ((c.encode.drop k).take 4).length := by
    simp only [List.length_take, List.length_drop, hlen]
  rw [hwindow b, htake, hdrop, ← register_encode c] at h
  conv at h => rhs; rw [hwindow c.encode]
  have hsame := eq_of_register_append hwidth (List.length_take_le 4 _) h
  rw [hwindow b, htake, hdrop, hsame, ← hwindow c.encode]

/-- **Damage within four consecutive octets is reported.**  Wherever the four octets stand, in the
magic, in the body, in the checksum or across their borders, a byte string that differs from a
stored form inside them only is refused, for its magic if that has changed, and for its checksum
if not. -/
theorem decode_damaged (c : Checkpoint) (b : Bytes) (k : Nat)
    (hlen : b.length = c.encode.length)
    (houtside : ∀ i : Nat, i < k ∨ k + 4 ≤ i → b[i]? = c.encode[i]?)
    (hdamaged : ∃ i : Nat, b[i]? ≠ c.encode[i]?) :
    ((∃ i < 4, b[i]? ≠ c.encode[i]?) → decode b = .error (.badMagic (b.take 4))) ∧
    ((∀ i < 4, b[i]? = c.encode[i]?) →
      decode b = .error (.checksumMismatch (storedChecksum b) (crc32 (covered b)))) := by
  have hmin : minLength ≤ b.length := hlen ▸ minLength_le_length_encode c
  constructor
  · rintro ⟨i, hi, hchanged⟩
    refine decode_of_magic_ne hmin fun hmagic => hchanged ?_
    rw [← take_encode c] at hmagic
    have hoctet := congrArg (·[i]?) hmagic
    simpa [List.getElem?_take, hi] using hoctet
  · intro hkept
    have hmagic : b.take 4 = magic := (take_congr hkept).trans (take_encode c)
    refine decode_of_checksum_ne hmin hmagic fun hsum => ?_
    obtain ⟨i, hi⟩ := hdamaged
    have hfour : 4 ≤ b.length := Nat.le_trans (by decide) hmin
    have hregister := (storedChecksum_eq_iff hfour).1 hsum
    exact hi (by rw [eq_encode_of_register hlen houtside hregister])

/-- The last octet of a body and the first of its checksum are damaged. -/
theorem decode_damaged_across_border :
    let c : Checkpoint := { operations := [.index "a" [7], .delete "b"] }
    let b := (c.encode.set 51 1).set 52 0
    b.length = c.encode.length ∧ (∀ i : Nat, i < 50 ∨ 50 + 4 ≤ i → b[i]? = c.encode[i]?) ∧
      (∃ i : Nat, b[i]? ≠ c.encode[i]?) ∧ (∀ i < 4, b[i]? = c.encode[i]?) ∧
      decode b = .error (.checksumMismatch (storedChecksum b) (crc32 (covered b))) := by
  intro c b
  have hlen : b.length = c.encode.length := by rw [List.length_set, List.length_set]
  have houtside : ∀ i : Nat, i < 50 ∨ 50 + 4 ≤ i → b[i]? = c.encode[i]? := by
    intro i hi
    rw [List.getElem?_set_ne (by omega), List.getElem?_set_ne (by omega)]
  have hdamaged : ∃ i : Nat, b[i]? ≠ c.encode[i]? := ⟨52, by decide +kernel⟩
  have hkept : ∀ i < 4, b[i]? = c.encode[i]? := fun i hi => houtside i (.inl (by omega))
  exact ⟨hlen, houtside, hdamaged, hkept, (decode_damaged c b 50 hlen houtside hdamaged).2 hkept⟩

end Checkpoint

end BulkDelivery
