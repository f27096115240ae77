import BulkDelivery.Bytes.Crc32
import BulkDelivery.Proofs.Format.Numbers
import Mathlib.Logic.Function.Iterate
import Mathlib.Tactic.Common

/-!
# The algebra of the checksum

A step of the division is linear, and it loses nothing: the bit that leaves the register comes back
at its top.  So the register after four octets is the register before them with the word they make
added, thirty-two steps later, and no two words lead to the same register.

## Main definitions

* `Crc32.word` — the word that up to four octets make.
* `Crc32.residue` — the register after a byte string and its checksum.

## Main results

* `Crc32.register_eq_iterate` — up to four octets at once.
* `Crc32.register_eq_residue_iff` — the residue is left by the right checksum and by no other.
* `Crc32.eq_of_register_append` — **two strings that differ in four consecutive octets at most, and
  leave the same register, are equal.**
-/

namespace BulkDelivery

namespace Crc32

/-! ### One step -/

theorem shift_xor (a b : BitVec 32) : shift (a ^^^ b) = shift a ^^^ shift b := by
  unfold shift
  rw [BitVec.getLsbD_xor, BitVec.ushiftRight_xor_distrib]
  -- the generator is added once, twice or not at all
  cases a.getLsbD 0 <;> cases b.getLsbD 0
  · rfl
  · simp only [Bool.false_xor, if_true, Bool.false_eq_true, if_false]
    rw [BitVec.xor_assoc]
  · simp only [Bool.xor_false, if_true, Bool.false_eq_true, if_false]
    rw [BitVec.xor_assoc, BitVec.xor_comm (b >>> 1), BitVec.xor_assoc]
  · simp only [Bool.xor_self, Bool.false_eq_true, if_false, if_true]
    rw [BitVec.xor_assoc, BitVec.xor_comm polynomial, BitVec.xor_assoc, BitVec.xor_self,
      BitVec.xor_zero]

/-- The bit that leaves the register comes back at its top. -/
theorem getLsbD_shift (r : BitVec 32) : (shift r).getLsbD 31 = r.getLsbD 0 := by
  unfold shift
  cases h : r.getLsbD 0
  · simp
  · have htop : polynomial.getLsbD 31 = true := by decide
    simp [htop]

theorem shift_injective : Function.Injective shift := by
  intro a b h
  have hlow : a.getLsbD 0 = b.getLsbD 0 := by rw [← getLsbD_shift, h, getLsbD_shift]
  have hhigh : a >>> 1 = b >>> 1 := by
    unfold shift at h
    rw [hlow] at h
    split at h
    · exact (BitVec.xor_left_inj polynomial).1 h
    · exact h
  apply BitVec.eq_of_getLsbD_eq
  intro i hi
  cases i with
  | zero => exact hlow
  | succ i =>
    have hbit := congrArg (·.getLsbD i) hhigh
    simpa [Nat.add_comm 1 i] using hbit

/-- A step undoes a shift to the left that loses nothing. -/
theorem shift_shiftLeft {r : BitVec 32} (h : r.getLsbD 31 = false) : shift (r <<< 1) = r := by
  have hlow : (r <<< 1).getLsbD 0 = false := by simp
  unfold shift
  rw [hlow, if_neg Bool.false_ne_true]
  apply BitVec.eq_of_getLsbD_eq
  intro i hi
  by_cases hlast : i = 31
  · rw [hlast, h]; simp
  · have hbelow : 1 + i < 32 := by omega
    simp [hbelow, BitVec.getLsbD_eq_getElem hi]

/-! ### Several steps -/

theorem iterate_shift_xor (n : Nat) (a b : BitVec 32) :
    shift^[n] (a ^^^ b) = shift^[n] a ^^^ shift^[n] b := by
  induction n generalizing a b with
  | zero => rfl
  | succ n ih => rw [Function.iterate_succ_apply, shift_xor, ih]; rfl

theorem iterate_shift_shiftLeft {n : Nat} {r : BitVec 32} (hn : n ≤ 32)
    (h : ∀ i, 32 - n ≤ i → r.getLsbD i = false) : shift^[n] (r <<< n) = r := by
  induction n with
  | zero => simp
  | succ n ih =>
    have htop : (r <<< n).getLsbD 31 = false := by
      rw [BitVec.getLsbD_shiftLeft, h (31 - n) (by omega), Bool.and_false]
    rw [Function.iterate_succ_apply, BitVec.shiftLeft_add, shift_shiftLeft htop]
    exact ih (by omega) fun i hi => h i (by omega)

theorem feed_eq_iterate (r : BitVec 32) (x : UInt8) :
    feed r x = shift^[8] (r ^^^ x.toBitVec.setWidth 32) := rfl

/-! ### Words -/

/-- The word that up to four octets make, lowest first. -/
def word (b : Bytes) : BitVec 32 :=
  BitVec.ofNat 32 (ofLittleEndian b)

theorem word_cons (x : UInt8) (b : Bytes) :
    word (x :: b) = x.toBitVec.setWidth 32 ^^^ (word b <<< 8) := by
  have hx : x.toNat < 2 ^ 8 := x.toNat_lt
  apply BitVec.eq_of_getLsbD_eq
  intro i hi
  have hsum : (x.toNat + 256 * ofLittleEndian b).testBit i
      = if i < 8 then x.toNat.testBit i else (ofLittleEndian b).testBit (i - 8) := by
    rw [Nat.add_comm, show (256 : Nat) = 2 ^ 8 by rfl, Nat.testBit_two_pow_mul_add _ hx]
  simp only [word, ofLittleEndian, BitVec.getLsbD_ofNat, BitVec.getLsbD_xor, BitVec.getLsbD_setWidth,
    BitVec.getLsbD_shiftLeft, hi, decide_true, Bool.true_and, hsum]
  by_cases hlow : i < 8
  · simp [hlow, BitVec.getLsbD]
  · have hclear : x.toBitVec.getLsbD i = false := BitVec.getLsbD_of_ge _ i (by omega)
    simp [hlow, hclear, show i - 8 < 32 by omega]

/-- Octets at the low end leave the bits above them clear. -/
theorem getLsbD_word_of_le {b : Bytes} {i : Nat} (h : 8 * b.length ≤ i) :
    (word b).getLsbD i = false := by
  have hlt : ofLittleEndian b < 2 ^ i := by
    calc ofLittleEndian b < 256 ^ b.length := ofLittleEndian_lt b
      _ = 2 ^ (8 * b.length) := by rw [Nat.pow_mul]
      _ ≤ 2 ^ i := Nat.pow_le_pow_right (by omega) h
  rw [word, BitVec.getLsbD_ofNat, Nat.testBit_lt_two_pow hlt, Bool.and_false]

theorem word_inj {b b' : Bytes} (hlen : b.length = b'.length) (hb : b.length ≤ 4)
    (h : word b = word b') : b = b' := by
  have hfits : ∀ d : Bytes, d.length ≤ 4 → ofLittleEndian d < 2 ^ 32 := by
    intro d hd
    calc ofLittleEndian d < 256 ^ d.length := ofLittleEndian_lt d
      _ ≤ 256 ^ 4 := Nat.pow_le_pow_right (by omega) hd
      _ = 2 ^ 32 := by rfl
  have hnat := congrArg BitVec.toNat h
  simp only [word, BitVec.toNat_ofNat] at hnat
  rw [Nat.mod_eq_of_lt (hfits b hb), Nat.mod_eq_of_lt (hfits b' (hlen ▸ hb))] at hnat
  rw [← littleEndian_ofLittleEndian b, hnat, hlen, littleEndian_ofLittleEndian]

/-! ### Octets at once -/

/-- Up to four octets are added as one word. -/
theorem register_eq_iterate (r : BitVec 32) {b : Bytes} (h : b.length ≤ 4) :
    register r b = shift^[8 * b.length] (r ^^^ word b) := by
  induction b generalizing r with
  | nil => simp [word, ofLittleEndian]
  | cons x b ih =>
    rw [List.length_cons] at h
    -- the octets that follow stand eight places higher, and eight steps bring them down
    have hdown : shift^[8] (word b <<< 8) = word b := by
      refine iterate_shift_shiftLeft (by omega) fun i hi => ?_
      exact getLsbD_word_of_le (by omega)
    calc register r (x :: b)
        = shift^[8 * b.length] (feed r x ^^^ word b) := ih (feed r x) (by omega)
      _ = shift^[8 * b.length] (shift^[8] (r ^^^ x.toBitVec.setWidth 32 ^^^ (word b <<< 8))) := by
          rw [iterate_shift_xor 8, hdown, ← feed_eq_iterate]
      _ = shift^[8 * b.length] (shift^[8] (r ^^^ word (x :: b))) := by
          rw [word_cons, BitVec.xor_assoc]
      _ = shift^[8 * (x :: b).length] (r ^^^ word (x :: b)) := by
          rw [← Function.iterate_add_apply, List.length_cons, Nat.mul_succ]

theorem register_injective (b : Bytes) : Function.Injective (register · b) := by
  induction b with
  | nil => exact fun _ _ h => h
  | cons x b ih =>
    intro r r' h
    have hfeed : feed r x = feed r' x := ih h
    rw [feed_eq_iterate, feed_eq_iterate] at hfeed
    exact (BitVec.xor_left_inj _).1 (shift_injective.iterate 8 hfeed)

/-- **Two strings that differ in four consecutive octets at most, and leave the same register, are
equal.** -/
theorem eq_of_register_append {r : BitVec 32} {before after w w' : Bytes}
    (hlen : w.length = w'.length) (hw : w.length ≤ 4)
    (h : register r (before ++ (w ++ after)) = register r (before ++ (w' ++ after))) : w = w' := by
  simp only [register_append] at h
  have hmid : register (register r before) w = register (register r before) w' :=
    register_injective after h
  have hw' : w'.length ≤ 4 := by omega
  rw [register_eq_iterate (register r before) hw, register_eq_iterate (register r before) hw',
    hlen] at hmid
  have hword := shift_injective.iterate (8 * w'.length) hmid
  exact word_inj hlen hw ((BitVec.xor_right_inj _).1 hword)

/-! ### The residue -/

/-- The register after a byte string and its checksum. -/
def residue : BitVec 32 :=
  shift^[32] (BitVec.allOnes 32)

/-- The residue is left by the right checksum and by no other. -/
theorem register_eq_residue_iff {r : BitVec 32} {b : Bytes} (hb : b.length = 4) :
    register r b = residue ↔ word b = ~~~ r := by
  rw [register_eq_iterate r (Nat.le_of_eq hb), hb, residue]
  constructor
  · intro h
    have hsum : r ^^^ word b = BitVec.allOnes 32 := shift_injective.iterate 32 h
    rw [← BitVec.xor_allOnes, ← hsum, ← BitVec.xor_assoc, BitVec.xor_self, BitVec.zero_xor]
  · intro h
    rw [h, ← BitVec.xor_allOnes, ← BitVec.xor_assoc, BitVec.xor_self, BitVec.zero_xor]

example : residue = 0xDEBB20E3#32 := by decide +kernel

end Crc32

end BulkDelivery
