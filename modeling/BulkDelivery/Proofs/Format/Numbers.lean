import BulkDelivery.Bytes.Draw
import Mathlib.Algebra.Group.Nat.Defs
import Mathlib.Tactic.Common

/-!
# Reading numbers of a fixed width

A number that fits its width is read back; one that does not loses its high digits.  So whatever
is drawn from the front of a byte string, an octet or a number, is what was written there and
nothing else.

## Main results

* `ofLittleEndian_littleEndian`, `ofLittleEndian_lt` — what is read back, and its bound.
* `eq_of_littleEndian_eq` — numbers that fit a width are told apart by their digits.
* `Draw.octet_eq_ok_iff`, `Draw.number_eq_ok_iff` — what stands at the front of a byte string from
  which an octet or a number is drawn.
-/

namespace Except

variable {ε α β : Type}

theorem bind_eq_ok_iff {x : Except ε α} {f : α → Except ε β} {b : β} :
    (x >>= f) = .ok b ↔ ∃ a, x = .ok a ∧ f a = .ok b := by
  cases x with
  | error e => simp [bind, Except.bind]
  | ok a => simp [bind, Except.bind]

theorem bind_eq_error_iff {x : Except ε α} {f : α → Except ε β} {e : ε} :
    (x >>= f) = .error e ↔ x = .error e ∨ ∃ a, x = .ok a ∧ f a = .error e := by
  cases x with
  | error e' => simp [bind, Except.bind]
  | ok a => simp [bind, Except.bind]

theorem pure_eq_ok_iff {a b : α} : (pure a : Except ε α) = .ok b ↔ a = b := by
  simp [pure, Except.pure]

end Except

namespace BulkDelivery

/-! ### Digits -/

theorem ofLittleEndian_littleEndian (width n : Nat) :
    ofLittleEndian (littleEndian width n) = n % 256 ^ width := by
  induction width generalizing n with
  | zero => simp [littleEndian, ofLittleEndian, Nat.mod_one]
  | succ width ih =>
    have hpow : 256 ^ (width + 1) = 256 * 256 ^ width := Nat.pow_succ'
    rw [littleEndian, ofLittleEndian, ih, UInt8.toNat_ofNat', hpow, Nat.mod_mul]

theorem ofLittleEndian_lt (b : Bytes) : ofLittleEndian b < 256 ^ b.length := by
  induction b with
  | nil => simp [ofLittleEndian]
  | cons digit rest ih =>
    have hdigit := digit.toNat_lt
    rw [ofLittleEndian, List.length_cons, Nat.pow_succ]
    omega

/-- Numbers that fit a width are told apart by their digits. -/
theorem eq_of_littleEndian_eq {width m n : Nat} (hm : m < 256 ^ width) (hn : n < 256 ^ width)
    (h : littleEndian width m = littleEndian width n) : m = n := by
  have hnumber := congrArg ofLittleEndian h
  rwa [ofLittleEndian_littleEndian, ofLittleEndian_littleEndian, Nat.mod_eq_of_lt hm,
    Nat.mod_eq_of_lt hn] at hnumber

theorem length_width : (256 : Nat) ^ 4 = 2 ^ 32 := by decide

/-! ### Numbers and octets -/

namespace Draw

variable {b rest : Bytes}

theorem octet_eq_ok_iff {x : UInt8} :
    Draw.octet drawBytes b = .ok (x, rest) ↔ b = x :: rest := by
  simp only [octet, Except.bind_eq_ok_iff, Except.pure_eq_ok_iff, Prod.exists,
    drawBytes_eq_ok_iff, Prod.mk.injEq]
  constructor
  · rintro ⟨front, _, ⟨rfl, hlen⟩, rfl, rfl⟩
    obtain ⟨y, rfl⟩ := List.length_eq_one_iff.1 hlen
    rfl
  · rintro rfl
    exact ⟨[x], rest, ⟨rfl, rfl⟩, rfl, rfl⟩

theorem number_eq_ok_iff {width n : Nat} :
    Draw.number drawBytes width b = .ok (n, rest) ↔
      b = littleEndian width n ++ rest ∧ n < 256 ^ width := by
  simp only [number, Except.bind_eq_ok_iff, Except.pure_eq_ok_iff, Prod.exists,
    drawBytes_eq_ok_iff, Prod.mk.injEq]
  constructor
  · rintro ⟨front, _, ⟨rfl, rfl⟩, rfl, rfl⟩
    exact ⟨by rw [littleEndian_ofLittleEndian], ofLittleEndian_lt front⟩
  · rintro ⟨rfl, hlt⟩
    refine ⟨littleEndian width n, rest, ⟨rfl, length_littleEndian width n⟩, ?_, rfl⟩
    rw [ofLittleEndian_littleEndian, Nat.mod_eq_of_lt hlt]

end Draw

end BulkDelivery
