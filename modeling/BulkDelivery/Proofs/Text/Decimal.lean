import Mathlib.Tactic.Common

/-!
# Runs of characters and decimal digits

A reader takes a run of characters as long as they are of one kind.  A run that was written is taken
whole if what follows it is of another kind.  The decimal digits of a number are such a run, and
only those of zero start with a zero.

## Main results

* `takeWhile_run`, `dropWhile_run` — a run is taken whole, and nothing beyond it.
* `eq_zero_of_head?_toDigits` — only zero starts with a zero.
-/

namespace BulkDelivery

/-! ### Runs -/

section

variable {α : Type} {p : α → Bool} {run rest : List α}

theorem ne_of_kind {x y : α} (hx : p x) (hy : p y = false) : x ≠ y := by
  rintro rfl
  rw [hy] at hx
  cases hx

/-- What follows a run is of another kind. -/
def Ends (p : α → Bool) (rest : List α) : Prop :=
  ∀ x, rest.head? = some x → p x = false

theorem ends_cons {x : α} (h : p x = false) (rest : List α) : Ends p (x :: rest) := by
  intro y hy
  rw [List.head?_cons, Option.some.injEq] at hy
  exact hy ▸ h

theorem takeWhile_run (hrun : ∀ x ∈ run, p x) (hrest : Ends p rest) :
    (run ++ rest).takeWhile p = run := by
  rw [List.takeWhile_append_of_pos hrun]
  cases rest with
  | nil => simp
  | cons x rest => simp [hrest x rfl]

theorem dropWhile_run (hrun : ∀ x ∈ run, p x) (hrest : Ends p rest) :
    (run ++ rest).dropWhile p = rest := by
  rw [List.dropWhile_append_of_pos hrun]
  cases rest with
  | nil => rfl
  | cons x rest => rw [List.dropWhile_cons, hrest x rfl, if_neg Bool.false_ne_true]

end

/-! ### Decimal digits -/

theorem isDigit_of_mem_toDigits {n : Nat} {c : Char} (h : c ∈ Nat.toDigits 10 n) : c.isDigit :=
  Nat.isDigit_of_mem_toDigits (by decide) (by decide) h

theorem exists_toDigits_eq_cons (n : Nat) :
    ∃ d digits, Nat.toDigits 10 n = d :: digits ∧ d.isDigit := by
  obtain ⟨d, digits, hdigits⟩ := List.exists_cons_of_ne_nil (Nat.toDigits_ne_nil (n := n) (b := 10))
  exact ⟨d, digits, hdigits, isDigit_of_mem_toDigits (hdigits ▸ List.mem_cons_self)⟩

theorem eq_zero_of_digitChar {d : Nat} (hd : d < 10) (h : d.digitChar = '0') : d = 0 := by
  revert d
  decide

/-- Only zero starts with a zero. -/
theorem eq_zero_of_head?_toDigits {n : Nat} (h : (Nat.toDigits 10 n).head? = some '0') :
    n = 0 := by
  induction n using Nat.strongRecOn with
  | _ n ih =>
    rw [Nat.toDigits_eq_if (by decide)] at h
    by_cases hsmall : n < 10
    · rw [if_pos hsmall, List.head?_cons, Option.some.injEq] at h
      exact eq_zero_of_digitChar hsmall h
    · obtain ⟨d, front, hfront⟩ := List.exists_cons_of_ne_nil (Nat.toDigits_ne_nil (n := n / 10))
      rw [if_neg hsmall, hfront, List.cons_append, List.head?_cons] at h
      have hzero : n / 10 = 0 := ih (n / 10) (by omega) (by rw [hfront, List.head?_cons, h])
      omega

end BulkDelivery
