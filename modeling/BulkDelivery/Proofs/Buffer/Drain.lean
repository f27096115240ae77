import BulkDelivery.Buffer
import Mathlib.Tactic.Common

/-!
# What a batch holds

A batch is a beginning of the buffer.  It ends where the next entry would exceed a limit, except
that the first entry joins whatever its size is.  So a batch keeps to the number of entries, and it
keeps to the number of octets unless it is a single entry.

## Main definitions

* `WithinLimits` — entries that may be sent together.

## Main results

* `batchLength_cons_cases` — what becomes of an entry: it ends the batch, or it joins.
* `batchLength_pos` — a batch of a buffer that holds something holds something.
* `withinLimits_take` — **a batch is within the limits.**
-/

namespace BulkDelivery

/-- Entries that may be sent together. -/
structure WithinLimits (maxCount maxBytes : Nat) (es : List Entry) : Prop where
  count : es.length ≤ maxCount
  bytes : es.length = 1 ∨ totalSize es ≤ maxBytes

variable {maxCount maxBytes count bytes : Nat}

/-- An entry ends the batch, because the batch is full or would hold too many octets with it, or the
entry joins and the batch goes on behind it. -/
theorem batchLength_cons_cases (maxCount maxBytes count bytes : Nat) (e : Entry)
    (es : List Entry) :
    ((maxCount ≤ count ∨ 0 < count ∧ maxBytes < bytes + e.size) ∧
      batchLength maxCount maxBytes count bytes (e :: es) = 0) ∨
    (count < maxCount ∧ (count = 0 ∨ bytes + e.size ≤ maxBytes) ∧
      batchLength maxCount maxBytes count bytes (e :: es) =
        batchLength maxCount maxBytes (count + 1) (bytes + e.size) es + 1) := by
  rw [batchLength]
  by_cases hfull : maxCount ≤ count
  · rw [if_pos hfull]
    exact .inl ⟨.inl hfull, rfl⟩
  · rw [if_neg hfull]
    by_cases hstop : 0 < count ∧ maxBytes < bytes + e.size
    · rw [if_pos hstop]
      exact .inl ⟨.inr hstop, rfl⟩
    · rw [if_neg hstop]
      exact .inr ⟨by omega, by omega, Nat.add_comm _ _⟩

/-- A batch of a buffer that holds something holds something. -/
theorem batchLength_pos {es : List Entry} (hcount : 0 < maxCount) (h : es ≠ []) :
    0 < batchLength maxCount maxBytes 0 0 es := by
  cases es with
  | nil => exact absurd rfl h
  | cons e es =>
    rcases batchLength_cons_cases maxCount maxBytes 0 0 e es with ⟨hstop, -⟩ | ⟨-, -, hjoin⟩
    · omega
    · rw [hjoin]
      exact Nat.succ_pos _

theorem add_batchLength_le (es : List Entry) (hcount : count ≤ maxCount) :
    count + batchLength maxCount maxBytes count bytes es ≤ maxCount := by
  induction es generalizing count bytes with
  | nil => exact hcount
  | cons e es ih =>
    rcases batchLength_cons_cases maxCount maxBytes count bytes e es with
      ⟨-, hend⟩ | ⟨hroom, -, hjoin⟩
    · rw [hend]
      exact hcount
    · have hrest : count + 1 + batchLength maxCount maxBytes (count + 1) (bytes + e.size) es
          ≤ maxCount := ih hroom
      rw [hjoin]
      omega

/-- Behind its first entry, a batch grows only within the number of octets. -/
theorem add_totalSize_take_le (es : List Entry) (hcount : 0 < count) :
    bytes + totalSize (es.take (batchLength maxCount maxBytes count bytes es))
      ≤ max maxBytes bytes := by
  induction es generalizing count bytes with
  | nil => exact Nat.le_max_right _ _
  | cons e es ih =>
    rcases batchLength_cons_cases maxCount maxBytes count bytes e es with
      ⟨-, hend⟩ | ⟨-, hfits, hjoin⟩
    · rw [hend, List.take_zero, totalSize_nil]
      exact Nat.le_max_right _ _
    · have hrest : bytes + e.size +
          totalSize (es.take (batchLength maxCount maxBytes (count + 1) (bytes + e.size) es))
            ≤ max maxBytes (bytes + e.size) := ih (Nat.succ_pos count)
      rw [hjoin, List.take_succ_cons, totalSize_cons]
      omega

/-- Nothing joins entries that are already too large for a batch. -/
theorem batchLength_of_too_large (es : List Entry) (hcount : 0 < count)
    (hlarge : maxBytes < bytes) : batchLength maxCount maxBytes count bytes es = 0 := by
  cases es with
  | nil => rfl
  | cons e es =>
    rcases batchLength_cons_cases maxCount maxBytes count bytes e es with
      ⟨-, hend⟩ | ⟨-, hfits, -⟩
    · exact hend
    · omega

/-- **A batch is within the limits.** -/
theorem withinLimits_take (es : List Entry) :
    WithinLimits maxCount maxBytes (es.take (batchLength maxCount maxBytes 0 0 es)) where
  count := by
    have hcount : 0 + batchLength maxCount maxBytes 0 0 es ≤ maxCount :=
      add_batchLength_le es (Nat.zero_le _)
    rw [List.length_take]
    omega
  bytes := by
    cases es with
    | nil => exact .inr (Nat.zero_le _)
    | cons e es =>
      rcases batchLength_cons_cases maxCount maxBytes 0 0 e es with ⟨-, hend⟩ | ⟨-, -, hjoin⟩
      · rw [hend]
        exact .inr (Nat.zero_le _)
      · rw [hjoin, List.take_succ_cons]
        by_cases hlarge : maxBytes < 0 + e.size
        · refine .inl ?_
          rw [batchLength_of_too_large es Nat.one_pos hlarge]
          rfl
        · refine .inr ?_
          have hrest : 0 + e.size +
              totalSize (es.take (batchLength maxCount maxBytes (0 + 1) (0 + e.size) es))
                ≤ max maxBytes (0 + e.size) := add_totalSize_take_le es Nat.one_pos
          rw [totalSize_cons]
          omega

end BulkDelivery
