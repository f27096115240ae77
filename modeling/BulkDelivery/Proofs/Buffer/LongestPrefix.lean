import BulkDelivery.Proofs.Buffer.Balance
import BulkDelivery.Proofs.Buffer.Drain

/-!
# The longest batch

Entries only add to a batch.  So a beginning of the buffer that has too many entries or too many
octets stays beyond the limits however it is continued, and a batch that ends where the next entry
would exceed a limit is the longest beginning that may be sent together.  What was taken can be put
back: nothing of the buffer has changed but its front.

## Main definitions

* `LongestWithin` — the longest beginning of a queue that may be sent together.

## Main results

* `batchLength_stops` — a batch leaves something behind only where a limit is reached.
* `longestWithin_take` — a batch is the longest beginning within the limits.
* `Buffer.foldl_push_requeue` — putting a batch back undoes taking it.
* `Buffer.drain_takes_longest_prefix` — **a batch is the longest beginning within the limits, and
  putting it back undoes taking it.**
-/

namespace BulkDelivery

/-- The longest beginning of a queue that may be sent together. -/
structure LongestWithin (maxCount maxBytes : Nat) (es batch : List Entry) : Prop where
  begins : batch <+: es
  within : WithinLimits maxCount maxBytes batch
  longest : ∀ front, front <+: es → batch.length < front.length →
    ¬WithinLimits maxCount maxBytes front

variable {maxCount maxBytes count bytes : Nat} {es front back : List Entry}

/-! ### Beginnings of a queue -/

/-- No entries have no octets, so of few entries only a single one may be too large. -/
theorem withinLimits_iff :
    WithinLimits maxCount maxBytes es ↔
      es.length ≤ maxCount ∧ (es.length ≤ 1 ∨ totalSize es ≤ maxBytes) := by
  constructor
  · rintro ⟨hcount, hsingle | hbytes⟩
    · exact ⟨hcount, .inl (Nat.le_of_eq hsingle)⟩
    · exact ⟨hcount, .inr hbytes⟩
  · rintro ⟨hcount, hfew | hbytes⟩
    · refine ⟨hcount, ?_⟩
      rcases Nat.le_one_iff_eq_zero_or_eq_one.1 hfew with hnone | hsingle
      · rw [List.length_eq_zero_iff.1 hnone, totalSize_nil]
        exact .inr (Nat.zero_le _)
      · exact .inl hsingle
    · exact ⟨hcount, .inr hbytes⟩

theorem totalSize_le_of_isPrefix (h : front <+: es) : totalSize front ≤ totalSize es := by
  obtain ⟨rest, rfl⟩ := h
  rw [totalSize_append]
  exact Nat.le_add_right _ _

/-- A batch leaves something behind only if it is full, or if the next entry would make it too
large and it holds something already. -/
theorem batchLength_stops (h : batchLength maxCount maxBytes count bytes es < es.length) :
    let n := batchLength maxCount maxBytes count bytes es
    maxCount ≤ count + n ∨ 0 < count + n ∧ maxBytes < bytes + totalSize (es.take (n + 1)) := by
  induction es generalizing count bytes with
  | nil => exact absurd h (Nat.not_lt_zero _)
  | cons e es ih =>
    rcases batchLength_cons_cases maxCount maxBytes count bytes e es with
      ⟨hstop, hend⟩ | ⟨-, -, hjoin⟩
    · rw [hend]
      simpa using hstop
    · rw [hjoin] at h ⊢
      -- the hypothesis counts the entry to what the batch holds already
      have hrest := ih (Nat.lt_of_succ_lt_succ h)
      simp only [List.take_succ_cons, totalSize_cons]
      omega

/-- A batch is the longest beginning within the limits. -/
theorem longestWithin_take (maxCount maxBytes : Nat) (es : List Entry) :
    LongestWithin maxCount maxBytes es (es.take (batchLength maxCount maxBytes 0 0 es)) where
  begins := List.take_prefix _ es
  within := withinLimits_take es
  longest := by
    intro front hfront hlonger
    have hlength := hfront.length_le
    rw [List.length_take] at hlonger
    have hbehind : batchLength maxCount maxBytes 0 0 es < es.length := by omega
    rw [withinLimits_iff]
    rintro ⟨hcount, hbytes⟩
    rcases batchLength_stops hbehind with hfull | ⟨hsome, hlarge⟩
    · omega
    · -- what follows the batch only adds to the entry that is too large for it
      have hnext : es.take (batchLength maxCount maxBytes 0 0 es + 1) <+: front :=
        List.prefix_of_prefix_length_le (List.take_prefix _ es) hfront
          (by rw [List.length_take]; omega)
      have hmore := totalSize_le_of_isPrefix hnext
      omega

/-! ### Taking a batch and putting it back -/

namespace Buffer

variable {b : Buffer}

/-- What was taken is counted back to the octet when it returns, whatever has joined meanwhile. -/
theorem foldl_push_requeue (hbalanced : b.isBalanced) (maxCount maxBytes : Nat)
    (pushed : List Entry) :
    (pushed.foldl push (b.drain maxCount maxBytes).2).requeue (b.drain maxCount maxBytes).1 =
      { entries := b.entries ++ pushed, byteTotal := totalSize (b.entries ++ pushed) } := by
  have hsplit := b.drain_append maxCount maxBytes
  have hrest := isBalanced_iff.1 (isBalanced_drain hbalanced maxCount maxBytes)
  rw [foldl_push, requeue, hrest, ← List.append_assoc, hsplit, Buffer.mk.injEq]
  refine ⟨rfl, ?_⟩
  rw [← hsplit]
  simp only [totalSize_append]
  omega

/-- **A batch is the longest beginning within the limits, and putting it back undoes taking it.**

Whatever a buffer holds and whatever the limits are, zero included, the batch and what is left are
together what the buffer held.  The batch has no more entries than allowed, and unless it is a
single entry it has no more octets than allowed; no longer beginning of the buffer is like this.
If further operations join the buffer and the batch is then put back, the buffer holds what it held
before and behind it what has joined, and its octets are counted right. -/
theorem drain_takes_longest_prefix (b : Buffer) (hbalanced : b.isBalanced)
    (maxCount maxBytes : Nat) :
    let batch := (b.drain maxCount maxBytes).1
    let rest := (b.drain maxCount maxBytes).2
    (batch ++ rest.entries = b.entries ∧ rest.byteTotal = totalSize rest.entries) ∧
    (batch.length ≤ maxCount ∧ (batch.length ≤ 1 ∨ totalSize batch ≤ maxBytes)) ∧
    (∀ front, front <+: b.entries → batch.length < front.length →
      ¬(front.length ≤ maxCount ∧ (front.length ≤ 1 ∨ totalSize front ≤ maxBytes))) ∧
    ∀ pushed : List Entry, (pushed.foldl push rest).requeue batch =
      { entries := b.entries ++ pushed, byteTotal := totalSize (b.entries ++ pushed) } := by
  intro batch rest
  have hlongest : LongestWithin maxCount maxBytes b.entries batch :=
    longestWithin_take maxCount maxBytes b.entries
  have hrest : rest.isBalanced := isBalanced_drain hbalanced maxCount maxBytes
  refine ⟨⟨b.drain_append maxCount maxBytes, isBalanced_iff.1 hrest⟩,
    withinLimits_iff.1 hlongest.within, ?_, foldl_push_requeue hbalanced maxCount maxBytes⟩
  intro front hfront hlonger
  rw [← withinLimits_iff]
  exact hlongest.longest front hfront hlonger

/-- The first operation is too large for a batch and is taken alone.  The next batch ends before the
third operation behind it, which would make it too large, and returns in front of one that joined
meanwhile.  If no entry is allowed, none is taken. -/
theorem drain_takes_longest_prefix_too_large :
    let entry (o : Operation) : Entry := Entry.of o 0
    let large := entry (.index "large" [1, 2, 3, 4, 5, 6, 7])
    let b : Buffer := [large, entry (.delete "a"), entry (.delete "b"), entry (.delete "c")].foldl
      push {}
    let later := (b.drain 3 25).2
    b.isBalanced ∧ later.isBalanced ∧
    ((b.drain 3 25).1 = [large] ∧ ∀ front, front <+: b.entries → 1 < front.length →
      ¬(front.length ≤ 3 ∧ (front.length ≤ 1 ∨ totalSize front ≤ 25))) ∧
    ((later.drain 3 25).1 = [entry (.delete "a"), entry (.delete "b")] ∧
      ((later.drain 3 25).2.push (entry (.delete "d"))).requeue (later.drain 3 25).1 =
        later.push (entry (.delete "d"))) ∧
    (b.drain 0 25).1 = [] := by
  intro entry large b later
  have hb : b.isBalanced := by decide +kernel
  have hlater : later.isBalanced := by decide +kernel
  obtain ⟨-, -, hlongest, -⟩ := drain_takes_longest_prefix b hb 3 25
  obtain ⟨-, -, -, hundone⟩ := drain_takes_longest_prefix later hlater 3 25
  obtain ⟨-, ⟨hnone, -⟩, -, -⟩ := drain_takes_longest_prefix b hb 0 25
  have hfirst : (b.drain 3 25).1 = [large] := by decide +kernel
  rw [hfirst] at hlongest
  refine ⟨hb, hlater, ⟨hfirst, hlongest⟩, ⟨by decide +kernel, ?_⟩, ?_⟩
  · exact (hundone [entry (.delete "d")]).trans (by decide +kernel)
  · exact List.length_eq_zero_iff.1 (Nat.le_zero.1 hnone)

end Buffer

end BulkDelivery
