import BulkDelivery.Buffer
import BulkDelivery.Operation.Encoding
import Mathlib.Algebra.BigOperators.Group.List.Basic
import Mathlib.Algebra.GroupWithZero.Nat

/-!
# The balance of a buffer

A buffer keeps the number of its octets beside its entries.  Every call brings the number up to
date by what it adds or takes, without looking at the other entries, and so the number stays that
of the octets of the entries.

## Main results

* `Buffer.foldl_push` — the buffer after several operations have joined it.
* `Buffer.isBalanced_push`, `Buffer.isBalanced_requeue`, `Buffer.isBalanced_drain` — **every call
  keeps the balance.**
-/

namespace BulkDelivery

/-- The number of octets does not depend on the order. -/
theorem totalSize_eq_of_perm {es fs : List Entry} (h : es.Perm fs) :
    totalSize es = totalSize fs := by
  induction h with
  | nil => rfl
  | cons e _ ih => rw [totalSize_cons, totalSize_cons, ih]
  | swap e f rest =>
    simp only [totalSize_cons]
    omega
  | trans _ _ ihfirst ihsecond => rw [ihfirst, ihsecond]

/-- The octets of entries are those of the operations' encodings. -/
theorem totalSize_eq_sum {es : List Entry} (h : ∀ e ∈ es, e.size = e.operation.size) :
    totalSize es = ((es.map Entry.operation).map fun o => o.encode.length).sum := by
  induction es with
  | nil => rfl
  | cons e es ih =>
    have hsize : e.size = e.operation.encode.length := by
      rw [h e List.mem_cons_self, Operation.length_encode]
    have hrest := ih fun f hf => h f (List.mem_cons_of_mem e hf)
    rw [totalSize_cons, hsize, hrest, List.map_cons, List.map_cons, List.sum_cons]

namespace Buffer

/-- Operations join the buffer in their order. -/
theorem foldl_push (es : List Entry) (b : Buffer) :
    es.foldl push b = { entries := b.entries ++ es, byteTotal := b.byteTotal + totalSize es } := by
  induction es generalizing b with
  | nil => simp
  | cons e es ih =>
    rw [List.foldl_cons, ih]
    simp [push, Nat.add_assoc]

variable {b : Buffer}

theorem isBalanced_iff : b.isBalanced ↔ b.byteTotal = totalSize b.entries := by
  rw [isBalanced, beq_iff_eq, eq_comm]

theorem isBalanced_push (h : b.isBalanced) (e : Entry) : (b.push e).isBalanced := by
  rw [isBalanced_iff] at h ⊢
  rw [push, h, totalSize_append, totalSize_cons, totalSize_nil, Nat.add_zero]

theorem isBalanced_requeue (h : b.isBalanced) (es : List Entry) : (b.requeue es).isBalanced := by
  rw [isBalanced_iff] at h ⊢
  rw [requeue, h, totalSize_append, Nat.add_comm]

/-- What is taken is part of what is there, so nothing is lost when its octets are taken off. -/
theorem isBalanced_drain (h : b.isBalanced) (maxCount maxBytes : Nat) :
    (b.drain maxCount maxBytes).2.isBalanced := by
  have hsum : totalSize (b.drain maxCount maxBytes).1 +
      totalSize (b.drain maxCount maxBytes).2.entries = b.byteTotal := by
    rw [← totalSize_append, drain_append, isBalanced_iff.1 h]
  have htotal : (b.drain maxCount maxBytes).2.byteTotal =
      b.byteTotal - totalSize (b.drain maxCount maxBytes).1 := rfl
  rw [isBalanced_iff, htotal]
  omega

end Buffer

end BulkDelivery
