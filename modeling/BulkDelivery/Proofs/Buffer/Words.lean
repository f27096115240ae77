import BulkDelivery.Proofs.Buffer.Balance
import BulkDelivery.Proofs.Buffer.Drain
import Mathlib.Data.List.Induction
import Mathlib.Data.List.Infix

/-!
# Octets counted in a word

The octets of a buffer are counted in a word of sixty-four bits, one addition for every entry that
joins or returns and one subtraction for every batch.  While a batch is chosen its octets are summed
up in another word, and the sum that decides against an entry includes the entry.  Numbers do not
wrap but words do.  They never come to it: every sum that is formed is that of some entries of the
buffer, before or after the call, and what is subtracted is part of what is there.

## Main definitions

* `addWord?`, `subWord?` — sums and differences that a word holds.
* `Buffer.push?`, `Buffer.requeue?`, `Buffer.drain?` — the calls with words, entry by entry; they
  have no result if a word would wrap.
* `Buffer.Call`, `Buffer.after`, `Buffer.run` — calls, and the buffer after them.

## Main results

* `Buffer.after?_eq` — a call on a buffer whose octets fit a word is the same with words.
* `Buffer.octets_counted_exactly` — **no word wraps, and the octets are those of the encodings.**
-/

namespace BulkDelivery

/-- The sum of two numbers, if a word holds it. -/
def addWord? (m n : Nat) : Option Nat :=
  if m + n < UInt64.size then some (m + n) else none

/-- The difference of two numbers, unless it is negative. -/
def subWord? (m n : Nat) : Option Nat :=
  if n ≤ m then some (m - n) else none

theorem addWord?_eq {m n : Nat} (h : m + n < UInt64.size) : addWord? m n = some (m + n) :=
  if_pos h

theorem subWord?_eq {m n : Nat} (h : n ≤ m) : subWord? m n = some (m - n) :=
  if_pos h

/-- The number of entries that make the next batch and the number of their octets, when a batch of
`count` entries and `bytes` octets goes on with the given entries. -/
def sumBatch? (maxCount maxBytes : Nat) : Nat → Nat → List Entry → Option (Nat × Nat)
  | count, bytes, [] => some (count, bytes)
  | count, bytes, e :: rest =>
    if maxCount ≤ count then some (count, bytes)
    else do
      let sum ← addWord? bytes e.size
      if 0 < count ∧ maxBytes < sum then return (count, bytes)
      else sumBatch? maxCount maxBytes (count + 1) sum rest

/-- The partial sums are those of beginnings, and none exceeds the sum of all entries. -/
theorem sumBatch?_eq (maxCount maxBytes count bytes : Nat) {es : List Entry}
    (h : bytes + totalSize es < UInt64.size) :
    sumBatch? maxCount maxBytes count bytes es =
      some (count + batchLength maxCount maxBytes count bytes es,
        bytes + totalSize (es.take (batchLength maxCount maxBytes count bytes es))) := by
  induction es generalizing count bytes with
  | nil => rfl
  | cons e es ih =>
    rw [totalSize_cons, ← Nat.add_assoc] at h
    have hsum : addWord? bytes e.size = some (bytes + e.size) := addWord?_eq (by omega)
    rcases batchLength_cons_cases maxCount maxBytes count bytes e es with
      ⟨hstop, hend⟩ | ⟨hroom, hfits, hjoin⟩
    · rw [hend]
      by_cases hfull : maxCount ≤ count
      · simp [sumBatch?, hfull]
      · -- the entry has been added up before it is left out
        have hlarge := hstop.resolve_left hfull
        simp [sumBatch?, hfull, hsum, hlarge]
    · have hopen : ¬maxCount ≤ count := Nat.not_le.2 hroom
      have hgoes : ¬(0 < count ∧ maxBytes < bytes + e.size) := by omega
      have hrest := ih (count + 1) (bytes + e.size) h
      simp only [sumBatch?, if_neg hopen, hsum, Option.bind_eq_bind, Option.bind_some,
        if_neg hgoes, hrest, hjoin, List.take_succ_cons, totalSize_cons, Option.some.injEq,
        Prod.mk.injEq]
      omega

namespace Buffer

/-! ### Calls with words -/

/-- Join at the back. -/
def push? (b : Buffer) (e : Entry) : Option Buffer := do
  let byteTotal ← addWord? b.byteTotal e.size
  return { entries := b.entries ++ [e], byteTotal }

/-- Return to the front in the given order, the last one first. -/
def requeue? (b : Buffer) : List Entry → Option Buffer
  | [] => some b
  | e :: es => do
    let b ← b.requeue? es
    let byteTotal ← addWord? b.byteTotal e.size
    return { entries := e :: b.entries, byteTotal }

/-- Take a batch from the front. -/
def drain? (b : Buffer) (maxCount maxBytes : Nat) : Option (List Entry × Buffer) := do
  let (count, bytes) ← sumBatch? maxCount maxBytes 0 0 b.entries
  let byteTotal ← subWord? b.byteTotal bytes
  return (b.entries.take count, { entries := b.entries.drop count, byteTotal })

variable {b : Buffer}

theorem push?_eq {e : Entry} (h : b.byteTotal + e.size < UInt64.size) :
    b.push? e = some (b.push e) := by
  simp [push?, addWord?_eq h, push]

theorem requeue?_eq {es : List Entry} (h : b.byteTotal + totalSize es < UInt64.size) :
    b.requeue? es = some (b.requeue es) := by
  induction es with
  | nil => rfl
  | cons e es ih =>
    rw [totalSize_cons] at h
    have hrest : b.requeue? es = some (b.requeue es) := ih (by omega)
    have hsum : addWord? (b.byteTotal + totalSize es) e.size =
        some (b.byteTotal + (e.size + totalSize es)) := by
      rw [addWord?_eq (by omega), Nat.add_assoc, Nat.add_comm (totalSize es)]
    simp [requeue?, hrest, requeue, hsum]

/-- What is taken off is the sum of a part of the entries. -/
theorem drain?_eq (hbalanced : b.isBalanced) (h : totalSize b.entries < UInt64.size)
    (maxCount maxBytes : Nat) :
    b.drain? maxCount maxBytes = some (b.drain maxCount maxBytes) := by
  have hsum := sumBatch?_eq maxCount maxBytes 0 0 (by rwa [Nat.zero_add])
  have hpart : totalSize (b.entries.take (batchLength maxCount maxBytes 0 0 b.entries)) ≤
      b.byteTotal := by
    have hsplit := congrArg totalSize (b.drain_append maxCount maxBytes)
    rw [totalSize_append, ← isBalanced_iff.1 hbalanced] at hsplit
    exact Nat.le.intro hsplit
  rw [Nat.zero_add, Nat.zero_add] at hsum
  simp [drain?, hsum, subWord?_eq hpart, drain]

/-! ### Several calls -/

/-- A call on a buffer. -/
inductive Call
  /-- An entry joins at the back. -/
  | push (e : Entry)
  /-- Entries return to the front. -/
  | requeue (es : List Entry)
  /-- A batch is taken from the front. -/
  | drain (maxCount maxBytes : Nat)
  deriving DecidableEq, Inhabited

/-- The entries that a call brings. -/
def Call.brings : Call → List Entry
  | push e => [e]
  | requeue es => es
  | drain _ _ => []

/-- The buffer after a call. -/
def after (b : Buffer) : Call → Buffer
  | .push e => b.push e
  | .requeue es => b.requeue es
  | .drain maxCount maxBytes => (b.drain maxCount maxBytes).2

/-- The buffer after a call with words. -/
def after? (b : Buffer) : Call → Option Buffer
  | .push e => b.push? e
  | .requeue es => b.requeue? es
  | .drain maxCount maxBytes => (b.drain? maxCount maxBytes).map Prod.snd

/-- The buffer after several calls, empty at first. -/
def run (calls : List Call) : Buffer :=
  calls.foldl after {}

/-- The buffer after several calls with words, empty at first. -/
def run? (calls : List Call) : Option Buffer :=
  calls.foldlM after? {}

variable {calls done : List Call} {call : Call}

theorem run_append_singleton (calls : List Call) (call : Call) :
    run (calls ++ [call]) = (run calls).after call := by
  simp [run]

theorem isBalanced_after (hbalanced : b.isBalanced) (call : Call) : (b.after call).isBalanced := by
  cases call with
  | push e => exact isBalanced_push hbalanced e
  | requeue es => exact isBalanced_requeue hbalanced es
  | drain maxCount maxBytes => exact isBalanced_drain hbalanced maxCount maxBytes

/-- A call on a buffer whose octets fit a word before and after it is the same with words. -/
theorem after?_eq (hbalanced : b.isBalanced) (hbefore : totalSize b.entries < UInt64.size)
    (hafter : totalSize (b.after call).entries < UInt64.size) :
    b.after? call = some (b.after call) := by
  have htotal := isBalanced_iff.1 (isBalanced_after hbalanced call)
  rw [← htotal] at hafter
  cases call with
  | push e => exact push?_eq hafter
  | requeue es => exact requeue?_eq hafter
  | drain maxCount maxBytes =>
    rw [after?, drain?_eq hbalanced hbefore, Option.map_some]
    rfl

/-- What waits after a call was brought by it or waited before. -/
theorem mem_entries_after {e : Entry} (h : e ∈ (b.after call).entries) :
    e ∈ call.brings ∨ e ∈ b.entries := by
  cases call with
  | push e' =>
    rw [after, entries_push, List.mem_append] at h
    exact h.symm
  | requeue es =>
    rw [after, entries_requeue, List.mem_append] at h
    exact h
  | drain maxCount maxBytes =>
    exact .inr (List.mem_of_mem_drop h)

theorem isBalanced_run (calls : List Call) : (run calls).isBalanced := by
  induction calls using List.reverseRecOn with
  | nil => rfl
  | append_singleton calls call ih =>
    rw [run_append_singleton]
    exact isBalanced_after ih call

/-- What waits was brought by a call. -/
theorem exists_brings_of_mem_run {e : Entry} (h : e ∈ (run calls).entries) :
    ∃ call ∈ calls, e ∈ call.brings := by
  induction calls using List.reverseRecOn with
  | nil => cases h
  | append_singleton calls call ih =>
    rw [run_append_singleton] at h
    rcases mem_entries_after h with hbrought | hearlier
    · exact ⟨call, List.mem_append_right _ List.mem_cons_self, hbrought⟩
    · obtain ⟨call', hcall', hbrought⟩ := ih hearlier
      exact ⟨call', List.mem_append_left _ hcall', hbrought⟩

/-- Calls on a buffer whose octets fit a word after each of them are the same with words. -/
theorem run?_eq (hfits : ∀ done, done <+: calls → totalSize (run done).entries < UInt64.size) :
    run? calls = some (run calls) := by
  induction calls using List.reverseRecOn with
  | nil => rfl
  | append_singleton calls call ih =>
    have hearlier : run? calls = some (run calls) :=
      ih fun done hdone => hfits done (hdone.trans (List.prefix_append calls [call]))
    have hbefore := hfits calls (List.prefix_append calls [call])
    have hafter := hfits (calls ++ [call]) List.prefix_rfl
    rw [run_append_singleton] at hafter ⊢
    rw [run?, List.foldlM_append, ← run?, hearlier]
    simp [after?_eq (isBalanced_run calls) hbefore hafter]

/-- **No word wraps, and the octets are those of the encodings.**

A buffer is empty at first, and then any calls follow with any limits.  The entries that they bring
are made of an operation and a time, be they new or taken from the buffer before.  If the sizes of
what waits sum up to less than 2^64 after every call, then after every call the same calls with
words, which have no result if a sum or a difference would leave a word, have led to the same
buffer; and the octets that are counted are the sum of the sizes, which is the sum of the lengths of
the encodings. -/
theorem octets_counted_exactly (calls : List Call)
    (hmade : ∀ call ∈ calls, ∀ e ∈ call.brings, ∃ o now, e = Entry.of o now)
    (hfits : ∀ done, done <+: calls → totalSize (run done).entries < UInt64.size) :
    ∀ done, done <+: calls →
      run? done = some (run done) ∧
      (run done).byteTotal = totalSize (run done).entries ∧
      totalSize (run done).entries = ((run done).operations.map fun o => o.encode.length).sum := by
  intro done hdone
  have hsizes : ∀ e ∈ (run done).entries, e.size = e.operation.size := by
    intro e he
    obtain ⟨call, hcall, hbrought⟩ := exists_brings_of_mem_run he
    obtain ⟨o, now, rfl⟩ := hmade call (hdone.subset hcall) e hbrought
    rfl
  exact ⟨run?_eq fun earlier hearlier => hfits earlier (hearlier.trans hdone),
    isBalanced_iff.1 (isBalanced_run done), totalSize_eq_sum hsizes⟩

/-- A batch of two is chosen against a third operation that is added up and left out, part of it
returns in front of what has joined meanwhile, and in the end a single operation that is too large
for the limits is taken. -/
theorem octets_counted_exactly_mixed :
    let entry (o : Operation) : Entry := Entry.of o 0
    let large := entry (.index "large" [1, 2, 3, 4, 5, 6, 7])
    let calls : List Call :=
      [.push (entry (.delete "a")), .push (entry (.delete "b")), .push large, .drain 5 25,
        .push (entry (.create "c" [])), .requeue [entry (.delete "b")], .drain 1 0, .drain 5 25]
    (∀ call ∈ calls, ∀ e ∈ call.brings, ∃ o now, e = Entry.of o now) ∧
    (∀ done, done <+: calls → totalSize (run done).entries < UInt64.size) ∧
    run? calls = some (run calls) ∧
    (run (calls.take 6)).operations = [.delete "b", large.operation, .create "c" []] ∧
    (run (calls.take 6)).byteTotal = 11 + 26 + 15 ∧
    (run calls).operations = [.create "c" []] ∧ (run calls).byteTotal = 15 := by
  intro entry large calls
  have hmade : ∀ call ∈ calls, ∀ e ∈ call.brings, ∃ o now, e = Entry.of o now := by
    simp [calls, Call.brings, entry, large]
  have hinits : ∀ done ∈ calls.inits, totalSize (run done).entries < UInt64.size := by
    decide +kernel
  have hfits : ∀ done, done <+: calls → totalSize (run done).entries < UInt64.size :=
    fun done hdone => hinits done ((List.mem_inits done calls).2 hdone)
  have hexact := octets_counted_exactly calls hmade hfits
  obtain ⟨-, htotal, hencoded⟩ := hexact (calls.take 6) (List.take_prefix 6 calls)
  obtain ⟨hwords, -, -⟩ := hexact calls List.prefix_rfl
  refine ⟨hmade, hfits, hwords, by decide +kernel, ?_, by decide +kernel, by decide +kernel⟩
  rw [htotal, hencoded]
  decide +kernel

end Buffer

end BulkDelivery
