import BulkDelivery.Proofs.Buffer.LongestPrefix

/-!
# Taking longest batches takes the fewest

A buffer is emptied batch by batch, and every batch is as long as the limits allow.  No other way to
send the same queue in groups within the limits needs fewer of them.  The reason is that batches
stay ahead: once as many batches as groups were sent, what still waits is part of what the groups
have left.  A group never reaches further than the batch of its turn, because the part of the group
that still waits is itself within the limits, and the batch is at least as long.

## Main definitions

* `Splits` — a way to send a queue in groups within the limits.
* `Buffer.Empties` — batches are taken until nothing waits.

## Main results

* `LongestWithin.stays_ahead` — a batch leaves nothing that a group of the same turn does not leave.
* `Buffer.exists_empties` — taking batches comes to an end.
* `Buffer.longest_batches_are_fewest` — **no groups within the limits are fewer than the batches.**
-/

namespace BulkDelivery

/-- A way to send a queue in groups: one behind the other, none of them empty, each within the
limits. -/
structure Splits (maxCount maxBytes : Nat) (es : List Entry) (groups : List (List Entry)) :
    Prop where
  whole : groups.flatten = es
  nonempty : ∀ group ∈ groups, group ≠ []
  within : ∀ group ∈ groups, WithinLimits maxCount maxBytes group

variable {maxCount maxBytes : Nat} {es front back batch rest group later : List Entry}

instance (maxCount maxBytes : Nat) (es : List Entry) : Decidable (WithinLimits maxCount maxBytes es) :=
  decidable_of_iff _ withinLimits_iff.symm

/-! ### Staying ahead -/

/-- Entries that are left out at the front make room for no limit to be exceeded. -/
theorem WithinLimits.of_suffix (h : WithinLimits maxCount maxBytes es) (hback : back <:+ es) :
    WithinLimits maxCount maxBytes back := by
  obtain ⟨front, rfl⟩ := hback
  rw [withinLimits_iff, List.length_append, totalSize_append] at h
  rw [withinLimits_iff]
  omega

/-- A batch leaves nothing that a group of the same turn does not leave, if the group had no more
in front of it than the batch. -/
theorem LongestWithin.stays_ahead (hlongest : LongestWithin maxCount maxBytes (batch ++ rest) batch)
    (hwaits : batch ++ rest <:+ group ++ later) (hgroup : WithinLimits maxCount maxBytes group) :
    rest <:+ later := by
  have hrest : rest <:+ group ++ later := (List.suffix_append batch rest).trans hwaits
  have hlater : later <:+ group ++ later := List.suffix_append group later
  by_contra hbehind
  have hshorter : later.length < rest.length := by
    by_contra hlength
    exact hbehind (List.suffix_of_suffix_length_le hrest hlater (Nat.not_lt.1 hlength))
  -- the part of the group that still waits is a longer beginning than the batch
  obtain ⟨front, hfront⟩ : later <:+ batch ++ rest :=
    List.suffix_of_suffix_length_le hlater hwaits (by rw [List.length_append]; omega)
  have hpart : front <:+ group := by
    rw [← hfront] at hwaits
    exact ((List.suffix_append_inj_of_length_eq rfl).1 hwaits).1
  have hlonger : batch.length < front.length := by
    have hlengths := congrArg List.length hfront
    rw [List.length_append, List.length_append] at hlengths
    omega
  exact hlongest.longest front ⟨later, hfront⟩ hlonger (hgroup.of_suffix hpart)

/-! ### Emptying a buffer -/

namespace Buffer

/-- Batches are taken one after the other until nothing waits. -/
inductive Empties (maxCount maxBytes : Nat) : Buffer → List (List Entry) → Prop
  /-- Nothing waits. -/
  | done {b : Buffer} (hnone : b.entries = []) : Empties maxCount maxBytes b []
  /-- A batch is taken, and then further ones. -/
  | next {b : Buffer} {batch : List Entry} {batches : List (List Entry)}
      (hsome : b.entries ≠ []) (hbatch : (b.drain maxCount maxBytes).1 = batch)
      (hlater : Empties maxCount maxBytes (b.drain maxCount maxBytes).2 batches) :
      Empties maxCount maxBytes b (batch :: batches)

variable {b : Buffer} {batches groups : List (List Entry)}

/-- What is taken of a buffer that holds something holds something. -/
theorem drain_ne_nil (hcount : 0 < maxCount) (maxBytes : Nat) (hsome : b.entries ≠ []) :
    (b.drain maxCount maxBytes).1 ≠ [] := by
  have hpos : 0 < batchLength maxCount maxBytes 0 0 b.entries := batchLength_pos hcount hsome
  rw [drain, ← List.length_pos_iff, List.length_take]
  exact Nat.lt_min.2 ⟨hpos, List.length_pos_iff.2 hsome⟩

/-- Taking batches comes to an end: every batch takes something. -/
theorem exists_empties (hcount : 0 < maxCount) (maxBytes : Nat) (b : Buffer) :
    ∃ batches, Empties maxCount maxBytes b batches := by
  induction hwaiting : b.entries.length using Nat.strongRecOn generalizing b with
  | _ waiting ih =>
    by_cases hsome : b.entries = []
    · exact ⟨[], .done hsome⟩
    · have htaken := List.length_pos_iff.2 (drain_ne_nil hcount maxBytes hsome)
      have hsplit := congrArg List.length (b.drain_append maxCount maxBytes)
      rw [List.length_append] at hsplit
      obtain ⟨batches, hlater⟩ := ih (b.drain maxCount maxBytes).2.entries.length (by omega)
        (b.drain maxCount maxBytes).2 rfl
      exact ⟨_, .next hsome rfl hlater⟩

/-- The batches are one of the ways to send the queue. -/
theorem Empties.splits (hcount : 0 < maxCount) (h : Empties maxCount maxBytes b batches) :
    Splits maxCount maxBytes b.entries batches := by
  induction h with
  | done hnone => exact ⟨hnone.symm, by simp, by simp⟩
  | @next b batch batches hsome hbatch _ ih =>
    subst hbatch
    constructor
    · rw [List.flatten_cons, ih.whole, b.drain_append]
    · exact List.forall_mem_cons.2 ⟨drain_ne_nil hcount maxBytes hsome, ih.nonempty⟩
    · exact List.forall_mem_cons.2 ⟨withinLimits_take b.entries, ih.within⟩

/-- Groups that send what waits are no fewer than the batches, even if the first group holds more in
front of it. -/
theorem Empties.length_le (h : Empties maxCount maxBytes b batches)
    (hwithin : ∀ group ∈ groups, WithinLimits maxCount maxBytes group)
    (hwaits : b.entries <:+ groups.flatten) : batches.length ≤ groups.length := by
  induction groups generalizing b batches with
  | nil =>
    cases h with
    | done => exact Nat.le_refl _
    | next hsome => exact absurd (List.suffix_nil.1 hwaits) hsome
  | cons group groups ih =>
    cases h with
    | done => exact Nat.zero_le _
    | next hsome hbatch hlater =>
      subst hbatch
      obtain ⟨hgroup, hgroups⟩ := List.forall_mem_cons.1 hwithin
      have hlongest : LongestWithin maxCount maxBytes b.entries (b.drain maxCount maxBytes).1 :=
        longestWithin_take maxCount maxBytes b.entries
      rw [← b.drain_append maxCount maxBytes] at hlongest hwaits
      -- the batch of this turn leaves at most what the group of this turn leaves
      exact Nat.succ_le_succ (ih hlater hgroups (hlongest.stays_ahead hwaits hgroup))

/-- **No groups within the limits are fewer than the batches.**

Whatever a buffer holds, if at least one entry is allowed then taking batches until nothing waits
comes to an end.  The batches are one way to send the queue: one behind the other they are what
waited, none is empty, none has more entries than allowed, and each is a single entry or has no more
octets than allowed.  Every other way to send the same queue like this has at least as many groups. -/
theorem longest_batches_are_fewest (b : Buffer) (maxCount maxBytes : Nat) (hcount : 1 ≤ maxCount) :
    (∃ batches, Empties maxCount maxBytes b batches) ∧
    ∀ batches, Empties maxCount maxBytes b batches →
      Splits maxCount maxBytes b.entries batches ∧
      ∀ groups, Splits maxCount maxBytes b.entries groups → batches.length ≤ groups.length := by
  refine ⟨exists_empties hcount maxBytes b, fun batches h => ⟨h.splits hcount, fun groups hgroups => ?_⟩⟩
  exact h.length_le hgroups.within (hgroups.whole ▸ List.suffix_refl _)

/-- The first operation is too large for a batch and is sent alone.  The batches fill up to the
octet, then up to the number of entries.  Sending the second operation alone as well needs as many
groups. -/
theorem longest_batches_are_fewest_limits_reached :
    let entry (o : Operation) : Entry := Entry.of o 0
    let large := entry (.index "large" (List.replicate 30 0))
    let wide := entry (.delete "nineteen characters")
    let b : Buffer := [large, entry (.delete "a"), wide, entry (.delete "b"), entry (.delete "c"),
      entry (.delete "d")].foldl push {}
    let batches := [[large], [entry (.delete "a"), wide],
      [entry (.delete "b"), entry (.delete "c")], [entry (.delete "d")]]
    let groups := [[large], [entry (.delete "a")], [wide, entry (.delete "b")],
      [entry (.delete "c"), entry (.delete "d")]]
    1 ≤ 2 ∧ Empties 2 40 b batches ∧ Splits 2 40 b.entries batches ∧
      Splits 2 40 b.entries groups ∧ batches.length ≤ groups.length := by
  intro entry large wide b batches groups
  have hempties : Empties 2 40 b batches :=
    .next (by decide +kernel) (by decide +kernel) <|
    .next (by decide +kernel) (by decide +kernel) <|
    .next (by decide +kernel) (by decide +kernel) <|
    .next (by decide +kernel) (by decide +kernel) <|
    .done (by decide +kernel)
  have hsplits : Splits 2 40 b.entries groups := by
    constructor
    · decide +kernel
    · decide +kernel
    · decide +kernel
  obtain ⟨-, hfewest⟩ := longest_batches_are_fewest b 2 40 (by decide)
  obtain ⟨hbatches, hleast⟩ := hfewest batches hempties
  exact ⟨by decide, hempties, hbatches, hsplits, hleast groups hsplits⟩

end Buffer

end BulkDelivery
