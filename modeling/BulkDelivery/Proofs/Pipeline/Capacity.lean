import BulkDelivery.Proofs.Pipeline.Due
import Mathlib.Data.List.Flatten

/-!
# The capacity

Admission looks at the number of pending operations once, and batches come back whenever they do.
Still the capacity holds: what a batch returns was pending all the time, so only admission adds to
the count, one operation and below the capacity.  Restored operations are let in without being
counted against the capacity, and as long as they fill it nothing adds to them.

## Main results

* `Pipeline.pendingCount_move` — what a move does to the number of pending operations.
* `Pipeline.pendingCount_restore_moves_le` — **the pending operations never exceed the capacity, or
  what was restored if that is more.**
-/

namespace BulkDelivery

namespace Pipeline

/-- A batch and the batches without its number are no more than all batches. -/
theorem length_add_length_filter_le {α : Type} {batches : List (BatchId × List α)} {id : BatchId}
    {batch : List α} (h : batches.lookup id = some batch) :
    batch.length + ((batches.filter (·.1 != id)).flatMap Prod.snd).length
      ≤ (batches.flatMap Prod.snd).length := by
  obtain ⟨front, back, rfl, -⟩ := List.lookup_eq_some_iff.1 h
  -- the first batch with the number is the one that is found; others may go as well
  have hkept : ((front ++ (id, batch) :: back).filter (·.1 != id)).Sublist (front ++ back) := by
    rw [List.filter_append, List.filter_cons_of_neg (by simp)]
    exact List.filter_sublist.append List.filter_sublist
  have hlength := (hkept.flatMap Prod.snd).length_le
  simp only [List.flatMap_append, List.flatMap_cons, List.length_append] at hlength ⊢
  omega

/-! ### One move -/

variable {p p' : Pipeline}

theorem pendingCount_accept {o : Operation} {now : Time} (h : p.accept o now = .ok p') :
    p.pendingCount < p.settings.maxBuffered ∧ p'.pendingCount = p.pendingCount + 1 := by
  obtain ⟨-, -, hroom, rfl⟩ := accept_eq_ok_iff.1 h
  refine ⟨hroom, ?_⟩
  simp only [pendingCount_eq, Buffer.entries_push, List.length_append, List.length_singleton]
  omega

/-- A batch takes its operations along, and they stay pending. -/
theorem pendingCount_nextBatch {now : Time} {force : Bool} {batch : Batch}
    (h : p.nextBatch now force = some (batch, p')) : p'.pendingCount = p.pendingCount := by
  obtain ⟨-, -, entries, buffer, hdrain, -, rfl⟩ := nextBatch_eq_some_iff.1 h
  have happend := Buffer.drain_append p.buffer p.settings.maxBatchSize p.settings.maxBatchBytes
  rw [hdrain] at happend
  have hlength : entries.length + buffer.entries.length = p.buffer.entries.length := by
    rw [← List.length_append, happend]
  simp only [pendingCount_eq, List.flatMap_append, List.length_append, List.flatMap_singleton]
  omega

/-- What a batch returns was pending in the batch. -/
theorem pendingCount_resolve_le (p : Pipeline) (id : BatchId) (outcome : Outcome) (now : Time)
    (classify : TransportFailure → Verdict) :
    (p.resolve id outcome now classify).2.pendingCount ≤ p.pendingCount := by
  rcases p.ignored_or_inFlight id with hignored | ⟨hrun, entries, hbatch⟩
  · exact Nat.le_of_eq (by rw [resolve_eq_ignored hignored])
  · have hgone := length_add_length_filter_le hbatch
    have hreturned := (outcome.returned_sublist entries).length_le
    cases hdemand : outcome.halt? classify entries.length with
    | some halt =>
      simp only [resolve_eq_halted hrun hbatch hdemand, pendingCount_eq]
      omega
    | none =>
      simp only [resolve_eq_settled hrun hbatch hdemand, pendingCount_eq,
        Buffer.entries_requeue, List.length_append]
      omega

/-- Only below the capacity, and by one only, does a move add to what is pending. -/
theorem pendingCount_move (p : Pipeline) (m : Move) :
    (p.move m).pendingCount ≤ p.pendingCount ∨
      p.pendingCount < p.settings.maxBuffered ∧ (p.move m).pendingCount = p.pendingCount + 1 := by
  cases m with
  | accept o now =>
    rw [move]
    cases haccept : p.accept o now with
    | error e => exact .inl (Nat.le_refl _)
    | ok p' => exact .inr (pendingCount_accept haccept)
  | dispatch now force =>
    rw [move]
    cases hnext : p.nextBatch now force with
    | none => exact .inl (Nat.le_refl _)
    | some taken => exact .inl (Nat.le_of_eq (pendingCount_nextBatch hnext))
  | resolve id outcome now classify =>
    exact .inl (pendingCount_resolve_le p id outcome now classify)

/-! ### Many moves -/

theorem pendingCount_moves_le (p : Pipeline) (ms : List Move) :
    (p.moves ms).pendingCount ≤ max p.settings.maxBuffered p.pendingCount := by
  induction ms generalizing p with
  | nil => exact Nat.le_max_right _ _
  | cons m ms ih =>
    have hrest := ih (p.move m)
    have hmove := pendingCount_move p m
    rw [moves_cons]
    rw [settings_move] at hrest
    omega

theorem pendingCount_restore (settings : Settings) (checkpoints : List Checkpoint) (now : Time) :
    (restore { settings } checkpoints now).pendingCount =
      (checkpoints.flatMap Checkpoint.operations).length := by
  rw [restore_eq, pendingCount_eq]
  simp

/-- **The capacity holds through every failure.**

Whatever is restored into a new pipeline and whatever calls follow, with any outcomes, the
operations that wait and those in flight are never more than the capacity, or than what was
restored if that is more.  So if the restored operations are within the capacity, then no batches
that come back, in whatever order, bring the buffer above it; and from a state at or above the
capacity the number of pending operations never grows. -/
theorem pendingCount_restore_moves_le (settings : Settings) (checkpoints : List Checkpoint)
    (opened : Time) (ms : List Move) :
    let restored := (checkpoints.flatMap Checkpoint.operations).length
    let p := (restore { settings } checkpoints opened).moves ms
    p.buffer.length + p.inFlightCount ≤ max settings.maxBuffered restored ∧
    (restored ≤ settings.maxBuffered →
      ∀ later : List Move, (p.moves later).buffer.length ≤ settings.maxBuffered) ∧
    (settings.maxBuffered ≤ p.pendingCount →
      ∀ later : List Move, (p.moves later).pendingCount ≤ p.pendingCount) := by
  intro restored p
  have hsettings : p.settings = settings := settings_moves _ ms
  have hbound : p.pendingCount ≤ max settings.maxBuffered restored := by
    have hrun := pendingCount_moves_le (restore { settings } checkpoints opened) ms
    rw [pendingCount_restore] at hrun
    exact hrun
  have hlater : ∀ later : List Move,
      (p.moves later).pendingCount ≤ max settings.maxBuffered p.pendingCount := by
    intro later
    have hrun := pendingCount_moves_le p later
    rw [hsettings] at hrun
    exact hrun
  refine ⟨hbound, ?_, ?_⟩
  · intro hrestored later
    have hcount := hlater later
    have hbuffer : (p.moves later).buffer.length ≤ (p.moves later).pendingCount :=
      Nat.le_add_right _ _
    omega
  · intro hfull later
    have hcount := hlater later
    omega

end Pipeline

end BulkDelivery
