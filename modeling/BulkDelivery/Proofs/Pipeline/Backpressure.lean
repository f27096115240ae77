import BulkDelivery.Proofs.Pipeline.Pause

/-!
# Backpressure

Operations are refused when as many are pending as may be.  Those that are in flight count, so the
buffer itself may hold few of them, and a batch need not be due.  But then something is in flight
and its return makes room.  With nothing in flight all of them wait, and settings pass validation
only if a batch is no larger than the buffer: then there are enough for a batch, and it is sent
however young they are.

## Main definitions

* `Pipeline.withAgeLimit` — the pipeline with another limit on the time that operations may wait.
* `Pipeline.DueAtAnyAge` — a batch is due, however long operations may wait.

## Main results

* `Pipeline.nextBatch_of_count` — enough operations for a batch make it due.
* `Pipeline.refusal_has_a_way_out` — **a pipeline that refuses operations has some on their way
  out.**
-/

namespace BulkDelivery

namespace Pipeline

variable {p : Pipeline} {o : Operation} {now later : Time} {capacity : Nat}

/-- The pipeline with another limit on the time that operations may wait. -/
def withAgeLimit (p : Pipeline) (limit : Nat) : Pipeline :=
  { p with settings := { p.settings with maxTimeInBuffer := limit } }

/-- A batch that holds something is due, however long operations may wait. -/
def DueAtAnyAge (p : Pipeline) (now : Time) : Prop :=
  ∀ limit, ∃ batch q, (p.withAgeLimit limit).nextBatch now false = some (batch, q) ∧
    batch.operations ≠ []

theorem DueAtAnyAge.nextBatch (h : p.DueAtAnyAge now) :
    ∃ batch q, p.nextBatch now false = some (batch, q) ∧ batch.operations ≠ [] :=
  h p.settings.maxTimeInBuffer

/-- Enough operations for a batch make it due. -/
theorem nextBatch_of_count (hcan : p.canDispatch now) (hpos : 0 < p.settings.maxBatchSize)
    (hcount : p.settings.maxBatchSize ≤ p.buffer.length) :
    ∃ batch q, p.nextBatch now false = some (batch, q) ∧ batch.operations ≠ [] := by
  have hreached : p.thresholdReached now := by simp [thresholdReached, hcount]
  have hsome : p.nextBatch now false ≠ none := by
    rw [ne_eq, nextBatch_eq_none_iff, not_not]
    exact ⟨hcan, .inr hreached⟩
  obtain ⟨⟨batch, q⟩, hnext⟩ := Option.ne_none_iff_exists'.1 hsome
  obtain ⟨entries, -, -, hoperations, hne, -⟩ := withinLimits_of_nextBatch hpos hnext
  refine ⟨batch, q, hnext, ?_⟩
  rw [hoperations]
  simpa using hne

/-- With nothing in flight, a full buffer has enough operations for a batch. -/
theorem dueAtAnyAge_of_bufferFull (hvalid : p.settings.Valid) (hflight : p.inFlight = [])
    (hfull : p.accept o now = .error (.bufferFull capacity)) (hpause : p.pauseOver later) :
    p.DueAtAnyAge later := by
  obtain ⟨hrun, -, hcapacity, -⟩ := accept_eq_bufferFull_iff.1 hfull
  have hpending : p.pendingCount = p.buffer.length := by
    rw [pendingCount_eq, hflight]
    rfl
  have hcount : p.settings.maxBatchSize ≤ p.buffer.length :=
    hvalid.batch_le_buffer.trans (hpending ▸ hcapacity)
  have hholds : p.buffer.entries ≠ [] :=
    List.ne_nil_of_length_pos (hvalid.maxBatchSize_pos.trans_le hcount)
  have hslot : p.inFlight.length < p.settings.maxInFlight := by
    rw [hflight]
    exact hvalid.maxInFlight_pos
  have hcan : p.canDispatch later := canDispatch_iff.2 ⟨hrun, hholds, hslot, hpause⟩
  -- neither the guards nor the number that is enough depend on the age
  exact fun limit => nextBatch_of_count (p := p.withAgeLimit limit) hcan
    hvalid.maxBatchSize_pos hcount

/-- **A pipeline that refuses operations has some on their way out.**

A new pipeline with valid settings takes over the operations of checkpoints, and then any calls
follow, with any outcomes.  If an operation is refused because the buffer is full, then a batch is
in flight, or there is a pause after a failure, or a batch is due at once, and it would be due
however long operations may wait.  With nothing in flight it is only the pause that can hold the
batch up, and the batch is due as soon as the pause is over. -/
theorem refusal_has_a_way_out (settings : Settings) (hvalid : settings.validate = .ok ())
    (checkpoints : List Checkpoint) (opened : Time) (ms : List Move) (o : Operation) (now : Time)
    (capacity : Nat)
    (hfull : ((restore { settings } checkpoints opened).moves ms).accept o now
      = .error (.bufferFull capacity)) :
    let p := (restore { settings } checkpoints opened).moves ms
    (p.inFlight ≠ [] ∨ (∃ t, p.pausedUntil = some t ∧ now < t) ∨
      (∃ batch q, p.nextBatch now false = some (batch, q) ∧ batch.operations ≠ []) ∧
        p.DueAtAnyAge now) ∧
    (p.inFlight = [] → ∀ later, (∀ t, p.pausedUntil = some t → t ≤ later) →
      p.DueAtAnyAge later) := by
  intro p
  have hsettings : p.settings.Valid := by
    rw [settings_restore_moves settings checkpoints opened ms]
    exact (Settings.validate_eq_ok_iff settings).1 hvalid
  have hdue : p.inFlight = [] → ∀ later, p.pauseOver later → p.DueAtAnyAge later :=
    fun hflight later => dueAtAnyAge_of_bufferFull hsettings hflight hfull
  constructor
  · by_cases hflight : p.inFlight = []
    · by_cases hpause : p.pauseOver now
      · have hnow := hdue hflight now hpause
        exact .inr (.inr ⟨hnow.nextBatch, hnow⟩)
      · -- a pause that is not over has an end that lies ahead
        cases hend : p.pausedUntil with
        | none => simp [pauseOver, hend] at hpause
        | some t => exact .inr (.inl ⟨t, rfl, (not_pauseOver hend).1 hpause⟩)
    · exact .inl hflight
  · intro hflight later hends
    exact hdue hflight later (pauseOver_iff.2 hends)

/-- More was restored than the buffer may hold, and the first batch failed.  After the pause all of
it waits, nothing is in flight, and an operation is refused.  The operations are far too young to
be sent for their age, and a batch is due. -/
theorem refusal_has_a_way_out_after_failure :
    let settings : Settings := { Settings.testing with maxBatchSize := 2, maxBuffered := 2 }
    let restored : Checkpoint := { operations := [.delete "a", .delete "b", .delete "c"] }
    let moves : List Move := [
      .dispatch 0 true,
      .resolve 0 (.failed { kind := .timeout, message := "slow" }) 3 elasticsearch.classify]
    let p := (restore { settings } [restored] 0).moves moves
    settings.validate = .ok () ∧ p.accept (.delete "d") 13 = .error (.bufferFull 2) ∧
      p.inFlight = [] ∧ p.nextBatch 12 true = none ∧
      (p.nextBatch 13 false).map Prod.fst =
        some { id := 1, operations := [.delete "a", .delete "b"] } ∧
      p.DueAtAnyAge 13 := by
  intro settings restored moves p
  have hvalid : settings.validate = .ok () := by decide
  have hfull : p.accept (.delete "d") 13 = .error (.bufferFull 2) := by decide +kernel
  have hflight : p.inFlight = [] := by decide +kernel
  have hends : ∀ t, p.pausedUntil = some t → t ≤ 13 := by
    intro t ht
    have hpause : p.pausedUntil = some 13 := by decide +kernel
    exact Nat.le_of_eq (Option.some.inj (ht.symm.trans hpause))
  obtain ⟨-, hdue⟩ := refusal_has_a_way_out settings hvalid [restored] 0 moves (.delete "d") 13 2
    hfull
  exact ⟨hvalid, hfull, hflight, by decide +kernel, by decide +kernel, hdue hflight 13 hends⟩

end Pipeline

end BulkDelivery
