import BulkDelivery.Proofs.Buffer.Drain
import BulkDelivery.Proofs.Pipeline.Capacity
import BulkDelivery.Proofs.Pipeline.Precedence
import Mathlib.Algebra.BigOperators.Group.List.Basic
import Mathlib.Algebra.GroupWithZero.Nat

/-!
# The limits of a batch

Three limits meet in a batch.  Admission refuses an operation that is larger than a record may be,
settings pass validation only if a record fits a batch, and a batch grows beyond its first entry
only within the limits.  Hence a batch is too large in one way only: it is a single operation that
was restored, which admission has not seen.  No batch is empty, so nothing is pending exactly when
nothing waits and nothing is in flight.

## Main definitions

* `Journal.Limited` — the slots, the sizes of what arrived, and the batches are within the limits.

## Main results

* `Journal.limited_run` — every run keeps to the limits.
* `Journal.dispatched_within_limits` — **every batch is within the limits of valid settings.**
-/

namespace BulkDelivery

namespace Pipeline

/-- A batch is taken from a buffer that holds something, so it holds something, and it is within
the limits. -/
theorem withinLimits_of_nextBatch {p p' : Pipeline} {now : Time} {force : Bool} {batch : Batch}
    (hsize : 0 < p.settings.maxBatchSize) (h : p.nextBatch now force = some (batch, p')) :
    ∃ entries buffer,
      p.buffer.drain p.settings.maxBatchSize p.settings.maxBatchBytes = (entries, buffer) ∧
        batch.operations = entries.map Entry.operation ∧ entries ≠ [] ∧
        WithinLimits p.settings.maxBatchSize p.settings.maxBatchBytes entries := by
  obtain ⟨hcan, -, entries, buffer, hdrain, rfl, -⟩ := nextBatch_eq_some_iff.1 h
  have htake : p.buffer.entries.take (batchLength p.settings.maxBatchSize
      p.settings.maxBatchBytes 0 0 p.buffer.entries) = entries := congrArg Prod.fst hdrain
  obtain ⟨-, hholds, -, -⟩ := canDispatch_iff.1 hcan
  refine ⟨entries, buffer, hdrain, rfl, ?_, ?_⟩
  · have hpos : 0 < batchLength p.settings.maxBatchSize p.settings.maxBatchBytes 0 0
        p.buffer.entries := batchLength_pos hsize hholds
    intro hnil
    rw [hnil, List.take_eq_nil_iff] at htake
    rcases htake with hzero | hempty
    · omega
    · exact hholds hempty
  · rw [← htake]
    exact withinLimits_take _

end Pipeline

namespace Journal

/-- Everything is within the limits, given what was restored. -/
structure Limited (restored : List Occurrence) (j : Journal) : Prop where
  /-- Every batch in flight has a slot. -/
  slots : j.sent.length ≤ j.pipeline.settings.maxInFlight
  /-- Every batch in flight holds something. -/
  filled : ∀ b ∈ j.sent, b.2 ≠ []
  /-- The sizes that are kept are those of the operations. -/
  sizes : ∀ e ∈ j.arrivals, e.size = e.operation.size
  /-- What was not restored is no larger than a record. -/
  records : ∀ x ∈ j.arrivals.zipIdx,
    x ∈ restored ∨ x.1.size ≤ j.pipeline.settings.maxRecordBytes
  /-- Every batch that was handed out held something and was within the limits. -/
  dispatched : ∀ b ∈ j.dispatched, b.2 ≠ [] ∧
    WithinLimits j.pipeline.settings.maxBatchSize j.pipeline.settings.maxBatchBytes
      (b.2.map Prod.fst)

theorem limited_opening (settings : Settings) (checkpoints : List Checkpoint) (now : Time) :
    (opening settings checkpoints now).Limited (opening settings checkpoints now).waiting where
  slots := Nat.zero_le _
  filled := by simp [opening]
  sizes := by
    intro e he
    obtain ⟨o, -, rfl⟩ := List.mem_map.1 he
    rfl
  records := fun _ hx => .inl hx
  dispatched := by simp [opening]

namespace Limited

variable {restored : List Occurrence} {j : Journal}

/-! ### One move -/

theorem accept (h : j.Limited restored) (o : Operation) (now : Time) :
    (j.record (.accept o now)).Limited restored := by
  cases haccept : j.pipeline.accept o now with
  | error e => simpa [record, haccept] using h
  | ok p =>
    obtain ⟨-, hsize, -, rfl⟩ := Pipeline.accept_eq_ok_iff.1 haccept
    simp only [record, haccept]
    refine ⟨h.slots, h.filled, ?_, ?_, h.dispatched⟩
    · intro e he
      rcases List.mem_append.1 he with hold | hnew
      · exact h.sizes e hold
      · rw [List.mem_singleton.1 hnew]
        rfl
    · -- the newcomer was looked at when it was admitted
      intro x hx
      rw [zipIdx_concat] at hx
      rcases List.mem_append.1 hx with hold | hnew
      · exact h.records x hold
      · rw [List.mem_singleton.1 hnew]
        exact .inr hsize

theorem dispatch (h : j.Limited restored) (hj : j.Faithful)
    (hpos : 0 < j.pipeline.settings.maxBatchSize) (now : Time) (force : Bool) :
    (j.record (.dispatch now force)).Limited restored := by
  cases hnext : j.pipeline.nextBatch now force with
  | none => simpa [record, hnext] using h
  | some next =>
    obtain ⟨batch, p⟩ := next
    obtain ⟨entries, buffer, hdrain, hoperations, hne, hwithin⟩ :=
      Pipeline.withinLimits_of_nextBatch hpos hnext
    obtain ⟨hcan, -, _, _, -, -, hp⟩ := Pipeline.nextBatch_eq_some_iff.1 hnext
    obtain ⟨-, -, hfree, -⟩ := Pipeline.canDispatch_iff.1 hcan
    rw [← hj.length_sent] at hfree
    have hsettings : p.settings = j.pipeline.settings := by rw [hp]
    have hlength : batch.operations.length = entries.length := by
      rw [hoperations, List.length_map]
    have htaken := hj.take_waiting hdrain
    have hholds : j.waiting.take entries.length ≠ [] := by
      intro hnil
      rw [hnil] at htaken
      exact hne htaken.symm
    simp only [record, hnext, hlength]
    refine ⟨?_, ?_, h.sizes, ?_, ?_⟩
    · rw [hsettings, List.length_append, List.length_singleton]
      exact hfree
    · intro b hb
      rcases List.mem_append.1 hb with hold | hnew
      · exact h.filled b hold
      · rw [List.mem_singleton.1 hnew]
        exact hholds
    · rw [hsettings]
      exact h.records
    · intro b hb
      rw [hsettings]
      rcases List.mem_append.1 hb with hold | hnew
      · exact h.dispatched b hold
      · rw [List.mem_singleton.1 hnew]
        refine ⟨hholds, ?_⟩
        show WithinLimits _ _ ((j.waiting.take entries.length).map Prod.fst)
        rw [htaken]
        exact hwithin

theorem resolve (h : j.Limited restored) (id : BatchId) (outcome : Outcome) (now : Time)
    (classify : TransportFailure → Verdict) :
    (j.record (.resolve id outcome now classify)).Limited restored := by
  have hsettings : (j.record (.resolve id outcome now classify)).pipeline.settings
      = j.pipeline.settings := Pipeline.resolve_keeps.1
  have hsent : (j.record (.resolve id outcome now classify)).sent.Sublist j.sent :=
    j.sent_resolve_sublist id outcome now classify
  constructor
  · rw [hsettings]
    exact hsent.length_le.trans h.slots
  · intro b hb
    exact h.filled b (hsent.subset hb)
  · rw [arrivals_resolve]
    exact h.sizes
  · rw [arrivals_resolve, hsettings]
    exact h.records
  · rw [dispatched_resolve, hsettings]
    exact h.dispatched

end Limited

theorem Limited.record {restored : List Occurrence} {j : Journal} (h : j.Limited restored)
    (hj : j.Faithful) (hpos : 0 < j.pipeline.settings.maxBatchSize) (m : Move) :
    (j.record m).Limited restored := by
  cases m with
  | accept o now => exact h.accept o now
  | dispatch now force => exact h.dispatch hj hpos now force
  | resolve id outcome now classify => exact h.resolve id outcome now classify

/-! ### Many moves -/

/-- Every run keeps to the limits. -/
theorem limited_run (settings : Settings) (checkpoints : List Checkpoint) (now : Time)
    (hpos : 0 < settings.maxBatchSize) (ms : List Move) :
    ((opening settings checkpoints now).run ms).Limited
      (opening settings checkpoints now).waiting := by
  have hall : ((opening settings checkpoints now).run ms).Limited
        (opening settings checkpoints now).waiting ∧
      ((opening settings checkpoints now).run ms).Faithful ∧
      ((opening settings checkpoints now).run ms).pipeline.settings = settings := by
    refine run_induction (P := fun j => j.Limited (opening settings checkpoints now).waiting ∧
      j.Faithful ∧ j.pipeline.settings = settings) ?_ ms _ ?_
    · rintro j m ⟨h, hj, hsettings⟩
      refine ⟨h.record hj (hsettings ▸ hpos) m, hj.record m, ?_⟩
      rw [pipeline_record, Pipeline.settings_move, hsettings]
    · exact ⟨limited_opening settings checkpoints now,
        faithful_opening settings checkpoints now, rfl⟩
  exact hall.1

/-- What was handed out has arrived. -/
theorem RetriedFirst.mem_arrivals {j : Journal} {front back : List Occurrence}
    (h : j.RetriedFirst front back) {x : Occurrence} (hx : x ∈ j.handedOut) :
    x ∈ j.arrivals.zipIdx := by
  have hfirst : x ∈ j.firstDispatches := List.mem_eraseDups.2 hx
  rw [← h.arrivals]
  exact List.mem_append_left back hfirst

/-- The pipeline has no empty batch in flight. -/
theorem Limited.inFlight_ne_nil {restored : List Occurrence} {j : Journal}
    (h : j.Limited restored) (hj : j.Faithful) : ∀ b ∈ j.pipeline.inFlight, b.2 ≠ [] := by
  intro b hb
  rw [← hj.sent] at hb
  obtain ⟨c, hc, rfl⟩ := List.mem_map.1 hb
  simpa using h.filled c hc

/-- Nothing is pending if and only if nothing waits and nothing is in flight. -/
theorem Limited.isDrained_eq {restored : List Occurrence} {j : Journal} (h : j.Limited restored)
    (hj : j.Faithful) : j.pipeline.isDrained = j.pipeline.stats.isIdle := by
  have hidle : j.pipeline.stats.isIdle ↔ j.pipeline.pendingCount = 0 := by
    simp [Stats.isIdle, Stats.pending, Pipeline.stats, Pipeline.pendingCount]
  have hfilled : ∀ b ∈ j.pipeline.inFlight, b.2 ≠ [] := h.inFlight_ne_nil hj
  rw [Bool.eq_iff_iff, Pipeline.isDrained_iff, hidle, Pipeline.pendingCount_eq]
  constructor
  · rintro ⟨hbuffer, hflight⟩
    rw [hbuffer, hflight]
    rfl
  · intro hzero
    have hbuffer : j.pipeline.buffer.entries = [] := List.length_eq_zero_iff.1 (by omega)
    have hnothing : j.pipeline.inFlight.flatMap Prod.snd = [] :=
      List.length_eq_zero_iff.1 (by omega)
    refine ⟨hbuffer, List.eq_nil_iff_forall_not_mem.2 ?_⟩
    intro b hb
    exact hfilled b hb (List.flatMap_eq_nil_iff.1 hnothing b hb)

/-- **Every batch is within the limits of valid settings.**

A new pipeline with settings that pass validation takes over the operations of checkpoints, of any
size, and then any calls follow, forced ones among them.  There are never more batches in flight
than slots.  Batches are numbered 0, 1, 2 and so on.  No batch is empty or has more operations than
a batch may have, and their encodings are together no longer than a batch may be, unless the batch
is a single operation that was restored.  So nothing waits and nothing is in flight if and only if
the reported counters say that nothing is pending. -/
theorem dispatched_within_limits (settings : Settings) (hvalid : settings.validate = .ok ())
    (checkpoints : List Checkpoint) (opened : Time) (ms : List Move) :
    let start := opening settings checkpoints opened
    let j := start.run ms
    (j.Faithful ∧ j.pipeline = start.pipeline.moves ms ∧
      j.dispatched.map Prod.fst = start.pipeline.batches ms) ∧
    j.pipeline.inFlight.length ≤ settings.maxInFlight ∧
    (start.pipeline.batches ms).map Batch.id = List.range j.pipeline.nextId ∧
    (∀ b ∈ j.dispatched, b.1.operations ≠ [] ∧
      b.1.operations.length ≤ settings.maxBatchSize ∧
      ((b.1.operations.map fun o => o.encode.length).sum ≤ settings.maxBatchBytes ∨
        ∃ x ∈ start.waiting, b.2 = [x])) ∧
    j.pipeline.isDrained = j.pipeline.stats.isIdle := by
  intro start j
  have hvalid := (Settings.validate_eq_ok_iff settings).1 hvalid
  have hj : j.Faithful := faithful_run settings checkpoints opened ms
  have h : j.Limited start.waiting :=
    limited_run settings checkpoints opened hvalid.maxBatchSize_pos ms
  obtain ⟨front, back, hretried⟩ := retriedFirst_run settings checkpoints opened ms
  have hpipeline : j.pipeline = start.pipeline.moves ms := pipeline_run start ms
  have hsettings : j.pipeline.settings = settings := by
    rw [hpipeline, Pipeline.settings_moves]
    rfl
  have hbatches : j.dispatched.map Prod.fst = start.pipeline.batches ms := batches_run start ms
  refine ⟨⟨hj, hpipeline, hbatches⟩, ?_, ?_, ?_, h.isDrained_eq hj⟩
  · rw [← hj.length_sent, ← hsettings]
    exact h.slots
  · rw [← hbatches, List.map_map]
    exact hretried.numbers
  · intro b hb
    obtain ⟨hne, hwithin⟩ := h.dispatched b hb
    rw [hsettings] at hwithin
    have hoperations : (b.2.map Prod.fst).map Entry.operation = b.1.operations := by
      rw [List.map_map]
      exact hj.dispatched b hb
    have harrived : ∀ x ∈ b.2, x ∈ j.arrivals.zipIdx :=
      fun x hx => hretried.mem_arrivals (List.mem_flatMap_of_mem hb hx)
    have hsizes : ∀ e ∈ b.2.map Prod.fst, e.size = e.operation.size := by
      intro e he
      obtain ⟨x, hx, rfl⟩ := List.mem_map.1 he
      exact h.sizes x.1 (List.fst_mem_of_mem_zipIdx (harrived x hx))
    have htotal := totalSize_eq_sum hsizes
    rw [← hoperations, ← htotal]
    refine ⟨by simpa using hne, by simpa using hwithin.count, ?_⟩
    rcases hwithin.bytes with hone | hfits
    · -- a batch of one operation: it was restored, or it is a record
      obtain ⟨x, hx⟩ := List.length_eq_one_iff.1 (List.length_map Prod.fst ▸ hone)
      have hmem : x ∈ b.2 := by rw [hx]; exact List.mem_singleton_self x
      rcases h.records x (harrived x hmem) with hrestored | hrecord
      · exact .inr ⟨x, hrestored, hx⟩
      · refine .inl ?_
        rw [hsettings] at hrecord
        calc totalSize (b.2.map Prod.fst) = x.1.size := by rw [hx]; rfl
          _ ≤ settings.maxRecordBytes := hrecord
          _ ≤ settings.maxBatchBytes := hvalid.record_le_batch
    · exact .inl hfits

/-- A restored operation is larger than a batch may be.  It is sent alone, comes back and is sent
alone again, while the smaller ones go together. -/
theorem dispatched_within_limits_restored_large :
    let settings : Settings :=
      { Settings.testing with maxBatchSize := 2, maxBatchBytes := 25, maxRecordBytes := 25 }
    let restored : Checkpoint :=
      { operations := [.index "large" [1, 2, 3, 4, 5, 6, 7], .delete "a"] }
    let moves : List Move := [
      .dispatch 0 true, .accept (.delete "b") 1, .dispatch 1 true, .accept (.delete "c") 2,
      .dispatch 2 true, .resolve 0 (.failed { kind := .timeout, message := "slow" }) 3
        elasticsearch.classify,
      .dispatch 20 true]
    settings.validate = .ok () ∧
      ((opening settings [restored] 0).pipeline.batches moves).map Batch.operations =
        [[.index "large" [1, 2, 3, 4, 5, 6, 7]], [.delete "a", .delete "b"],
          [.index "large" [1, 2, 3, 4, 5, 6, 7]]] ∧
      ((opening settings [restored] 0).run moves).pipeline.inFlight.length
        ≤ settings.maxInFlight ∧
      ∀ b ∈ ((opening settings [restored] 0).run moves).dispatched, b.1.operations ≠ [] ∧
        b.1.operations.length ≤ settings.maxBatchSize ∧
        ((b.1.operations.map fun o => o.encode.length).sum ≤ settings.maxBatchBytes ∨
          ∃ x ∈ (opening settings [restored] 0).waiting, b.2 = [x]) := by
  intro settings restored moves
  have hvalid : settings.validate = .ok () := by decide +kernel
  obtain ⟨-, hslots, -, hlimits, -⟩ := dispatched_within_limits settings hvalid [restored] 0 moves
  exact ⟨hvalid, by decide +kernel, hslots, hlimits⟩

end Journal

end BulkDelivery
