import BulkDelivery.Proofs.Buffer.Drain
import BulkDelivery.Proofs.Format.Checkpoint
import BulkDelivery.Proofs.Pipeline.Conservation

/-!
# Recovery from a checkpoint

A checkpoint lists what the store has not acknowledged: the batches in flight in the order of
sending, and then the buffer.  Stored, read back and restored into a new pipeline, with whatever
valid settings, it is sent in the same order, and then nothing is left to do.

## Main definitions

* `Round`, `Pipeline.deliver` — force a batch and have all of it acknowledged, again and again.

## Main results

* `Pipeline.deliver_eq` — what is delivered is the buffer, in order, to its end.
* `Journal.recovery` — **a checkpoint loses nothing and keeps the order.**
-/

namespace BulkDelivery

/-! ### Delivering everything -/

/-- The circumstances under which a batch is sent and then acknowledged. -/
structure Round where
  /-- When the batch is sent. -/
  sentAt : Time
  /-- When the answer arrives. -/
  answeredAt : Time
  /-- How long the store took. -/
  took : Duration
  /-- The verdict on failures, of which there are none. -/
  classify : TransportFailure → Verdict

namespace Outcome

variable {α : Type}

/-- The outcome that acknowledges a whole batch of `n` operations. -/
def success (n : Nat) (took : Duration) : Outcome :=
  .answered (.success n took)

theorem results?_success (n : Nat) (took : Duration) :
    (success n took).results? n = some (List.replicate n .success) := by
  simp [success, results?, Response.success]

theorem returned_success (batch : List α) (took : Duration) :
    (success batch.length took).returned batch = [] := by
  simp only [returned, results?_success]
  rw [List.map_eq_nil_iff, List.filter_eq_nil_iff]
  intro x hx
  have hsnd := (List.mem_replicate.1 (List.of_mem_zip hx).2).2
  simp [hsnd]

theorem halt?_success (classify : TransportFailure → Verdict) (n : Nat) (took : Duration) :
    (success n took).halt? classify n = none := by
  simp only [halt?, success, Response.success, List.length_replicate, if_true]
  rw [List.findSome?_eq_none_iff]
  intro result hresult
  rw [(List.mem_replicate.1 hresult).2]
  rfl

end Outcome

namespace Pipeline

/-- A new pipeline that takes over a checkpoint holds its operations and their total. -/
theorem buffer_restore (settings : Settings) (os : List Operation) (now : Time) :
    (Pipeline.restore { settings } [{ operations := os }] now).buffer.operations = os ∧
      (Pipeline.restore { settings } [{ operations := os }] now).buffer.byteTotal =
        Checkpoint.byteTotal { operations := os } := by
  rw [restore_eq]
  constructor
  · simp [Buffer.operations, Function.comp_def, Entry.of]
  · simp [totalSize, List.foldr_map, Entry.of, Checkpoint.byteTotal]

/-- Force a batch and have all of it acknowledged, round after round, until none is due: the
batches that were sent, and the pipeline in the end. -/
def deliver : Pipeline → List Round → List Batch × Pipeline
  | p, [] => ([], p)
  | p, r :: rounds =>
    match p.nextBatch r.sentAt true with
    | none => ([], p)
    | some (batch, p) =>
      let outcome := Outcome.success batch.operations.length r.took
      let (_, p) := p.resolve batch.id outcome r.answeredAt r.classify
      let (batches, p) := deliver p rounds
      (batch :: batches, p)

/-- A pipeline that has sent nothing and is free to send. -/
structure Ready (p : Pipeline) : Prop where
  running : p.halt = none
  landed : p.inFlight = []
  unpaused : p.pausedUntil = none
  size_pos : 0 < p.settings.maxBatchSize
  slots_pos : 0 < p.settings.maxInFlight

/-- Forcing a batch takes a part of the buffer that is not empty. -/
theorem Ready.nextBatch {p : Pipeline} (h : p.Ready) (hne : p.buffer.entries ≠ []) (now : Time) :
    ∃ entries buffer q, entries ≠ [] ∧ p.buffer.entries = entries ++ buffer.entries ∧
      p.nextBatch now true =
        some ({ id := p.nextId, operations := entries.map Entry.operation }, q) ∧
      q.settings = p.settings ∧ q.buffer = buffer ∧ q.inFlight = [(p.nextId, entries)] ∧
      q.halt = none ∧ q.pausedUntil = none := by
  obtain ⟨⟨entries, buffer⟩, hdrain⟩ :
      ∃ x, p.buffer.drain p.settings.maxBatchSize p.settings.maxBatchBytes = x := ⟨_, rfl⟩
  have happend := Buffer.drain_append p.buffer p.settings.maxBatchSize p.settings.maxBatchBytes
  rw [hdrain] at happend
  have hentries : entries ≠ [] := by
    have hpos : 0 < batchLength p.settings.maxBatchSize p.settings.maxBatchBytes 0 0
        p.buffer.entries := batchLength_pos h.size_pos hne
    have htake : p.buffer.entries.take _ = entries := congrArg Prod.fst hdrain
    rw [← htake]
    simp [List.take_eq_nil_iff, hne, Nat.ne_of_gt hpos]
  have hcan : p.canDispatch now := by
    simp [canDispatch, h.running, Buffer.isEmpty, hne, hasFreeSlot, h.landed, h.slots_pos,
      pauseOver, h.unpaused]
  refine ⟨entries, buffer, _, hentries, happend.symm,
    nextBatch_eq_some_iff.2 ⟨hcan, .inl rfl, entries, buffer, hdrain, rfl, rfl⟩,
    rfl, rfl, ?_, h.running, rfl⟩
  rw [h.landed]
  rfl

/-- Acknowledging the only batch in flight leaves what waits. -/
theorem Ready.resolve {q : Pipeline} {id : BatchId} {entries : List Entry}
    (hsize : 0 < q.settings.maxBatchSize) (hslots : 0 < q.settings.maxInFlight)
    (hflight : q.inFlight = [(id, entries)]) (hrun : q.halt = none) (hpause : q.pausedUntil = none)
    (took : Duration) (now : Time) (classify : TransportFailure → Verdict) :
    (q.resolve id (.success entries.length took) now classify).2.buffer = q.buffer ∧
      (q.resolve id (.success entries.length took) now classify).2.Ready := by
  have hlookup : q.inFlight.lookup id = some entries := by simp [hflight]
  rw [resolve_eq_settled hrun hlookup (Outcome.halt?_success classify entries.length took),
    Outcome.returned_success]
  refine ⟨by simp [Buffer.requeue], hrun, ?_, ?_, hsize, hslots⟩
  · simp [hflight]
  · simp [Outcome.failsWhole, Outcome.results?_success, hpause]

/-- **Everything that waits is delivered, in order.**  A round for every operation is enough. -/
theorem deliver_eq {p : Pipeline} (h : p.Ready) {rounds : List Round}
    (hrounds : p.buffer.entries.length ≤ rounds.length) :
    (p.deliver rounds).1.flatMap Batch.operations = p.buffer.operations ∧
      (p.deliver rounds).2.isDrained := by
  induction rounds generalizing p with
  | nil =>
    have hnil : p.buffer.entries = [] := List.length_eq_zero_iff.1 (Nat.le_zero.1 hrounds)
    exact ⟨by simp [deliver, Buffer.operations, hnil], isDrained_iff.2 ⟨hnil, h.landed⟩⟩
  | cons r rounds ih =>
    by_cases hnil : p.buffer.entries = []
    · -- nothing is due, and the rounds that are left are not needed
      have hdrained := isDrained_iff.2 ⟨hnil, h.landed⟩
      rw [deliver, nextBatch_eq_none_of_drained hdrained]
      exact ⟨by simp [Buffer.operations, hnil], hdrained⟩
    · obtain ⟨entries, buffer, q, hne, happend, hnext, hsettings, rfl, hflight, hrun, hpause⟩ :=
        h.nextBatch hnil r.sentAt
      obtain ⟨hbuffer, hready⟩ := Ready.resolve (hsettings ▸ h.size_pos) (hsettings ▸ h.slots_pos)
        hflight hrun hpause r.took r.answeredAt r.classify
      -- a batch is never empty, so fewer operations are left than rounds
      have hfewer : (q.resolve p.nextId (.success entries.length r.took) r.answeredAt
          r.classify).2.buffer.entries.length ≤ rounds.length := by
        have hpos := List.length_pos_of_ne_nil hne
        rw [happend, List.length_append, List.length_cons] at hrounds
        rw [hbuffer]
        omega
      obtain ⟨hoperations, hdrained⟩ := ih hready hfewer
      simp only [deliver, hnext, List.length_map, List.flatMap_cons]
      refine ⟨?_, hdrained⟩
      rw [hoperations, hbuffer, Buffer.operations, Buffer.operations, happend, List.map_append]

end Pipeline

/-! ### Recovery -/

namespace Journal

/-- **A checkpoint loses nothing and keeps the order.**

The checkpoint of a pipeline that has not halted lists what it holds: the batches in flight in the
order of their numbers, then the buffer.  Every arrival is either held or acknowledged, and once
only.  Whatever the settings of a new pipeline, the checkpoint that is read back from its stored
form fills its buffer with the same operations and the recorded total, and forcing batch after
batch sends them in the same order until nothing is left. -/
theorem recovery (settings : Settings) (checkpoints : List Checkpoint) (opened : Time)
    (ms : List Move)
    (hrun : ((opening settings checkpoints opened).run ms).pipeline.halt = none)
    (hcount : ((opening settings checkpoints opened).run ms).pipeline.pendingCount < 2 ^ 32)
    (hframes : ∀ o ∈ ((opening settings checkpoints opened).run ms).pipeline.pending,
      o.encode.length < 2 ^ 32) :
    let j := (opening settings checkpoints opened).run ms
    let held := j.sent.flatMap Prod.snd ++ j.waiting
    ∃ c, j.pipeline.snapshot = .ok c ∧
      (j.Faithful ∧ (j.pipeline.inFlight.map Prod.fst).Pairwise (· < ·)) ∧
      c.operations = (j.pipeline.inFlight.flatMap fun b => b.2.map Entry.operation) ++
        j.pipeline.buffer.operations ∧
      (c.operations = operationsOf held ∧ (held ++ j.acknowledged).Perm j.arrivals.zipIdx) ∧
      Checkpoint.decode c.encode = .ok c ∧
      ∀ (settings' : Settings) (reopened : Time), settings'.validate = .ok () →
        let q := Pipeline.restore { settings := settings' } [c] reopened
        q.buffer.operations = c.operations ∧ q.buffer.byteTotal = c.byteTotal ∧
        ∀ rounds : List Round, c.operations.length ≤ rounds.length →
          (q.deliver rounds).1.flatMap Batch.operations = c.operations ∧
          (q.deliver rounds).2.isDrained := by
  intro j held
  have hj : j.Faithful := faithful_run settings checkpoints opened ms
  have hfits : Checkpoint.Fits { operations := j.pipeline.pending } := by
    refine ⟨?_, hframes⟩
    rw [j.pipeline.length_pending]
    exact hcount
  refine ⟨{ operations := j.pipeline.pending }, ?_, ⟨hj, ?_⟩, rfl, ⟨hj.pending_eq, ?_⟩,
    Checkpoint.decode_encode hfits, ?_⟩
  · simp only [Pipeline.snapshot, hrun, j]
  · rw [← hj.sent, List.map_map]
    exact hj.ordered
  · -- without a halt there are three places only
    have hplaces := hj.places
    rw [hj.running hrun, List.append_nil] at hplaces
    refine List.Perm.trans ?_ hplaces
    rw [← List.append_assoc]
    exact List.perm_append_comm.append_right _
  · intro settings' reopened hvalid
    have hvalid := (Settings.validate_eq_ok_iff settings').1 hvalid
    have hbuffer := Pipeline.buffer_restore settings' j.pipeline.pending reopened
    refine ⟨hbuffer.1, hbuffer.2, ?_⟩
    intro rounds hrounds
    have hready : (Pipeline.restore { settings := settings' }
        [{ operations := j.pipeline.pending }] reopened).Ready :=
      ⟨rfl, rfl, rfl, hvalid.maxBatchSize_pos, hvalid.maxInFlight_pos⟩
    have hlen := congrArg List.length hbuffer.1
    rw [Buffer.operations, List.length_map] at hlen
    have hdelivered := Pipeline.deliver_eq hready (hlen.trans_le hrounds)
    rw [hbuffer.1] at hdelivered
    exact hdelivered

/-- Of two batches in flight the first comes back half acknowledged: what it returns stands behind
the second batch and before what was admitted last. -/
theorem recovery_after_partial_answer :
    let moves : List Move := [
      .accept (.delete "a") 0, .accept (.delete "b") 0, .dispatch 0 true,
      .accept (.index "c" [7]) 1, .dispatch 1 true, .accept (.delete "d") 2,
      .resolve 0 (.answered { items := [.success, .failed (.rejected "full")], took := ⟨5⟩ }) 3
        elasticsearch.classify]
    let p := ((opening .testing [] 0).run moves).pipeline
    p.halt = none ∧ p.pendingCount < 2 ^ 32 ∧ (∀ o ∈ p.pending, o.encode.length < 2 ^ 32) ∧
      ∃ c, p.snapshot = .ok c ∧ Checkpoint.decode c.encode = .ok c ∧
        c.operations = [.index "c" [7], .delete "b", .delete "d"] := by
  intro moves p
  have hrun : p.halt = none := by decide +kernel
  have hcount : p.pendingCount < 2 ^ 32 := by decide +kernel
  have hframes : ∀ o ∈ p.pending, o.encode.length < 2 ^ 32 := by decide +kernel
  obtain ⟨c, hsnapshot, -, hoperations, -, hdecode, -⟩ :=
    recovery .testing [] 0 moves hrun hcount hframes
  refine ⟨hrun, hcount, hframes, c, hsnapshot, hdecode, ?_⟩
  rw [hoperations]
  decide +kernel

end Journal

end BulkDelivery
