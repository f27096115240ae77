import BulkDelivery.Proofs.Buffer.Balance
import BulkDelivery.Proofs.Pipeline.Halting
import BulkDelivery.Proofs.Pipeline.Limits

/-!
# The counters balance

Each counter of a pipeline goes up in one place, and what is held changes in others.  Together they
account for everything all the same: what was taken in is acknowledged or held, what was handed out
is acknowledged, put back or in flight, and a batch that was taken is in flight or settled.  After
a halt one batch is missing, and it is the batch that brought the halt.

## Main definitions

* `Settlement` — a batch that was settled, with its outcome.
* `Pipeline.settlementOf`, `Pipeline.settlementsOf` — the settlements of a move and of several.
* `Pipeline.Balanced` — the counters account for everything.

## Main results

* `Pipeline.Balanced.move`, `Journal.Faithful.balanced_moves` — a move and a run keep the balance.
* `Pipeline.Balanced.halt` — what a halt leaves open is the batch that brought it.
* `Pipeline.stats_balance` — **the counters balance, and after a halt but for the batch that brought
  it.**
-/

namespace BulkDelivery

/-- A batch that was settled, with its outcome. -/
structure Settlement where
  /-- The batch. -/
  batch : List Entry
  /-- Its outcome. -/
  outcome : Outcome

/-- The request failed, or the answer has another number of results than the batch operations. -/
def Settlement.isFailure (s : Settlement) : Bool :=
  match s.outcome with
  | .failed _ => true
  | .answered response => response.items.length != s.batch.length

theorem Settlement.isFailure_eq (s : Settlement) :
    s.isFailure = s.outcome.failsWhole s.batch.length := by
  obtain ⟨batch, outcome⟩ := s
  cases outcome with
  | failed failure => rfl
  | answered response =>
    by_cases hlen : response.items.length = batch.length <;>
      simp [isFailure, Outcome.failsWhole, Outcome.results?, hlen]

namespace Pipeline

/-- The batch that a move settles, with its outcome.  A batch that halts the pipeline is not
settled. -/
def settlementOf (p : Pipeline) : Move → List Settlement
  | .resolve id outcome now classify =>
    match (p.resolve id outcome now classify).1 with
    | .settled _ _ => (p.inFlight.lookup id).toList.map fun batch => { batch, outcome }
    | _ => []
  | _ => []

/-- The settlements of several moves, in order. -/
def settlementsOf : Pipeline → List Move → List Settlement
  | _, [] => []
  | p, m :: ms => p.settlementOf m ++ settlementsOf (p.move m) ms

/-- The counters account for the restored operations, for the batches that were handed out and for
the settlements. -/
structure Balanced (restored : Nat) (batches : List Batch) (settlements : List Settlement)
    (p : Pipeline) : Prop where
  /-- What was taken in is acknowledged, waits or is in flight. -/
  received : restored + p.tally.admitted =
    p.tally.acknowledged + p.buffer.length + p.inFlightCount
  /-- What was handed out, each time, is acknowledged, was put back or is in flight. -/
  handedOut : (batches.map fun b => b.operations.length).sum =
    p.tally.acknowledged + p.tally.requeued + p.inFlightCount
  /-- A batch that was taken is in flight or settled. -/
  dispatched : p.tally.dispatched = p.inFlight.length + settlements.length
  /-- The failures that count are settlements. -/
  failed : p.tally.failed = settlements.countP Settlement.isFailure

variable {p : Pipeline} {restored : Nat} {batches : List Batch} {settlements : List Settlement}
  {id : BatchId} {outcome : Outcome} {now : Time} {force : Bool}
  {classify : TransportFailure → Verdict} {entries : List Entry}

/-! ### One move -/

theorem balanced_restore (settings : Settings) (checkpoints : List Checkpoint) (opened : Time) :
    (restore { settings } checkpoints opened).Balanced
      (checkpoints.flatMap Checkpoint.operations).length [] [] := by
  rw [restore_eq]
  refine ⟨?_, rfl, rfl, rfl⟩
  simp [Buffer.length, inFlightCount]

/-- What is in flight without a batch, counted. -/
theorem length_filter_of_lookup (hids : (p.inFlight.map Prod.fst).Pairwise (· < ·))
    (hbatch : p.inFlight.lookup id = some entries) :
    p.inFlight.length = (p.inFlight.filter (·.1 != id)).length + 1 ∧
      p.inFlightCount =
        entries.length + inFlightCount { p with inFlight := p.inFlight.filter (·.1 != id) } := by
  refine ⟨(Journal.perm_of_lookup hids hbatch).length_eq, ?_⟩
  have hcontent := (Journal.flatMap_perm_of_lookup hids hbatch).length_eq
  rw [inFlightCount_eq, inFlightCount_eq, hcontent, List.length_append]

/-- Only the outcome of a batch in flight halts, and only if it demands a halt. -/
theorem demand_of_halted (h : (p.resolve id outcome now classify).1 = .halted) :
    p.halt = none ∧ ∃ entries halt, p.inFlight.lookup id = some entries ∧
      outcome.halt? classify entries.length = some halt := by
  rcases p.ignored_or_inFlight id with hignored | ⟨hrun, entries, hbatch⟩
  · rw [resolve_eq_ignored hignored] at h
    cases h
  cases hdemand : outcome.halt? classify entries.length with
  | some halt => exact ⟨hrun, entries, halt, hbatch, hdemand⟩
  | none =>
    rw [resolve_eq_settled hrun hbatch hdemand] at h
    cases h

theorem settlementOf_resolve (hrun : p.halt = none) (hbatch : p.inFlight.lookup id = some entries)
    (hharmless : outcome.halt? classify entries.length = none) :
    p.settlementOf (.resolve id outcome now classify) = [{ batch := entries, outcome }] := by
  simp [settlementOf, resolve_eq_settled hrun hbatch hharmless, hbatch]

namespace Balanced

theorem accept (h : p.Balanced restored batches settlements) (o : Operation) :
    (p.move (.accept o now)).Balanced restored batches settlements := by
  rw [Pipeline.move]
  cases haccept : p.accept o now with
  | error e => exact h
  | ok q =>
    obtain ⟨-, -, -, rfl⟩ := accept_eq_ok_iff.1 haccept
    refine { h with received := ?_ }
    have hreceived := h.received
    show restored + (p.tally.admitted + 1) =
      p.tally.acknowledged + (p.buffer.entries ++ [Entry.of o now]).length + p.inFlightCount
    rw [List.length_append, List.length_singleton]
    unfold Buffer.length at hreceived
    omega

theorem dispatch (h : p.Balanced restored batches settlements) :
    (p.move (.dispatch now force)).Balanced restored
      (batches ++ p.handsOut (.dispatch now force)) settlements := by
  rw [Pipeline.move, handsOut]
  cases hnext : p.nextBatch now force with
  | none => simpa using h
  | some taken =>
    obtain ⟨batch, q⟩ := taken
    obtain ⟨-, -, entries, buffer, hdrain, rfl, rfl⟩ := nextBatch_eq_some_iff.1 hnext
    have happend := Buffer.drain_append p.buffer p.settings.maxBatchSize p.settings.maxBatchBytes
    rw [hdrain] at happend
    have hlength : p.buffer.entries.length = entries.length + buffer.entries.length := by
      rw [← happend, List.length_append]
    have hreceived := h.received
    have hhanded := h.handedOut
    have hdispatched := h.dispatched
    rw [inFlightCount_eq] at hreceived hhanded
    unfold Buffer.length at hreceived
    -- the batch moves from the buffer to the flight
    constructor
    · simp only [Option.map_some, Option.getD_some, Buffer.length, inFlightCount_eq,
        List.flatMap_append, List.flatMap_singleton, List.length_append]
      omega
    · simp only [Option.map_some, Option.getD_some, Option.toList_some, inFlightCount_eq,
        List.flatMap_append, List.flatMap_singleton, List.length_append, List.map_append,
        List.map_singleton, List.sum_append, List.sum_singleton, List.length_map]
      omega
    · simp only [Option.map_some, Option.getD_some, List.length_append, List.length_singleton]
      omega
    · exact h.failed

theorem resolve (h : p.Balanced restored batches settlements)
    (hids : (p.inFlight.map Prod.fst).Pairwise (· < ·))
    (hstill : (p.move (.resolve id outcome now classify)).halt = none) :
    (p.move (.resolve id outcome now classify)).Balanced restored batches
      (settlements ++ p.settlementOf (.resolve id outcome now classify)) := by
  rcases p.ignored_or_inFlight id with hignored | ⟨hrun, entries, hbatch⟩
  · have hnothing : p.settlementOf (.resolve id outcome now classify) = [] := by
      rw [settlementOf, resolve_eq_ignored hignored]
    rw [hnothing, List.append_nil, Pipeline.move, resolve_eq_ignored hignored]
    exact h
  cases hdemand : outcome.halt? classify entries.length with
  | some halt =>
    rw [Pipeline.move, resolve_eq_halted hrun hbatch hdemand] at hstill
    cases hstill
  | none =>
    obtain ⟨hflight, hcontent⟩ := length_filter_of_lookup hids hbatch
    have hparts := (outcome.acknowledged_append_returned_perm entries).length_eq
    have hreceived := h.received
    have hhanded := h.handedOut
    have hdispatched := h.dispatched
    rw [List.length_append] at hparts
    rw [settlementOf_resolve hrun hbatch hdemand, Pipeline.move,
      resolve_eq_settled hrun hbatch hdemand]
    rw [inFlightCount_eq] at hreceived hhanded hcontent
    unfold Buffer.length at hreceived
    -- the batch leaves the flight, and each of its operations goes one of two ways
    constructor
    · simp only [Buffer.length, Buffer.entries_requeue, List.length_append, inFlightCount_eq]
        at hcontent ⊢
      omega
    · simp only [inFlightCount_eq] at hcontent ⊢
      omega
    · simp only [List.length_append, List.length_singleton]
      omega
    · rw [List.countP_append, List.countP_singleton, Settlement.isFailure_eq, h.failed]

theorem move (h : p.Balanced restored batches settlements)
    (hids : (p.inFlight.map Prod.fst).Pairwise (· < ·)) (m : Move)
    (hstill : (p.move m).halt = none) :
    (p.move m).Balanced restored (batches ++ p.handsOut m) (settlements ++ p.settlementOf m) := by
  cases m with
  | accept o now =>
    show (p.move _).Balanced restored (batches ++ []) (settlements ++ [])
    rw [List.append_nil, List.append_nil]
    exact h.accept o
  | dispatch now force =>
    show (p.move _).Balanced restored _ (settlements ++ [])
    rw [List.append_nil]
    exact h.dispatch
  | resolve id outcome now classify =>
    show (p.move _).Balanced restored (batches ++ []) _
    rw [List.append_nil]
    exact h.resolve hids hstill

/-- What a halt leaves open is the batch that brought it. -/
theorem halt (h : p.Balanced restored batches settlements)
    (hids : (p.inFlight.map Prod.fst).Pairwise (· < ·)) (hrun : p.halt = none)
    (hbatch : p.inFlight.lookup id = some entries) {halt : Halt}
    (hdemand : outcome.halt? classify entries.length = some halt) :
    let q := p.move (.resolve id outcome now classify)
    restored + q.tally.admitted =
      q.tally.acknowledged + q.buffer.length + q.inFlightCount + entries.length ∧
    (batches.map fun b => b.operations.length).sum =
      q.tally.acknowledged + q.tally.requeued + q.inFlightCount + entries.length := by
  intro q
  obtain ⟨-, hcontent⟩ := length_filter_of_lookup hids hbatch
  have hreceived := h.received
  have hhanded := h.handedOut
  have hq : q = p.move (.resolve id outcome now classify) := rfl
  rw [Pipeline.move, resolve_eq_halted hrun hbatch hdemand] at hq
  rw [hq]
  simp only [inFlightCount_eq] at hreceived hhanded hcontent ⊢
  omega

end Balanced

/-! ### After a halt -/

/-- After a halt nothing is handed out. -/
theorem batches_of_halt (h : p.halt.isSome) (ms : List Move) : p.batches ms = [] := by
  obtain ⟨halt, hhalt⟩ := Option.isSome_iff_exists.1 h
  have hstopped := stopped_of_halt hhalt
  induction ms with
  | nil => rfl
  | cons m ms ih =>
    rw [batches, hstopped.move, ih, List.append_nil]
    cases m with
    | dispatch now force => rw [handsOut, hstopped.nextBatch]; rfl
    | _ => rfl

/-! ### The octets that wait -/

theorem isBalanced_restore (settings : Settings) (checkpoints : List Checkpoint) (opened : Time) :
    (restore { settings } checkpoints opened).buffer.isBalanced := by
  rw [Buffer.isBalanced_iff, restore_eq]
  exact Nat.zero_add _

theorem isBalanced_move (h : p.buffer.isBalanced) (m : Move) : (p.move m).buffer.isBalanced := by
  cases m with
  | accept o now =>
    rw [move]
    cases haccept : p.accept o now with
    | error e => exact h
    | ok q =>
      obtain ⟨-, -, -, rfl⟩ := accept_eq_ok_iff.1 haccept
      exact Buffer.isBalanced_push h (Entry.of o now)
  | dispatch now force =>
    rw [move]
    cases hnext : p.nextBatch now force with
    | none => exact h
    | some taken =>
      obtain ⟨batch, q⟩ := taken
      obtain ⟨-, -, entries, buffer, hdrain, -, rfl⟩ := nextBatch_eq_some_iff.1 hnext
      have hrest := Buffer.isBalanced_drain h p.settings.maxBatchSize p.settings.maxBatchBytes
      rw [hdrain] at hrest
      exact hrest
  | resolve id outcome now classify =>
    rw [move]
    rcases p.ignored_or_inFlight id with hignored | ⟨hrun, entries, hbatch⟩
    · rw [resolve_eq_ignored hignored]
      exact h
    cases hdemand : outcome.halt? classify entries.length with
    | some halt =>
      rw [resolve_eq_halted hrun hbatch hdemand]
      exact h
    | none =>
      rw [resolve_eq_settled hrun hbatch hdemand]
      exact Buffer.isBalanced_requeue h (outcome.returned entries)

theorem isBalanced_moves (h : p.buffer.isBalanced) (ms : List Move) :
    (p.moves ms).buffer.isBalanced := by
  induction ms generalizing p with
  | nil => exact h
  | cons m ms ih => exact ih (isBalanced_move h m)

end Pipeline

namespace Journal

variable {j : Journal}

/-- What waits has arrived. -/
theorem Faithful.entries_subset (h : j.Faithful) : j.pipeline.buffer.entries ⊆ j.arrivals := by
  rw [← h.waiting, ← List.zipIdx_map_fst 0 j.arrivals]
  intro e he
  obtain ⟨x, hx, rfl⟩ := List.mem_map.1 he
  exact List.mem_map_of_mem (h.mem_zipIdx_of_waiting hx)

/-- The sizes that are kept are those of the operations. -/
theorem size_of_mem_arrivals (settings : Settings) (checkpoints : List Checkpoint) (opened : Time)
    (ms : List Move) :
    ∀ e ∈ ((opening settings checkpoints opened).run ms).arrivals, e.size = e.operation.size := by
  refine run_induction (P := fun j => ∀ e ∈ j.arrivals, e.size = e.operation.size) ?_ ms _ ?_
  · intro j m h e he
    rw [arrivals_record_eq] at he
    rcases List.mem_append.1 he with hold | hnew
    · exact h e hold
    · obtain ⟨o, -, rfl⟩ := List.mem_map.1 hnew
      rfl
  · intro e he
    obtain ⟨o, -, rfl⟩ := List.mem_map.1 he
    rfl

/-! ### Many moves -/

/-- A run keeps the balance as long as nothing halts. -/
theorem Faithful.balanced_moves {restored : Nat} {batches : List Batch}
    {settlements : List Settlement} (hj : j.Faithful)
    (h : j.pipeline.Balanced restored batches settlements) {ms : List Move}
    (hstill : (j.pipeline.moves ms).halt = none) :
    (j.pipeline.moves ms).Balanced restored (batches ++ j.pipeline.batches ms)
      (settlements ++ j.pipeline.settlementsOf ms) := by
  induction ms generalizing j batches settlements with
  | nil => simpa [Pipeline.batches, Pipeline.settlementsOf] using h
  | cons m ms ih =>
    -- a halt would have lasted
    have hnow : (j.pipeline.move m).halt = none := by
      by_contra hhalt
      have hlasts := Pipeline.moves_of_halt (Option.isSome_iff_ne_none.2 hhalt) ms
      rw [Pipeline.moves_cons, hlasts] at hstill
      exact hhalt hstill
    have hmove := h.move hj.numbered m hnow
    rw [← pipeline_record] at hmove
    rw [Pipeline.moves_cons, ← pipeline_record] at hstill
    have hrest := ih (hj.record m) hmove hstill
    rw [pipeline_record] at hrest
    rw [Pipeline.moves_cons, Pipeline.batches, Pipeline.settlementsOf, ← List.append_assoc,
      ← List.append_assoc]
    exact hrest

end Journal

/-- The octets that a state counts are those of the encodings of what waits. -/
theorem Pipeline.byteTotal_eq_sum (settings : Settings) (checkpoints : List Checkpoint)
    (opened : Time) (ms : List Move) :
    let p := (restore { settings } checkpoints opened).moves ms
    p.buffer.byteTotal = (p.buffer.operations.map fun o => o.encode.length).sum := by
  intro p
  have hfaithful := Journal.faithful_run settings checkpoints opened ms
  have hsizes := Journal.size_of_mem_arrivals settings checkpoints opened ms
  have hpipeline : ((Journal.opening settings checkpoints opened).run ms).pipeline = p :=
    Journal.pipeline_run _ ms
  have hsubset := hfaithful.entries_subset
  rw [hpipeline] at hsubset
  have hbalanced : p.buffer.isBalanced :=
    isBalanced_moves (isBalanced_restore settings checkpoints opened) ms
  calc p.buffer.byteTotal
      = totalSize p.buffer.entries := Buffer.isBalanced_iff.1 hbalanced
    _ = (p.buffer.operations.map fun o => o.encode.length).sum :=
      totalSize_eq_sum fun e he => hsizes e (hsubset he)

/-- **The counters balance, and after a halt but for the batch that brought it.**

A new pipeline takes over the operations of checkpoints, and then any calls follow.  As long as
there is no halt, what was restored and admitted is what is acknowledged, waits or is in flight;
the batches that were handed out hold, in all, as many operations as are acknowledged, were put back
or are in flight; there are as many of them as are in flight and were settled; and the failures are
the settlements with a failed request or a wrong number of results.  The octets that wait are those
of the encodings of what waits, also after a halt.  A halt leaves the first two sums short by the
batch that brought it. -/
theorem Pipeline.stats_balance (settings : Settings) (checkpoints : List Checkpoint) (opened : Time)
    (ms : List Move) :
    let start := restore { settings } checkpoints opened
    let p := start.moves ms
    let s := p.stats
    let restored := (checkpoints.flatMap Checkpoint.operations).length
    let handedOut := ((start.batches ms).map fun b => b.operations.length).sum
    let settlements := start.settlementsOf ms
    (p.halt = none →
      restored + s.tally.admitted = s.tally.acknowledged + s.buffered + s.inFlight ∧
      handedOut = s.tally.acknowledged + s.tally.requeued + s.inFlight ∧
      s.tally.dispatched = s.inFlightBatches + settlements.length ∧
      s.tally.failed = settlements.countP Settlement.isFailure) ∧
    s.bufferedBytes = (p.buffer.operations.map fun o => o.encode.length).sum ∧
    (p.halt.isSome → ∃ earlier id outcome now classify later entries,
      ms = earlier ++ .resolve id outcome now classify :: later ∧
      (start.moves earlier).halt = none ∧
      (start.moves earlier).inFlight.lookup id = some entries ∧
      ((start.moves earlier).resolve id outcome now classify).1 = .halted ∧
      restored + s.tally.admitted =
        s.tally.acknowledged + s.buffered + s.inFlight + entries.length ∧
      handedOut = s.tally.acknowledged + s.tally.requeued + s.inFlight + entries.length) := by
  intro start p s restored handedOut settlements
  have hopening : (Journal.opening settings checkpoints opened).Faithful :=
    Journal.faithful_opening settings checkpoints opened
  have hstart : start.Balanced restored [] [] := balanced_restore settings checkpoints opened
  refine ⟨?_, ?_, ?_⟩
  · intro hrun
    have h : p.Balanced restored (start.batches ms) settlements :=
      hopening.balanced_moves hstart hrun
    exact ⟨h.received, h.handedOut, h.dispatched, h.failed⟩
  · exact byteTotal_eq_sum settings checkpoints opened ms
  · intro hhalt
    have hbegin : (Journal.opening settings checkpoints opened).pipeline.halt = none := by
      simp [Journal.opening, restore_eq]
    have hend : ((Journal.opening settings checkpoints opened).run ms).pipeline.halt.isSome := by
      rw [Journal.pipeline_run]
      exact hhalt
    obtain ⟨earlier, m, later, hms, hrun, id, outcome, now, classify, rfl, hhalted, -⟩ :=
      Journal.halts_of_halt hopening hbegin hend
    have hids := (Journal.faithful_run settings checkpoints opened earlier).numbered
    have hpipeline : ((Journal.opening settings checkpoints opened).run earlier).pipeline =
        start.moves earlier := Journal.pipeline_run _ earlier
    rw [hpipeline] at hrun hhalted hids
    obtain ⟨-, entries, halt, hbatch, hdemand⟩ := demand_of_halted hhalted
    -- nothing happens from the halt on
    have hstops : ((start.moves earlier).move (.resolve id outcome now classify)).halt.isSome := by
      rw [move, resolve_eq_halted hrun hbatch hdemand]
      rfl
    have hp : p = (start.moves earlier).move (.resolve id outcome now classify) := by
      show start.moves ms = _
      rw [hms, moves_append, moves_cons, moves_of_halt hstops]
    have hbatches : start.batches ms = start.batches earlier := by
      rw [hms, batches_append, batches, batches_of_halt hstops, List.append_nil]
      exact List.append_nil _
    have hbefore := hopening.balanced_moves hstart hrun
    obtain ⟨hreceived, hhanded⟩ := hbefore.halt hids hrun hbatch hdemand
    refine ⟨earlier, id, outcome, now, classify, later, entries, hms, hrun, hbatch, hhalted, ?_, ?_⟩
    · show restored + p.tally.admitted =
        p.tally.acknowledged + p.buffer.length + p.inFlightCount + entries.length
      rw [hp]
      exact hreceived
    · show ((start.batches ms).map fun b => b.operations.length).sum =
        p.tally.acknowledged + p.tally.requeued + p.inFlightCount + entries.length
      rw [hp, hbatches]
      exact hhanded

/-- Of three operations, one of them restored, one is rejected, and the answer to the next batch has
no results.  Both operations that return are sent again, and then the store refuses the key. -/
theorem Pipeline.stats_balance_up_to_halt :
    let moves : List Move := [
      .accept (.delete "a") 0, .accept (.delete "b") 0, .dispatch 0 true,
      .accept (.delete "c") 1, .dispatch 1 true,
      .resolve 0 (.answered { items := [.success, .failed (.rejected "a"), .success], took := ⟨5⟩ })
        2 elasticsearch.classify,
      .resolve 1 (.answered { items := [], took := ⟨7⟩ }) 3 elasticsearch.classify,
      .accept (.delete "d") 4, .accept (.delete "e") 4]
    let start := restore { settings := { Settings.testing with maxBatchSize := 3 } }
      [{ operations := [.delete "r"] }] 0
    let denied := Move.resolve 2 (.failed { kind := .unauthorized, message := "key" }) 21
      elasticsearch.classify
    let p := start.moves (moves ++ [.dispatch 20 false])
    let q := start.moves (moves ++ [.dispatch 20 false, denied])
    (p.halt = none ∧ p.stats.tally = {
        admitted := 5, acknowledged := 2, requeued := 2, dispatched := 3, failed := 1,
        lastTook := some ⟨7⟩ } ∧
      1 + 5 = 2 + p.stats.buffered + p.stats.inFlight ∧ p.stats.buffered = 1 ∧
      p.stats.bufferedBytes = (Operation.delete "e").encode.length) ∧
    q.halt.isSome ∧ q.stats.inFlight = 0 ∧
      ∃ entries : List Entry, 1 + 5 = 2 + q.stats.buffered + q.stats.inFlight + entries.length := by
  intro moves start denied p q
  obtain ⟨hrunning, hbytes, -⟩ := stats_balance { Settings.testing with maxBatchSize := 3 }
    [{ operations := [.delete "r"] }] 0 (moves ++ [.dispatch 20 false])
  obtain ⟨-, -, hhalted⟩ := stats_balance { Settings.testing with maxBatchSize := 3 }
    [{ operations := [.delete "r"] }] 0 (moves ++ [.dispatch 20 false, denied])
  have hrun : p.halt = none := by decide +kernel
  have hhalt : q.halt.isSome := by decide +kernel
  have htally : p.stats.tally = {
      admitted := 5, acknowledged := 2, requeued := 2, dispatched := 3, failed := 1,
      lastTook := some ⟨7⟩ } := by decide +kernel
  obtain ⟨hreceived, -, -, -⟩ := hrunning hrun
  obtain ⟨-, -, -, -, -, -, entries, -, -, -, -, hlost, -⟩ := hhalted hhalt
  have hwaits : p.buffer.operations = [.delete "e"] := by decide +kernel
  have hsum : p.stats.bufferedBytes = (p.buffer.operations.map fun o => o.encode.length).sum :=
    hbytes
  refine ⟨⟨hrun, htally, hreceived, by decide +kernel, ?_⟩, hhalt, by decide +kernel, entries,
    hlost⟩
  rw [hsum, hwaits]
  exact Nat.add_zero _

end BulkDelivery
