import BulkDelivery.Pipeline
import BulkDelivery.Proofs.Buffer.Balance
import Mathlib.Tactic.Common

/-!
# What the calls to a pipeline come to

Every call to a pipeline is described by one lemma that says all it can do.  The lemmas about
settling a batch say it by position: an outcome gives a result for every operation of the batch
or for none of them, and what it acknowledges and what it returns are read off these results.

## Main definitions

* `Outcome.results?` — the results of an outcome, one for each operation of a batch.
* `Outcome.acknowledged`, `Outcome.returned` — what becomes of the operations of a batch.
* `Outcome.halt?` — the halt an outcome leads to.

## Main results

* `Pipeline.restore_eq` — the pipeline after taking over the operations of checkpoints.
* `Pipeline.accept_eq_ok_iff`, `Pipeline.nextBatch_eq_some_iff` — when an operation is admitted
  and when a batch is taken, and the pipeline after it.
* `Pipeline.accept_eq_bufferFull_iff` — when an operation is refused for want of room.
* `Pipeline.resolve_eq_ignored`, `Pipeline.resolve_eq_halted`, `Pipeline.resolve_eq_settled` —
  the three ways of settling a batch.
-/

namespace BulkDelivery

/-- The halt that a verdict demands. -/
def Verdict.halt? : Verdict → Option Halt
  | fatal halt => some halt
  | retry => none

/-- The halt that a result demands. -/
def ItemResult.halt? (classify : TransportFailure → Verdict) : ItemResult → Option Halt
  | success => none
  | failed failure => (classify failure).halt?

@[simp] theorem Verdict.halt?_fatal (halt : Halt) : (fatal halt).halt? = some halt := rfl

@[simp] theorem Verdict.halt?_retry : retry.halt? = none := rfl

@[simp] theorem ItemResult.halt?_success (classify : TransportFailure → Verdict) :
    success.halt? classify = none := rfl

@[simp] theorem ItemResult.halt?_failed (classify : TransportFailure → Verdict)
    (failure : TransportFailure) : (failed failure).halt? classify = (classify failure).halt? := rfl

/-! ### Outcomes by position -/

namespace Outcome

variable {α β : Type}

/-- The results for a batch of `n` operations, by position.  A request that failed gives none,
and neither does an answer with another number of results. -/
def results? (n : Nat) : Outcome → Option (List ItemResult)
  | .answered response => if response.items.length = n then some response.items else none
  | .failed _ => none

/-- The part of a batch that an outcome acknowledges. -/
def acknowledged (o : Outcome) (batch : List α) : List α :=
  match o.results? batch.length with
  | none => []
  | some items => ((batch.zip items).filter fun x => !x.2.isFailure).map Prod.fst

/-- The part of a batch that has to be sent again. -/
def returned (o : Outcome) (batch : List α) : List α :=
  match o.results? batch.length with
  | none => batch
  | some items => ((batch.zip items).filter fun x => x.2.isFailure).map Prod.fst

/-- The halt that an outcome leads to for a batch of `n` operations: that of the request, or that
of the first result which demands one. -/
def halt? (classify : TransportFailure → Verdict) (n : Nat) : Outcome → Option Halt
  | .failed failure => (classify failure).halt?
  | .answered response =>
    if response.items.length = n then response.items.findSome? (ItemResult.halt? classify)
    else none

/-- How long the store took, if it answered. -/
def took? : Outcome → Option Duration
  | .answered response => some response.took
  | .failed _ => none

/-- Whether an outcome counts as the failure of a whole batch of `n` operations. -/
def failsWhole (o : Outcome) (n : Nat) : Bool :=
  (o.results? n).isNone

theorem mem_acknowledged_iff {o : Outcome} {batch : List α} {x : α} :
    x ∈ o.acknowledged batch ↔ ∃ response : Response, o = .answered response ∧
      response.items.length = batch.length ∧
      ∃ i : Nat, batch[i]? = some x ∧ response.items[i]? = some ItemResult.success := by
  -- being kept by the filter is having a success at one's place
  have hzip : ∀ items : List ItemResult,
      x ∈ ((batch.zip items).filter fun y => !y.2.isFailure).map Prod.fst ↔
        ∃ i : Nat, batch[i]? = some x ∧ items[i]? = some ItemResult.success := by
    intro items
    rw [List.mem_map]
    constructor
    · rintro ⟨⟨y, result⟩, hmem, rfl⟩
      rw [List.mem_filter, List.mem_iff_getElem?] at hmem
      obtain ⟨⟨i, hi⟩, hsuccess⟩ := hmem
      rw [List.getElem?_zip_eq_some] at hi
      cases result with
      | success => exact ⟨i, hi⟩
      | failed failure => simp at hsuccess
    · rintro ⟨i, hi⟩
      refine ⟨(x, ItemResult.success), ?_, rfl⟩
      rw [List.mem_filter, List.mem_iff_getElem?]
      exact ⟨⟨i, List.getElem?_zip_eq_some.2 hi⟩, rfl⟩
  cases o with
  | failed failure => simp [acknowledged, results?]
  | answered response =>
    by_cases hlen : response.items.length = batch.length
    · simp only [acknowledged, results?, hlen, if_true, hzip]
      simp [hlen]
    · simp [acknowledged, results?, hlen]

/-- Results are by position: there are as many as operations. -/
theorem length_of_results? {o : Outcome} {n : Nat} {items : List ItemResult}
    (h : o.results? n = some items) : items.length = n := by
  cases o with
  | failed failure => simp [results?] at h
  | answered response =>
    simp only [results?, Option.ite_none_right_eq_some, Option.some.injEq] at h
    rw [← h.2]
    exact h.1

/-- Nothing of a batch is lost or doubled: each operation is acknowledged or returned. -/
theorem acknowledged_append_returned_perm (o : Outcome) (batch : List α) :
    (o.acknowledged batch ++ o.returned batch).Perm batch := by
  unfold acknowledged returned
  cases h : o.results? batch.length with
  | none => simp
  | some items =>
    have hlen : items.length = batch.length := length_of_results? h
    -- a filter and its opposite share the results out between them
    have hsplit := (List.filter_append_perm (fun x : α × ItemResult => !x.2.isFailure)
      (batch.zip items)).map Prod.fst
    rw [List.map_fst_zip (by omega), List.map_append] at hsplit
    simpa using hsplit

/-- What is returned keeps the order of the batch. -/
theorem returned_sublist (o : Outcome) (batch : List α) : (o.returned batch).Sublist batch := by
  unfold returned
  cases h : o.results? batch.length with
  | none => exact List.Sublist.refl batch
  | some items =>
    have hlen : items.length = batch.length := length_of_results? h
    have hfst : (batch.zip items).map Prod.fst = batch := List.map_fst_zip (by omega)
    have hkept := (List.filter_sublist (p := fun x => x.2.isFailure) (l := batch.zip items)).map
      Prod.fst
    rw [hfst] at hkept
    exact hkept

theorem returned_map (f : α → β) (o : Outcome) (batch : List α) :
    o.returned (batch.map f) = (o.returned batch).map f := by
  simp only [returned, List.length_map]
  cases o.results? batch.length with
  | none => rfl
  | some items =>
    simp [List.zip_map_left, List.filter_map, Function.comp_def]

end Outcome

namespace Pipeline

/-! ### Restoring, admitting and taking -/

/-- Restored operations join the buffer in the order of the checkpoints. -/
theorem restore_eq (p : Pipeline) (checkpoints : List Checkpoint) (now : Time) :
    p.restore checkpoints now = { p with
      buffer :=
        let restored := (checkpoints.flatMap Checkpoint.operations).map (Entry.of · now)
        { entries := p.buffer.entries ++ restored
          byteTotal := p.buffer.byteTotal + totalSize restored } } := by
  simp only [restore, ← Buffer.foldl_push, List.foldl_map]

theorem accept_eq_ok_iff {p p' : Pipeline} {o : Operation} {now : Time} :
    p.accept o now = .ok p' ↔
      p.halt = none ∧ o.size ≤ p.settings.maxRecordBytes ∧
        p.pendingCount < p.settings.maxBuffered ∧
        p' = { p with
          buffer := p.buffer.push (Entry.of o now)
          tally := { p.tally with admitted := p.tally.admitted + 1 } } := by
  unfold accept
  cases p.halt with
  | some halt => simp
  | none =>
    by_cases hsize : p.settings.maxRecordBytes < o.size
    · simp [hsize, Nat.not_le.2 hsize]
    · by_cases hfull : p.settings.maxBuffered ≤ p.pendingCount
      · simp [hsize, hfull, Nat.not_lt.2 hfull]
      · simp [hsize, hfull, Nat.not_lt.1 hsize, Nat.not_le.1 hfull, eq_comm]

/-- The buffer is full for operations that are no larger than a record may be. -/
theorem accept_eq_bufferFull_iff {p : Pipeline} {o : Operation} {now : Time} {capacity : Nat} :
    p.accept o now = .error (.bufferFull capacity) ↔
      p.halt = none ∧ o.size ≤ p.settings.maxRecordBytes ∧
        p.settings.maxBuffered ≤ p.pendingCount ∧ capacity = p.settings.maxBuffered := by
  unfold accept
  cases p.halt with
  | some halt => simp
  | none =>
    by_cases hsize : p.settings.maxRecordBytes < o.size
    · simp [hsize, Nat.not_le.2 hsize]
    · by_cases hfull : p.settings.maxBuffered ≤ p.pendingCount
      · simp [hsize, hfull, Nat.not_lt.1 hsize, eq_comm]
      · simp [hsize, hfull]

theorem nextBatch_eq_some_iff {p p' : Pipeline} {now : Time} {force : Bool} {batch : Batch} :
    p.nextBatch now force = some (batch, p') ↔
      p.canDispatch now ∧ (force ∨ p.thresholdReached now) ∧
        ∃ entries buffer, p.buffer.drain p.settings.maxBatchSize p.settings.maxBatchBytes
            = (entries, buffer) ∧
          batch = { id := p.nextId, operations := entries.map Entry.operation } ∧
          p' = { p with
            buffer
            inFlight := p.inFlight ++ [(p.nextId, entries)]
            nextId := p.nextId + 1
            pausedUntil := none
            tally := { p.tally with dispatched := p.tally.dispatched + 1 } } := by
  unfold nextBatch
  by_cases h : p.canDispatch now ∧ (force ∨ p.thresholdReached now)
  · have hdue : (p.canDispatch now && (force || p.thresholdReached now)) = true := by
      simpa using h
    rw [if_pos hdue]
    simp only [Option.some.injEq, Prod.mk.injEq]
    constructor
    · rintro ⟨rfl, rfl⟩
      exact ⟨h.1, h.2, _, _, rfl, rfl, rfl⟩
    · rintro ⟨-, -, entries, buffer, hdrain, rfl, rfl⟩
      rw [hdrain]
      exact ⟨rfl, rfl⟩
  · simp only [Bool.and_eq_true, Bool.or_eq_true, h, if_false, reduceCtorEq, false_iff]
    rintro ⟨hcan, hdue, -⟩
    exact h ⟨hcan, hdue⟩

/-! ### Settling a batch -/

/-- Sifting stops at the first result that demands a halt, and otherwise keeps what failed. -/
theorem sift_eq (classify : TransportFailure → Verdict) (results : List (Entry × ItemResult)) :
    sift classify results =
      match results.findSome? fun x => x.2.halt? classify with
      | some halt => .error halt
      | none => .ok ((results.filter fun x => x.2.isFailure).map Prod.fst) := by
  induction results with
  | nil => rfl
  | cons x rest ih =>
    obtain ⟨e, result⟩ := x
    cases result with
    | success => simp [sift, ih, List.findSome?_cons]
    | failed failure =>
      cases hverdict : classify failure with
      | fatal halt => simp [sift, hverdict]
      | retry =>
        -- the rest may still halt, and then what was kept so far is dropped
        simp only [sift, hverdict, ih, List.findSome?_cons, ItemResult.halt?_failed,
          Verdict.halt?_retry]
        cases rest.findSome? fun x => x.2.halt? classify with
        | some halt => rfl
        | none => simp [Except.map, List.filter_cons]

theorem sift_zip {classify : TransportFailure → Verdict} {entries : List Entry}
    {items : List ItemResult} (hlen : items.length = entries.length) :
    sift classify (entries.zip items) =
      match items.findSome? (ItemResult.halt? classify) with
      | some halt => .error halt
      | none => .ok (((entries.zip items).filter fun x => x.2.isFailure).map Prod.fst) := by
  have hsnd : (entries.zip items).map Prod.snd = items := List.map_snd_zip (by omega)
  have hfind : ((entries.zip items).findSome? fun x => x.2.halt? classify)
      = items.findSome? (ItemResult.halt? classify) := by
    conv_rhs => rw [← hsnd, List.findSome?_map]
    rfl
  rw [sift_eq, hfind]

variable {p : Pipeline} {id : BatchId} {outcome : Outcome} {now : Time}
  {classify : TransportFailure → Verdict} {entries : List Entry}

/-- Only a batch that is in flight is settled, and none after a halt. -/
theorem resolve_eq_ignored (h : p.halt.isSome ∨ p.inFlight.lookup id = none) :
    p.resolve id outcome now classify = (.ignored, p) := by
  unfold resolve
  by_cases hhalt : p.halt.isSome
  · rw [if_pos hhalt]
  · rw [if_neg hhalt, h.resolve_left hhalt]

/-- Nothing is settled, or a batch in flight is. -/
theorem ignored_or_inFlight (p : Pipeline) (id : BatchId) :
    (p.halt.isSome ∨ p.inFlight.lookup id = none) ∨
      p.halt = none ∧ ∃ entries, p.inFlight.lookup id = some entries := by
  cases hhalt : p.halt with
  | some halt => exact .inl (.inl rfl)
  | none =>
    cases hbatch : p.inFlight.lookup id with
    | none => exact .inl (.inr rfl)
    | some entries => exact .inr ⟨rfl, entries, rfl⟩

/-- The pipeline after a halt has lost the batch that brought the halt and nothing else. -/
theorem resolve_eq_halted (hrun : p.halt = none) (hbatch : p.inFlight.lookup id = some entries)
    {halt : Halt} (hhalt : outcome.halt? classify entries.length = some halt) :
    p.resolve id outcome now classify =
      (.halted, { p with
        inFlight := p.inFlight.filter (·.1 != id)
        halt := some halt
        tally := { p.tally with
          failed := p.tally.failed + if outcome.failsWhole entries.length then 1 else 0
          lastTook := outcome.took?.or p.tally.lastTook } }) := by
  simp only [resolve, hrun, hbatch, Option.isSome_none, Bool.false_eq_true, if_false, settle]
  cases outcome with
  | failed failure =>
    simp only [Outcome.halt?] at hhalt
    cases hverdict : classify failure with
    | retry => simp [hverdict] at hhalt
    | fatal h =>
      rw [hverdict, Verdict.halt?_fatal, Option.some.injEq] at hhalt
      simp [hverdict, hhalt, Outcome.failsWhole, Outcome.results?, Outcome.took?]
  | answered response =>
    simp only [Outcome.halt?, Option.ite_none_right_eq_some] at hhalt
    obtain ⟨hlen, hfind⟩ := hhalt
    simp [hlen, sift_zip hlen, hfind, Outcome.failsWhole, Outcome.results?, Outcome.took?]

/-- What was not acknowledged returns to the front of the buffer, and then there is a pause. -/
theorem resolve_eq_settled (hrun : p.halt = none) (hbatch : p.inFlight.lookup id = some entries)
    (hhalt : outcome.halt? classify entries.length = none) :
    p.resolve id outcome now classify =
      (.settled (outcome.acknowledged entries).length (outcome.returned entries).length, { p with
        inFlight := p.inFlight.filter (·.1 != id)
        buffer := p.buffer.requeue (outcome.returned entries)
        pausedUntil :=
          if outcome.failsWhole entries.length ∨ outcome.returned entries ≠ [] then
            some (now + p.settings.retryBackoff)
          else p.pausedUntil
        tally := { p.tally with
          acknowledged := p.tally.acknowledged + (outcome.acknowledged entries).length
          requeued := p.tally.requeued + (outcome.returned entries).length
          failed := p.tally.failed + if outcome.failsWhole entries.length then 1 else 0
          lastTook := outcome.took?.or p.tally.lastTook } }) := by
  have hcount := (outcome.acknowledged_append_returned_perm entries).length_eq
  rw [List.length_append] at hcount
  simp only [resolve, hrun, hbatch, Option.isSome_none, Bool.false_eq_true, if_false, settle]
  cases outcome with
  | failed failure =>
    simp only [Outcome.halt?] at hhalt
    cases hverdict : classify failure with
    | fatal h => simp [hverdict] at hhalt
    | retry =>
      simp [hverdict, failBatch, requeue, Outcome.failsWhole, Outcome.results?, Outcome.took?,
        Outcome.acknowledged, Outcome.returned]
  | answered response =>
    by_cases hlen : response.items.length = entries.length
    · -- every operation has its own result, and none of them is fatal
      simp only [Outcome.halt?, hlen, if_true] at hhalt
      have hresults : (Outcome.answered response).results? entries.length
          = some response.items := by simp [Outcome.results?, hlen]
      have hreturned : (Outcome.answered response).returned entries
          = ((entries.zip response.items).filter fun x => x.2.isFailure).map Prod.fst := by
        simp only [Outcome.returned, hresults]
      have hacknowledged : entries.length - ((Outcome.answered response).returned entries).length
          = ((Outcome.answered response).acknowledged entries).length := by omega
      simp only [hlen, ne_eq, not_true_eq_false, if_false, sift_zip hlen, hhalt, ← hreturned,
        hacknowledged]
      cases hnone : (Outcome.answered response).returned entries with
      | nil => simp [Outcome.failsWhole, hresults, Outcome.took?, Buffer.requeue]
      | cons e rest => simp [requeue, Outcome.failsWhole, hresults, Outcome.took?]
    · -- the results belong to no operation, so all of them return
      simp [hlen, failBatch, requeue, Outcome.failsWhole, Outcome.results?, Outcome.took?,
        Outcome.acknowledged, Outcome.returned]

/-- Settling a batch changes neither the limits nor the number of the next batch. -/
theorem resolve_keeps :
    (p.resolve id outcome now classify).2.settings = p.settings ∧
      (p.resolve id outcome now classify).2.nextId = p.nextId := by
  rcases p.ignored_or_inFlight id with hignored | ⟨hrun, entries, hbatch⟩
  · rw [resolve_eq_ignored hignored]
    exact ⟨rfl, rfl⟩
  · cases hdemand : outcome.halt? classify entries.length with
    | some halt =>
      rw [resolve_eq_halted hrun hbatch hdemand]
      exact ⟨rfl, rfl⟩
    | none =>
      rw [resolve_eq_settled hrun hbatch hdemand]
      exact ⟨rfl, rfl⟩

/-! ### What is pending -/

theorem inFlightCount_eq (p : Pipeline) :
    p.inFlightCount = (p.inFlight.flatMap Prod.snd).length := by
  unfold inFlightCount
  induction p.inFlight with
  | nil => rfl
  | cons batch rest ih => rw [List.foldr_cons, ih, List.flatMap_cons, List.length_append]

theorem pendingCount_eq (p : Pipeline) :
    p.pendingCount = p.buffer.entries.length + (p.inFlight.flatMap Prod.snd).length := by
  rw [pendingCount, inFlightCount_eq]
  rfl

theorem length_pending (p : Pipeline) : p.pending.length = p.pendingCount := by
  rw [pendingCount_eq, pending, ← List.map_flatMap, List.length_append, List.length_map,
    Buffer.operations, List.length_map, Nat.add_comm]

/-- Without a halt there is a checkpoint of what is pending. -/
theorem snapshot_eq_ok_iff {p : Pipeline} {c : Checkpoint} :
    p.snapshot = .ok c ↔ p.halt = none ∧ c = { operations := p.pending } := by
  unfold snapshot
  cases p.halt with
  | some halt => simp
  | none => simp [eq_comm]

theorem isDrained_iff {p : Pipeline} :
    p.isDrained ↔ p.buffer.entries = [] ∧ p.inFlight = [] := by
  simp [isDrained, Buffer.isEmpty]

theorem nextBatch_eq_none_of_drained {p : Pipeline} (h : p.isDrained) (now : Time)
    (force : Bool) : p.nextBatch now force = none := by
  rw [isDrained_iff] at h
  simp [nextBatch, canDispatch, Buffer.isEmpty, h.1]

end Pipeline

end BulkDelivery
