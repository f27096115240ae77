import BulkDelivery.Proofs.Pipeline.Conservation

/-!
# The order of first dispatch

Operations are sent again, in other batches, behind and before others.  Looked at only when they
are sent for the first time, they leave in the order in which they arrived.  The reason is the
shape of the buffer: what was sent before stands in front, and what was never sent is a suffix of
all arrivals.

## Main definitions

* `Pipeline.batches` — the batches that moves hand out.
* `Journal.handedOut`, `Journal.firstDispatches` — everything that was handed out, each time, and
  the first time only.
* `Journal.retried`, `Journal.fresh` — what waits and was handed out before, and what was not.
* `Journal.RetriedFirst` — the shape of the buffer.

## Main results

* `Journal.retriedFirst_run` — the buffer of every run has this shape.
* `Journal.arrivals_eq_firstDispatches` — **what arrived is, in order, what was handed out for the
  first time and then what never was.**
-/

theorem List.Nodup.eraseDups_eq {α : Type} [BEq α] [LawfulBEq α] {xs : List α} (h : xs.Nodup) :
    xs.eraseDups = xs := by
  induction xs with
  | nil => rfl
  | cons x xs ih =>
    rw [List.nodup_cons] at h
    have hkept : xs.filter (fun y => !y == x) = xs := by
      rw [List.filter_eq_self]
      intro y hy
      have hne : y ≠ x := fun heq => h.1 (heq ▸ hy)
      simpa using hne
    rw [List.eraseDups_cons, hkept, ih h.2]

namespace BulkDelivery

theorem Outcome.mem_of_mem_returned {α : Type} {o : Outcome} {batch : List α} {x : α}
    (h : x ∈ o.returned batch) : x ∈ batch :=
  (o.acknowledged_append_returned_perm batch).subset (List.mem_append_right _ h)

namespace Pipeline

/-- The batch that a move hands out, if it does. -/
def handsOut (p : Pipeline) : Move → List Batch
  | .dispatch now force => ((p.nextBatch now force).map Prod.fst).toList
  | _ => []

/-- The batches that several moves hand out, in order. -/
def batches : Pipeline → List Move → List Batch
  | _, [] => []
  | p, m :: ms => p.handsOut m ++ batches (p.move m) ms

theorem batches_append (p : Pipeline) (ms ns : List Move) :
    p.batches (ms ++ ns) = p.batches ms ++ (p.moves ms).batches ns :=
  p.collected_append (fun _ => rfl) (fun _ _ _ => rfl) ms ns

end Pipeline

namespace Journal

theorem batches_record (j : Journal) (m : Move) :
    (j.record m).dispatched.map Prod.fst
      = j.dispatched.map Prod.fst ++ j.pipeline.handsOut m := by
  cases m with
  | accept o now =>
    rw [record]
    cases j.pipeline.accept o now <;> simp [Pipeline.handsOut]
  | dispatch now force =>
    rw [record, Pipeline.handsOut]
    cases j.pipeline.nextBatch now force <;> simp
  | resolve id outcome now classify =>
    simp only [dispatched_resolve, Pipeline.handsOut, List.append_nil]

/-- A journal lists the batches that the pipeline hands out. -/
theorem batches_run (j : Journal) (ms : List Move) :
    (j.run ms).dispatched.map Prod.fst = j.dispatched.map Prod.fst ++ j.pipeline.batches ms := by
  induction ms generalizing j with
  | nil => simp [Pipeline.batches]
  | cons m ms ih =>
    rw [run_cons, ih, batches_record, pipeline_record, Pipeline.batches, List.append_assoc]

/-- Everything that was handed out, each time, in the order of the batches. -/
def handedOut (j : Journal) : List Occurrence :=
  j.dispatched.flatMap Prod.snd

/-- What was handed out, in the order of the first time. -/
def firstDispatches (j : Journal) : List Occurrence :=
  j.handedOut.eraseDups

/-- What waits and was handed out before. -/
def retried (j : Journal) : List Occurrence :=
  j.waiting.filter fun x => j.handedOut.contains x

/-- What waits and was never handed out. -/
def fresh (j : Journal) : List Occurrence :=
  j.waiting.filter fun x => !j.handedOut.contains x

/-- What was handed out before stands in front of what was not, and the latter ends the
arrivals. -/
structure RetriedFirst (j : Journal) (front back : List Occurrence) : Prop where
  waiting : j.waiting = front ++ back
  front : ∀ x ∈ front, x ∈ j.handedOut
  sent : ∀ b ∈ j.sent, ∀ x ∈ b.2, x ∈ j.handedOut
  arrivals : j.firstDispatches ++ back = j.arrivals.zipIdx
  numbers : j.dispatched.map (·.1.id) = List.range j.pipeline.nextId

namespace RetriedFirst

variable {j : Journal} {front back : List Occurrence}

/-! ### Both parts are determined -/

theorem nodup (h : j.RetriedFirst front back) : (j.firstDispatches ++ back).Nodup := by
  rw [h.arrivals]
  exact List.Nodup.of_map _ (List.nodup_zipIdx_map_snd j.arrivals)

theorem notMem_back (h : j.RetriedFirst front back) {x : Occurrence} (hx : x ∈ j.handedOut) :
    x ∉ back := by
  have hfirst : x ∈ j.firstDispatches := List.mem_eraseDups.2 hx
  intro hback
  exact (List.nodup_append.1 h.nodup).2.2 x hfirst x hback rfl

theorem back_notMem (h : j.RetriedFirst front back) {x : Occurrence} (hx : x ∈ back) :
    x ∉ j.handedOut :=
  fun hmem => h.notMem_back hmem hx

theorem retried_eq (h : j.RetriedFirst front back) : j.retried = front := by
  rw [retried, h.waiting, List.filter_append, List.filter_eq_self.2, List.filter_eq_nil_iff.2,
    List.append_nil]
  · intro x hx
    simpa using h.back_notMem hx
  · intro x hx
    simpa using h.front x hx

theorem fresh_eq (h : j.RetriedFirst front back) : j.fresh = back := by
  rw [fresh, h.waiting, List.filter_append, List.filter_eq_nil_iff.2, List.filter_eq_self.2,
    List.nil_append]
  · intro x hx
    simpa using h.back_notMem hx
  · intro x hx
    simpa using h.front x hx

/-! ### One move -/

theorem accept (h : j.RetriedFirst front back) (o : Operation) (now : Time) :
    ∃ front back, (j.record (.accept o now)).RetriedFirst front back := by
  cases haccept : j.pipeline.accept o now with
  | error e =>
    refine ⟨front, back, ?_⟩
    simpa [record, haccept] using h
  | ok p =>
    obtain ⟨-, -, -, rfl⟩ := Pipeline.accept_eq_ok_iff.1 haccept
    -- the new occurrence was never handed out, and it arrives last
    refine ⟨front, back ++ [(Entry.of o now, j.arrivals.length)], ?_⟩
    simp only [record, haccept]
    refine ⟨?_, h.front, h.sent, ?_, h.numbers⟩
    · rw [h.waiting, List.append_assoc]
    · show j.firstDispatches ++ (back ++ _) = _
      rw [← List.append_assoc, h.arrivals, zipIdx_concat]

theorem handedOut_dispatch {now : Time} {force : Bool} {batch : Batch} {p : Pipeline}
    (hnext : j.pipeline.nextBatch now force = some (batch, p)) :
    (j.record (.dispatch now force)).handedOut
      = j.handedOut ++ j.waiting.take batch.operations.length := by
  simp [record, hnext, handedOut]

theorem dispatch (h : j.RetriedFirst front back) (now : Time) (force : Bool) :
    ∃ front back, (j.record (.dispatch now force)).RetriedFirst front back := by
  cases hnext : j.pipeline.nextBatch now force with
  | none =>
    refine ⟨front, back, ?_⟩
    simpa [record, hnext] using h
  | some next =>
    obtain ⟨batch, p⟩ := next
    let n := batch.operations.length
    let m := n - front.length
    have htake : j.waiting.take n = front.take n ++ back.take m := by
      rw [h.waiting, List.take_append]
    have hback : (back.take m).Nodup :=
      (List.nodup_append.1 h.nodup).2.1.sublist (List.take_sublist m back)
    -- of what is taken, only the part from the back is new
    have hnew : (j.waiting.take n).removeAll j.handedOut = back.take m := by
      rw [List.removeAll, htake, List.filter_append, List.filter_eq_nil_iff.2,
        List.filter_eq_self.2, List.nil_append]
      · intro x hx
        simpa using h.back_notMem (List.mem_of_mem_take hx)
      · intro x hx
        simpa using h.front x (List.mem_of_mem_take hx)
    have hhanded : (j.record (.dispatch now force)).handedOut = j.handedOut ++ j.waiting.take n :=
      handedOut_dispatch hnext
    refine ⟨front.drop n, back.drop m, ?_, ?_, ?_, ?_, ?_⟩
    · simp only [record, hnext]
      rw [h.waiting, List.drop_append]
    · intro x hx
      rw [hhanded]
      exact List.mem_append_left _ (h.front x (List.mem_of_mem_drop hx))
    · intro b hb x hx
      simp only [record, hnext] at hb
      rw [hhanded, List.mem_append]
      rcases List.mem_append.1 hb with hold | hsent
      · exact .inl (h.sent b hold x hx)
      · rw [List.mem_singleton.1 hsent] at hx
        exact .inr hx
    · calc (j.record (.dispatch now force)).firstDispatches ++ back.drop m
          = j.firstDispatches ++ (back.take m ++ back.drop m) := by
            rw [firstDispatches, hhanded, List.eraseDups_append, hnew, hback.eraseDups_eq,
              List.append_assoc, firstDispatches]
        _ = j.arrivals.zipIdx := by rw [List.take_append_drop, h.arrivals]
        _ = (j.record (.dispatch now force)).arrivals.zipIdx := by simp only [record, hnext]
    · obtain ⟨-, -, entries, buffer, -, rfl, rfl⟩ := Pipeline.nextBatch_eq_some_iff.1 hnext
      simp only [record, hnext]
      rw [List.map_append, h.numbers, List.range_succ, List.map_singleton]

theorem resolve (h : j.RetriedFirst front back) (id : BatchId) (outcome : Outcome) (now : Time)
    (classify : TransportFailure → Verdict) :
    ∃ front back, (j.record (.resolve id outcome now classify)).RetriedFirst front back := by
  have hnumbers : j.dispatched.map (·.1.id)
      = List.range (j.pipeline.resolve id outcome now classify).2.nextId := by
    rw [Pipeline.resolve_keeps.2, h.numbers]
  have hkept : ∀ b ∈ j.sent.filter (·.1 != id), ∀ x ∈ b.2, x ∈ j.handedOut :=
    fun b hb => h.sent b (List.mem_of_mem_filter hb)
  simp only [record]
  cases (j.pipeline.resolve id outcome now classify).1 with
  | ignored => exact ⟨front, back, h.waiting, h.front, h.sent, h.arrivals, hnumbers⟩
  | halted => exact ⟨front, back, h.waiting, h.front, hkept, h.arrivals, hnumbers⟩
  | settled acknowledged requeued =>
    -- what returns was in a batch, so it was handed out before
    refine ⟨outcome.returned ((j.sent.lookup id).getD []) ++ front, back, ?_, ?_, hkept,
      h.arrivals, hnumbers⟩
    · rw [settle, h.waiting, List.append_assoc]
    · intro x hx
      rcases List.mem_append.1 hx with hreturned | hwaited
      · have hmem := Outcome.mem_of_mem_returned hreturned
        cases hbatch : j.sent.lookup id with
        | none => simp [hbatch] at hmem
        | some batch =>
          rw [hbatch, Option.getD_some] at hmem
          exact h.sent _ (mem_of_lookup hbatch) x hmem
      · exact h.front x hwaited

end RetriedFirst

/-! ### Many moves -/

theorem retriedFirst_opening (settings : Settings) (checkpoints : List Checkpoint) (now : Time) :
    (opening settings checkpoints now).RetriedFirst []
      (opening settings checkpoints now).arrivals.zipIdx where
  waiting := rfl
  front := by simp
  sent := by simp [opening]
  arrivals := by simp [opening, firstDispatches, handedOut]
  numbers := by simp [opening, Pipeline.restore_eq]

theorem RetriedFirst.record {j : Journal} {front back : List Occurrence}
    (h : j.RetriedFirst front back) (m : Move) :
    ∃ front back, (j.record m).RetriedFirst front back := by
  cases m with
  | accept o now => exact h.accept o now
  | dispatch now force => exact h.dispatch now force
  | resolve id outcome now classify => exact h.resolve id outcome now classify

/-- In the buffer of every run, what was handed out before stands in front of what was not. -/
theorem retriedFirst_run (settings : Settings) (checkpoints : List Checkpoint) (now : Time)
    (ms : List Move) :
    ∃ front back, ((opening settings checkpoints now).run ms).RetriedFirst front back := by
  refine run_induction (P := fun j => ∃ front back, j.RetriedFirst front back) ?_ ms _ ?_
  · rintro j m ⟨front, back, h⟩
    exact h.record m
  · exact ⟨_, _, retriedFirst_opening settings checkpoints now⟩

theorem operationsOf_zipIdx (es : List Entry) : operationsOf es.zipIdx = es.map Entry.operation := by
  conv_rhs => rw [← List.zipIdx_map_fst 0 es, List.map_map]
  rfl

/-- **What arrived is, in order, what was handed out for the first time and then what never was.**

Batches are handed out in the order of their numbers.  Read in this order, and within a batch by
place, the first dispatches are the operations that were restored and then admitted, in order,
up to those that were never sent; and these end the buffer, behind all that were. -/
theorem arrivals_eq_firstDispatches (settings : Settings) (checkpoints : List Checkpoint)
    (opened : Time) (ms : List Move) :
    let start := opening settings checkpoints opened
    let j := start.run ms
    (j.Faithful ∧ j.pipeline = start.pipeline.moves ms ∧
      j.dispatched.map Prod.fst = start.pipeline.batches ms ∧
      (start.pipeline.batches ms).map Batch.id = List.range j.pipeline.nextId) ∧
    (j.arrivals.zipIdx = j.firstDispatches ++ j.fresh ∧
      checkpoints.flatMap Checkpoint.operations ++ start.pipeline.admitted ms =
        operationsOf j.firstDispatches ++ operationsOf j.fresh) ∧
    (j.waiting = j.retried ++ j.fresh ∧
      j.pipeline.buffer.operations = operationsOf j.retried ++ operationsOf j.fresh) := by
  intro start j
  have hj : j.Faithful := faithful_run settings checkpoints opened ms
  obtain ⟨front, back, h⟩ := retriedFirst_run settings checkpoints opened ms
  have harrivals : j.arrivals.zipIdx = j.firstDispatches ++ j.fresh := by
    rw [h.fresh_eq, ← h.arrivals]
  have hwaiting : j.waiting = j.retried ++ j.fresh := by
    rw [h.retried_eq, h.fresh_eq, ← h.waiting]
  have hbatches : j.dispatched.map Prod.fst = start.pipeline.batches ms := batches_run start ms
  refine ⟨⟨hj, pipeline_run start ms, hbatches, ?_⟩, ⟨harrivals, ?_⟩, hwaiting, ?_⟩
  · rw [← hbatches, List.map_map]
    exact h.numbers
  · rw [← arrivals_opening settings checkpoints opened, ← arrivals_run, ← operationsOf_zipIdx,
      harrivals, operationsOf, List.map_append]
    rfl
  · rw [hj.buffer_eq, hwaiting, operationsOf, List.map_append]
    rfl

end Journal

end BulkDelivery
