import BulkDelivery.Proofs.Pipeline.Halting
import Mathlib.Data.List.Flatten

/-!
# Answers are matched to operations by position

An answer names no operation.  Its results belong to the operations of the batch by their places,
so the operations that have to be sent again are those at the places of the failures.  This is only
so if there are as many results as operations; with any other number no result belongs to any
operation, and the batch as a whole is put back.

## Main definitions

* `Response.rejectedOf` — the members of a batch at the places of the failures.

## Main results

* `filter_zip_eq_filterMap` — filtering pairs by their second component is picking places.
* `Outcome.returned_eq_rejectedOf` — what returns are the operations at the places of the failures.
* `Pipeline.resolve_answered`, `Pipeline.resolve_unmatched` — a batch with an answer to every
  operation, and one without.
* `Pipeline.reconciliation_is_positional` — **what returns and what is acknowledged is read off the
  results by position.**
-/

namespace BulkDelivery

variable {α β : Type}

/-! ### Places in a list -/

/-- Filtering pairs by their second component is picking the places at which it is as asked for. -/
theorem filter_zip_eq_filterMap (f : β → Bool) (xs : List α) (ys : List β) :
    ((xs.zip ys).filter fun x => f x.2).map Prod.fst = (ys.findIdxs f).filterMap (xs[·]?) := by
  induction xs generalizing ys with
  | nil => simp
  | cons x xs ih =>
    cases ys with
    | nil => simp
    | cons y ys =>
      -- all places move up by one
      have hrest : (ys.findIdxs f 1).filterMap ((x :: xs)[·]?) =
          ((xs.zip ys).filter fun x => f x.2).map Prod.fst := by
        rw [List.findIdxs_start, List.filterMap_map, ih]
        rfl
      rw [List.zip_cons_cons, List.findIdxs_cons, List.filter_cons]
      by_cases hy : f y
      · simp [hy, hrest]
      · simp [hy, hrest]

theorem length_filter_zip (f : β → Bool) {xs : List α} {ys : List β}
    (hlen : ys.length = xs.length) :
    ((xs.zip ys).filter fun x => f x.2).length = ys.countP f := by
  have hsnd : (xs.zip ys).map Prod.snd = ys := List.map_snd_zip (by omega)
  conv_rhs => rw [← hsnd, List.countP_map]
  rw [List.countP_eq_length_filter]
  rfl

/-! ### What returns -/

/-- The members of a batch at the places of the failures, in the order of the batch. -/
def Response.rejectedOf (r : Response) (batch : List α) : List α :=
  (r.items.findIdxs ItemResult.isFailure).filterMap (batch[·]?)

namespace Outcome

variable {response : Response} {batch : List α}

theorem results?_answered (hlen : response.items.length = batch.length) :
    (answered response).results? batch.length = some response.items :=
  if_pos hlen

/-- What returns are the operations at the places of the failures. -/
theorem returned_eq_rejectedOf (hlen : response.items.length = batch.length) :
    (answered response).returned batch = response.rejectedOf batch := by
  simp only [returned, results?_answered hlen, filter_zip_eq_filterMap, Response.rejectedOf]

theorem length_returned (hlen : response.items.length = batch.length) :
    ((answered response).returned batch).length = response.failedCount := by
  simp only [returned, results?_answered hlen, List.length_map, length_filter_zip _ hlen,
    Response.failedCount]

theorem length_acknowledged (hlen : response.items.length = batch.length) :
    ((answered response).acknowledged batch).length = response.items.count .success := by
  simp only [acknowledged, results?_answered hlen, List.length_map]
  rw [length_filter_zip (fun result => !result.isFailure) hlen, List.count]
  refine List.countP_congr fun result _ => ?_
  cases result <;> simp

/-- Something returns if and only if the answer has errors. -/
theorem returned_ne_nil_iff (hlen : response.items.length = batch.length) :
    (answered response).returned batch ≠ [] ↔ response.hasErrors := by
  rw [← List.length_pos_iff, length_returned hlen, Response.failedCount, List.countP_pos_iff,
    Response.hasErrors, List.any_eq_true]

/-- Without a result for every operation a batch is put back as a whole. -/
theorem results?_eq_none {o : Outcome} {n : Nat}
    (h : ∀ response, o = .answered response → response.items.length ≠ n) :
    o.results? n = none := by
  cases o with
  | failed failure => rfl
  | answered response => exact if_neg (h response rfl)

end Outcome

namespace Pipeline

variable {p : Pipeline} {id : BatchId} {now : Time} {classify : TransportFailure → Verdict}
  {entries : List Entry}

/-! ### Settling a batch -/

theorem lookup_filter_self (id : BatchId) (batches : List (BatchId × α)) :
    (batches.filter (·.1 != id)).lookup id = none := by
  rw [List.lookup_eq_none_iff]
  intro b hb
  have hne : b.1 ≠ id := by simpa using (List.mem_filter.1 hb).2
  exact bne_iff_ne.2 hne.symm

/-- A result for every operation decides about each of them. -/
theorem resolve_answered (hrun : p.halt = none) (hbatch : p.inFlight.lookup id = some entries)
    {response : Response} (hlen : response.items.length = entries.length)
    (hharmless : (Outcome.answered response).halt? classify entries.length = none) :
    p.resolve id (.answered response) now classify =
      (.settled (response.items.count .success) response.failedCount, { p with
        inFlight := p.inFlight.filter (·.1 != id)
        buffer := p.buffer.requeue (response.rejectedOf entries)
        pausedUntil :=
          if response.hasErrors then some (now + p.settings.retryBackoff) else p.pausedUntil
        tally := { p.tally with
          acknowledged := p.tally.acknowledged + response.items.count .success
          requeued := p.tally.requeued + response.failedCount
          lastTook := some response.took } }) := by
  have hmatched : (Outcome.answered response).failsWhole entries.length = false := by
    simp [Outcome.failsWhole, Outcome.results?_answered hlen]
  rw [resolve_eq_settled hrun hbatch hharmless]
  simp only [Outcome.length_acknowledged hlen, Outcome.length_returned hlen,
    Outcome.returned_ne_nil_iff hlen, hmatched, Bool.false_eq_true, false_or, if_false,
    Nat.add_zero, Outcome.took?, Option.some_or]
  rw [Outcome.returned_eq_rejectedOf hlen]

/-- Without a result for every operation all of them are put back. -/
theorem resolve_unmatched (hrun : p.halt = none) (hbatch : p.inFlight.lookup id = some entries)
    {outcome : Outcome} (hharmless : outcome.halt? classify entries.length = none)
    (hunmatched : outcome.results? entries.length = none) :
    p.resolve id outcome now classify =
      (.settled 0 entries.length, { p with
        inFlight := p.inFlight.filter (·.1 != id)
        buffer := p.buffer.requeue entries
        pausedUntil := some (now + p.settings.retryBackoff)
        tally := { p.tally with
          requeued := p.tally.requeued + entries.length
          failed := p.tally.failed + 1
          lastTook := outcome.took?.or p.tally.lastTook } }) := by
  rw [resolve_eq_settled hrun hbatch hharmless]
  simp [Outcome.failsWhole, Outcome.acknowledged, Outcome.returned, hunmatched]

/-- **What returns and what is acknowledged is read off the results by position.**

A batch of a pipeline that has not halted comes back with an outcome that is not fatal.  Whatever
the outcome, the batch leaves the flight and the other batches stay.  If the outcome is an answer
with a result for every operation, then the entries at the places of the failures are put in front
of the buffer, in the order of the batch and with their sizes and times; the successes count as
acknowledged and the failures as requeued, and there is a pause if and only if something failed.
If the request failed or if there are more or fewer results, then the whole batch is put in front of
the buffer, nothing counts as acknowledged, and there is a pause and one more failed batch.  Nothing
else changes, and nothing at all changes if there is no such batch in flight. -/
theorem reconciliation_is_positional (p : Pipeline) (hrun : p.halt = none) (id : BatchId)
    (outcome : Outcome) (now : Time) (classify : TransportFailure → Verdict) :
    (p.inFlight.lookup id = none → p.resolve id outcome now classify = (.ignored, p)) ∧
    ∀ entries, p.inFlight.lookup id = some entries → ¬outcome.IsFatal classify entries.length →
      let q := (p.resolve id outcome now classify).2
      (q.inFlight = p.inFlight.filter (·.1 != id) ∧ q.inFlight.lookup id = none ∧
        ∀ other, other ≠ id → q.inFlight.lookup other = p.inFlight.lookup other) ∧
      (∀ response, outcome = .answered response → response.items.length = entries.length →
        let rejected := response.rejectedOf entries
        p.resolve id outcome now classify =
          (.settled (response.items.count .success) response.failedCount, { p with
            inFlight := p.inFlight.filter (·.1 != id)
            buffer :=
              { entries := rejected ++ p.buffer.entries
                byteTotal := p.buffer.byteTotal + totalSize rejected }
            pausedUntil :=
              if response.hasErrors then some (now + p.settings.retryBackoff) else p.pausedUntil
            tally := { p.tally with
              acknowledged := p.tally.acknowledged + response.items.count .success
              requeued := p.tally.requeued + response.failedCount
              lastTook := some response.took } })) ∧
      ((∀ response, outcome = .answered response → response.items.length ≠ entries.length) →
        p.resolve id outcome now classify =
          (.settled 0 entries.length, { p with
            inFlight := p.inFlight.filter (·.1 != id)
            buffer :=
              { entries := entries ++ p.buffer.entries
                byteTotal := p.buffer.byteTotal + totalSize entries }
            pausedUntil := some (now + p.settings.retryBackoff)
            tally := { p.tally with
              requeued := p.tally.requeued + entries.length
              failed := p.tally.failed + 1
              lastTook := outcome.took?.or p.tally.lastTook } })) := by
  refine ⟨fun hnone => resolve_eq_ignored (.inr hnone), ?_⟩
  intro entries hbatch hnotFatal q
  have hharmless : outcome.halt? classify entries.length = none := by
    rwa [← Outcome.halt?_isSome_iff, Option.not_isSome_iff_eq_none] at hnotFatal
  have hflight : q.inFlight = p.inFlight.filter (·.1 != id) := by
    show (p.resolve id outcome now classify).2.inFlight = _
    rw [resolve_eq_settled hrun hbatch hharmless]
  rw [hflight]
  refine ⟨⟨rfl, lookup_filter_self id p.inFlight, ?_⟩, ?_, ?_⟩
  · exact fun other hne => lookup_filter_of_ne hne p.inFlight
  · rintro response rfl hlen
    exact resolve_answered hrun hbatch hlen hharmless
  · intro hunmatched
    exact resolve_unmatched hrun hbatch hharmless (Outcome.results?_eq_none hunmatched)

/-- Two batches are in flight and an operation waits.  The answer to the first batch has a success
between two failures, and it puts the first and the third operation back; an answer that lacks a
result puts all three back. -/
theorem reconciliation_is_positional_of_three :
    let moves : List Move := [
      .accept (.delete "a") 0, .accept (.delete "b") 1, .accept (.delete "c") 2, .dispatch 2 true,
      .accept (.delete "d") 3, .dispatch 3 true, .accept (.delete "e") 4]
    let p := (restore { settings := .testing } [] 0).moves moves
    let busy : ItemResult := .failed (.rejected "busy")
    let answer (items : List ItemResult) : Outcome := .answered { items, took := ⟨5⟩ }
    let q := (p.resolve 0 (answer [busy, .success, busy]) 6 elasticsearch.classify).2
    let q' := (p.resolve 0 (answer [busy, .success]) 6 elasticsearch.classify).2
    (p.halt = none ∧ (p.inFlight.lookup 0).isSome) ∧
    (q.buffer.entries = [
        Entry.of (.delete "a") 0, Entry.of (.delete "c") 2, Entry.of (.delete "e") 4] ∧
      q.tally.acknowledged = 1 ∧ q.tally.requeued = 2 ∧ q.tally.failed = 0 ∧
      q.inFlight.lookup 0 = none ∧ q.inFlight.lookup 1 = p.inFlight.lookup 1) ∧
    (q'.buffer.operations = [.delete "a", .delete "b", .delete "c", .delete "e"] ∧
      q'.tally.acknowledged = 0 ∧ q'.tally.requeued = 3 ∧ q'.tally.failed = 1) := by
  intro moves p busy answer q q'
  have hrun : p.halt = none := by decide +kernel
  have hbatch : p.inFlight.lookup 0 = some [
      Entry.of (.delete "a") 0, Entry.of (.delete "b") 1, Entry.of (.delete "c") 2] := by
    decide +kernel
  have hmild : ∀ items, (∀ item ∈ items, item = busy ∨ item = .success) →
      ¬(answer items).IsFatal elasticsearch.classify 3 := by
    rintro items hitems (⟨failure, hfailed, -⟩ | ⟨_, hanswered, -, failure, hmem, hfatal⟩)
    · cases hfailed
    · obtain rfl := Outcome.answered.inj hanswered
      rcases hitems _ hmem with hbusy | hsuccess
      · obtain rfl := ItemResult.failed.inj hbusy
        exact absurd hfatal (by decide +kernel)
      · cases hsuccess
  obtain ⟨⟨-, hgone, hothers⟩, hmatched, -⟩ :=
    (reconciliation_is_positional p hrun 0 (answer [busy, .success, busy]) 6
      elasticsearch.classify).2 _ hbatch (hmild _ (by simp))
  obtain ⟨-, -, hunmatched⟩ :=
    (reconciliation_is_positional p hrun 0 (answer [busy, .success]) 6
      elasticsearch.classify).2 _ hbatch (hmild _ (by simp))
  have hq : q = _ := congrArg Prod.snd (hmatched _ rfl rfl)
  have hq' : q' = _ := congrArg Prod.snd (hunmatched (by rintro _ ⟨⟩; decide))
  refine ⟨⟨hrun, by rw [hbatch]; rfl⟩, ⟨?_, ?_, ?_, ?_, hgone, hothers 1 (by decide)⟩, ?_, ?_, ?_,
    ?_⟩
  · rw [hq]; decide +kernel
  · rw [hq]; decide +kernel
  · rw [hq]; decide +kernel
  · rw [hq]; decide +kernel
  · rw [hq']; decide +kernel
  · rw [hq']; decide +kernel
  · rw [hq']; decide +kernel
  · rw [hq']; decide +kernel

end Pipeline

end BulkDelivery
