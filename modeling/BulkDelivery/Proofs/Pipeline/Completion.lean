import BulkDelivery.Proofs.Buffer.Balance
import BulkDelivery.Proofs.Pipeline.Halting
import BulkDelivery.Proofs.Pipeline.Pause
import Mathlib.Data.List.Flatten

/-!
# The order of completions

Batches in flight come back in any order.  Settling one does not look at what the others left
behind: it takes its own batch out of the flight, adds to the counters, and puts what returns in
front of the buffer.  So a number of batches that come back at one time leave the same pipeline in
whatever order they are settled, except that what a later one returns stands in front of what an
earlier one returned, and that the time of the last answer is that of the last one.

## Main definitions

* `Pipeline.settlements` — the moves that settle some batches, in a given order.
* `Pipeline.batchOf`, `Pipeline.returnedFrom` — a batch in flight, and what it returns with its
  outcome.
* `Pipeline.afterSettling` — the pipeline after some batches were settled, read off them at once.

## Main results

* `Pipeline.moves_settlements` — the pipeline after some batches were settled.
* `Pipeline.completion_order_irrelevant` — **the order of completions changes nothing but the order
  of what returns.**
-/

namespace BulkDelivery

/-- If at most one member yields anything, the order of the members does not matter. -/
theorem flatMap_eq_of_perm {α β : Type} {f : α → List β} {xs ys : List α} (hperm : xs.Perm ys)
    (honly : ∀ x ∈ xs, ∀ y ∈ xs, f x ≠ [] → f y ≠ [] → x = y) : xs.flatMap f = ys.flatMap f := by
  induction hperm with
  | nil => rfl
  | cons x hperm ih =>
    have hrest := ih fun y hy z hz =>
      honly y (List.mem_cons_of_mem x hy) z (List.mem_cons_of_mem x hz)
    rw [List.flatMap_cons, List.flatMap_cons, hrest]
  | swap x y rest =>
    rw [List.flatMap_cons, List.flatMap_cons, List.flatMap_cons, List.flatMap_cons]
    by_cases hx : f x = []
    · rw [hx, List.nil_append, List.nil_append]
    · by_cases hy : f y = []
      · rw [hy, List.nil_append, List.nil_append]
      · rw [honly x (by simp) y (by simp) hx hy]
  | trans hfirst hsecond ihfirst ihsecond =>
    rw [ihfirst honly, ihsecond]
    intro x hx y hy
    exact honly x (hfirst.mem_iff.2 hx) y (hfirst.mem_iff.2 hy)

namespace Pipeline

/-- The moves that settle batches at one time, each with its outcome, in the given order. -/
def settlements (outcome : BatchId → Outcome) (now : Time) (classify : TransportFailure → Verdict)
    (ids : List BatchId) : List Move :=
  ids.map fun id => .resolve id (outcome id) now classify

section Together

variable (batch : BatchId → List Entry) (outcome : BatchId → Outcome)

/-- What a batch returns with its outcome. -/
def returnedFrom (id : BatchId) : List Entry :=
  (outcome id).returned (batch id)

/-- Whether a batch brings a pause with its outcome. -/
def pausesFor (id : BatchId) : Bool :=
  (outcome id).failsWhole (batch id).length || !(returnedFrom batch outcome id).isEmpty

/-- The pipeline after some batches were settled, read off the batches all at once. -/
def afterSettling (p : Pipeline) (now : Time) (ids : List BatchId) : Pipeline :=
  { p with
    inFlight := p.inFlight.filter fun b => !ids.contains b.1
    buffer := p.buffer.requeue (ids.reverse.flatMap (returnedFrom batch outcome))
    pausedUntil :=
      if ids.any (pausesFor batch outcome) then some (now + p.settings.retryBackoff)
      else p.pausedUntil
    tally := { p.tally with
      acknowledged := p.tally.acknowledged +
        (ids.flatMap fun id => (outcome id).acknowledged (batch id)).length
      requeued := p.tally.requeued + (ids.flatMap (returnedFrom batch outcome)).length
      failed := p.tally.failed + ids.countP fun id => (outcome id).failsWhole (batch id).length
      lastTook := ids.foldl (fun last id => (outcome id).took?.or last) p.tally.lastTook } }

end Together

variable {p : Pipeline} {batch : BatchId → List Entry} {outcome : BatchId → Outcome} {now : Time}
  {classify : TransportFailure → Verdict} {ids : List BatchId} {id : BatchId}

theorem filter_not_contains_singleton (flight : List (BatchId × List Entry)) (id : BatchId) :
    (flight.filter fun b => !([id].contains b.1)) = flight.filter (·.1 != id) := by
  simp only [List.contains_cons, List.contains_nil, Bool.or_false]
  rfl

theorem move_resolve (hrun : p.halt = none) (hbatch : p.inFlight.lookup id = some (batch id))
    (hharmless : (outcome id).halt? classify (batch id).length = none) :
    p.move (.resolve id (outcome id) now classify) = p.afterSettling batch outcome now [id] := by
  rw [move, resolve_eq_settled hrun hbatch hharmless, afterSettling, filter_not_contains_singleton]
  simp [returnedFrom, pausesFor, List.countP_cons]

/-- Settling one batch and then others is settling all of them. -/
theorem afterSettling_cons :
    (p.afterSettling batch outcome now [id]).afterSettling batch outcome now ids =
      p.afterSettling batch outcome now (id :: ids) := by
  have hflight : ((p.inFlight.filter fun b => !([id].contains b.1)).filter fun b =>
      !ids.contains b.1) = p.inFlight.filter fun b => !(id :: ids).contains b.1 := by
    rw [List.filter_filter]
    refine List.filter_congr fun b _ => ?_
    simp [Bool.and_comm]
  have hbuffer : (p.buffer.requeue ([id].reverse.flatMap (returnedFrom batch outcome))).requeue
      (ids.reverse.flatMap (returnedFrom batch outcome)) =
        p.buffer.requeue ((id :: ids).reverse.flatMap (returnedFrom batch outcome)) := by
    simp only [Buffer.requeue, List.reverse_cons, List.reverse_nil, List.nil_append,
      List.flatMap_append, totalSize_append, List.append_assoc]
    congr 1
    omega
  have hpause : (if ids.any (pausesFor batch outcome) then some (now + p.settings.retryBackoff)
      else if [id].any (pausesFor batch outcome) then some (now + p.settings.retryBackoff)
      else p.pausedUntil) =
        if (id :: ids).any (pausesFor batch outcome) then some (now + p.settings.retryBackoff)
        else p.pausedUntil := by
    rw [List.any_cons, List.any_cons, List.any_nil, Bool.or_false]
    cases pausesFor batch outcome id <;> cases ids.any (pausesFor batch outcome) <;> rfl
  simp only [afterSettling, hflight, hbuffer, hpause, List.flatMap_cons, List.flatMap_nil,
    List.append_nil, List.length_append, List.countP_cons, List.countP_nil, List.foldl_cons,
    List.foldl_nil, Nat.add_assoc, Nat.zero_add]
  congr 2
  omega

/-- The pipeline after some batches were settled, one after the other. -/
theorem moves_settlements (hrun : p.halt = none) (hnodup : ids.Nodup)
    (hbatch : ∀ id ∈ ids, p.inFlight.lookup id = some (batch id))
    (hharmless : ∀ id ∈ ids, (outcome id).halt? classify (batch id).length = none) :
    p.moves (settlements outcome now classify ids) = p.afterSettling batch outcome now ids := by
  induction ids generalizing p with
  | nil => simp [settlements, afterSettling, Buffer.requeue]
  | cons id ids ih =>
    obtain ⟨hid, hrest⟩ := List.nodup_cons.1 hnodup
    obtain ⟨hfirst, hothers⟩ := List.forall_mem_cons.1 hbatch
    obtain ⟨hsafe, hlater⟩ := List.forall_mem_cons.1 hharmless
    have hstill : (p.afterSettling batch outcome now [id]).halt = none := hrun
    -- the other batches are still in flight
    have hflight : ∀ other ∈ ids,
        (p.afterSettling batch outcome now [id]).inFlight.lookup other = some (batch other) := by
      intro other hother
      have hne : other ≠ id := by
        rintro rfl
        exact hid hother
      rw [afterSettling, filter_not_contains_singleton, lookup_filter_of_ne hne]
      exact hothers other hother
    rw [settlements, List.map_cons, moves_cons, move_resolve hrun hfirst hsafe]
    exact (ih hstill hrest hflight hlater).trans afterSettling_cons

/-- Batches that are settled in another order leave the same pipeline, but for the order of what
returned and for the time of the last answer. -/
theorem afterSettling_perm {ids' : List BatchId} (hperm : ids.Perm ids') :
    p.afterSettling batch outcome now ids' =
      { p.afterSettling batch outcome now ids with
        buffer := (p.afterSettling batch outcome now ids').buffer
        tally := { (p.afterSettling batch outcome now ids).tally with
          lastTook := (p.afterSettling batch outcome now ids').tally.lastTook } } := by
  have hflight : (p.inFlight.filter fun b => !ids'.contains b.1) =
      p.inFlight.filter fun b => !ids.contains b.1 := by
    refine List.filter_congr fun b _ => ?_
    rw [hperm.contains_eq]
  simp only [afterSettling, hflight, hperm.any_eq, hperm.countP_eq,
    (hperm.flatMap_right _).length_eq]

/-- The batch in flight with a number. -/
def batchOf (p : Pipeline) (id : BatchId) : List Entry :=
  (p.inFlight.lookup id).getD []

theorem lookup_eq_batchOf (h : id ∈ p.inFlight.map Prod.fst) :
    p.inFlight.lookup id = some (p.batchOf id) := by
  have hsome : (p.inFlight.lookup id).isSome := by
    rw [List.lookup_isSome_iff]
    simpa using h
  obtain ⟨entries, hentries⟩ := Option.isSome_iff_exists.1 hsome
  rw [batchOf, hentries, Option.getD_some]

/-- An outcome that does not halt a pipeline is not fatal. -/
theorem halt?_eq_none_of_resolve (hrun : p.halt = none)
    (hbatch : p.inFlight.lookup id = some (batch id))
    (h : (p.resolve id (outcome id) now classify).1 ≠ .halted) :
    (outcome id).halt? classify (batch id).length = none := by
  cases hdemand : (outcome id).halt? classify (batch id).length with
  | none => rfl
  | some halt => exact absurd (by rw [resolve_eq_halted hrun hbatch hdemand]) h

theorem putsBack_of_returnedFrom (hrun : p.halt = none)
    (hbatch : p.inFlight.lookup id = some (batch id))
    (hharmless : (outcome id).halt? classify (batch id).length = none)
    (h : returnedFrom batch outcome id ≠ []) :
    p.PutsBack (.resolve id (outcome id) now classify) := by
  refine ⟨((outcome id).acknowledged (batch id)).length, ((outcome id).returned (batch id)).length,
    ?_, List.length_pos_of_ne_nil h⟩
  rw [resolve_eq_settled hrun hbatch hharmless]

/-- **The order of completions changes nothing but the order of what returns.**

Some batches in flight come back at one time, each with an outcome that is not fatal, and they are
settled in two orders.  No pipeline halts, and the batches leave the flight.  The two pipelines are
the same in everything but the buffer and the time of the last answer: the flight, the limits, the
pause and all counters agree.  The buffers hold the same entries and the same number of octets, and
in both they are what the batches returned, the last one settled first and each batch in its own
order, and then what waited before.  If no two of the batches return anything, then the buffers
agree as well. -/
theorem completion_order_irrelevant (p : Pipeline) (hrun : p.halt = none)
    (outcome : BatchId → Outcome) (now : Time) (classify : TransportFailure → Verdict)
    (ids ids' : List BatchId) (hnodup : ids.Nodup) (hperm : ids.Perm ids')
    (hflight : ∀ id ∈ ids, id ∈ p.inFlight.map Prod.fst)
    (hharmless : ∀ id ∈ ids, (p.resolve id (outcome id) now classify).1 ≠ .halted) :
    let returned := returnedFrom p.batchOf outcome
    let q := p.moves (settlements outcome now classify ids)
    let q' := p.moves (settlements outcome now classify ids')
    (q.halt = none ∧ q.inFlight = p.inFlight.filter fun b => !ids.contains b.1) ∧
    q' = { q with
      buffer := q'.buffer
      tally := { q.tally with lastTook := q'.tally.lastTook } } ∧
    (q'.buffer.byteTotal = q.buffer.byteTotal ∧ q'.buffer.entries.Perm q.buffer.entries) ∧
    (q.buffer.entries = ids.reverse.flatMap returned ++ p.buffer.entries ∧
      q'.buffer.entries = ids'.reverse.flatMap returned ++ p.buffer.entries) ∧
    ((∀ id ∈ ids, ∀ other ∈ ids, p.PutsBack (.resolve id (outcome id) now classify) →
      p.PutsBack (.resolve other (outcome other) now classify) → id = other) →
        q'.buffer = q.buffer) := by
  intro returned q q'
  have hbatch : ∀ id ∈ ids, p.inFlight.lookup id = some (p.batchOf id) :=
    fun id hid => lookup_eq_batchOf (hflight id hid)
  have hsafe : ∀ id ∈ ids, (outcome id).halt? classify (p.batchOf id).length = none :=
    fun id hid => halt?_eq_none_of_resolve hrun (hbatch id hid) (hharmless id hid)
  have hq : q = p.afterSettling p.batchOf outcome now ids :=
    moves_settlements hrun hnodup hbatch hsafe
  have hq' : q' = p.afterSettling p.batchOf outcome now ids' :=
    moves_settlements hrun (hperm.nodup_iff.1 hnodup)
      (fun id hid => hbatch id (hperm.mem_iff.2 hid)) fun id hid => hsafe id (hperm.mem_iff.2 hid)
  have hreverse : ids'.reverse.Perm ids.reverse :=
    (List.reverse_perm ids').trans (hperm.symm.trans (List.reverse_perm ids).symm)
  have hgroups := hreverse.flatMap_right returned
  refine ⟨?_, ?_, ?_, ?_, ?_⟩
  · rw [hq]
    exact ⟨hrun, rfl⟩
  · rw [hq, hq']
    exact afterSettling_perm hperm
  · rw [hq, hq']
    exact ⟨congrArg (p.buffer.byteTotal + ·) (totalSize_eq_of_perm hgroups),
      hgroups.append_right p.buffer.entries⟩
  · rw [hq, hq']
    exact ⟨rfl, rfl⟩
  · intro honly
    have hsame : ids'.reverse.flatMap returned = ids.reverse.flatMap returned := by
      refine flatMap_eq_of_perm hreverse ?_
      intro id hid other hother hfirst hsecond
      have hid : id ∈ ids := hreverse.mem_iff.1 hid |> List.mem_reverse.1
      have hother : other ∈ ids := hreverse.mem_iff.1 hother |> List.mem_reverse.1
      exact honly id hid other hother
        (putsBack_of_returnedFrom hrun (hbatch id hid) (hsafe id hid) hfirst)
        (putsBack_of_returnedFrom hrun (hbatch other hother) (hsafe other hother) hsecond)
    rw [hq, hq']
    exact congrArg p.buffer.requeue hsame

/-- Of three batches in flight one comes back with a failure, one fails as a whole and one succeeds.
In the opposite order the two that return something change places. -/
theorem completion_order_irrelevant_of_three :
    let moves : List Move := [
      .accept (.delete "a") 0, .accept (.delete "b") 0, .dispatch 0 true,
      .accept (.delete "c") 1, .dispatch 1 true, .accept (.delete "d") 2, .dispatch 2 true,
      .accept (.delete "e") 3]
    let outcomes : List Outcome := [
      .answered { items := [.success, .failed (.rejected "b")], took := ⟨5⟩ },
      .failed { kind := .timeout, message := "slow" }, .answered (.success 1 ⟨9⟩)]
    let outcome : BatchId → Outcome := fun id => outcomes.getD id default
    let p := (restore { settings := { Settings.testing with maxInFlight := 3 } } [] 0).moves moves
    let q := p.moves (settlements outcome 4 elasticsearch.classify [0, 1, 2])
    let q' := p.moves (settlements outcome 4 elasticsearch.classify [2, 1, 0])
    (p.halt = none ∧ [0, 1, 2].Perm [2, 1, 0] ∧ (∀ id ∈ [0, 1, 2], id ∈ p.inFlight.map Prod.fst) ∧
      ∀ id ∈ [0, 1, 2], (p.resolve id (outcome id) 4 elasticsearch.classify).1 ≠ .halted) ∧
      q' = { q with
        buffer := q'.buffer
        tally := { q.tally with lastTook := q'.tally.lastTook } } ∧
      q.tally = {
        admitted := 5, acknowledged := 2, requeued := 2, dispatched := 3, failed := 1,
        lastTook := some ⟨9⟩ } ∧
      q.buffer.operations = [.delete "c", .delete "b", .delete "e"] ∧
      q'.buffer.operations = [.delete "b", .delete "c", .delete "e"] := by
  intro moves outcomes outcome p q q'
  have hrun : p.halt = none := by decide +kernel
  have hperm : [0, 1, 2].Perm [2, 1, 0] := by decide
  have hflight : ∀ id ∈ [0, 1, 2], id ∈ p.inFlight.map Prod.fst := by decide +kernel
  have hharmless : ∀ id ∈ [0, 1, 2],
      (p.resolve id (outcome id) 4 elasticsearch.classify).1 ≠ .halted := by decide +kernel
  obtain ⟨-, hsame, -, -, -⟩ := completion_order_irrelevant p hrun outcome 4
    elasticsearch.classify [0, 1, 2] [2, 1, 0] (by decide) hperm hflight hharmless
  exact ⟨⟨hrun, hperm, hflight, hharmless⟩, hsame, by decide +kernel, by decide +kernel,
    by decide +kernel⟩

end Pipeline

end BulkDelivery
