import BulkDelivery.Proofs.Pipeline.Due
import BulkDelivery.Proofs.Pipeline.Precedence
import Mathlib.Data.List.Flatten

/-!
# One batch at a time

With several batches in flight, what comes back may stand behind what was admitted after it.  With
one batch in flight it cannot: while a batch is away nothing leaves the buffer, so what the batch
returns goes back exactly to where it was taken from.  What is held, the batch in flight and then
the buffer, is therefore what arrived without what was acknowledged, and in the order of arrival.
If time never runs backwards, this is the order of admission times too.

## Main definitions

* `Journal.held` — what is in flight, and then what waits.
* `Journal.InOrder` — at most one batch is in flight, and what is held and what was handed out is
  in the order of arrival.
* `Journal.Dated` — what arrived is in the order of its times, and none of them lies ahead.

## Main results

* `Journal.inOrder_run`, `Journal.Dated.run` — every run with one slot is in order, and every run
  at times that do not decrease is dated.
* `Journal.first_in_first_out` — **with one slot, delivery is first in, first out.**
-/

namespace BulkDelivery

namespace Journal

/-- What is held: what is in flight, and then what waits. -/
def held (j : Journal) : List Occurrence :=
  j.sent.flatMap Prod.snd ++ j.waiting

theorem Faithful.entries_eq {j : Journal} (h : j.Faithful) :
    j.pipeline.inFlight.flatMap Prod.snd ++ j.pipeline.buffer.entries = j.held.map Prod.fst := by
  rw [held, List.map_append, h.waiting, ← h.sent, List.flatMap_map, List.map_flatMap]

/-- There is one slot, and everything keeps to the order of arrival. -/
structure InOrder (j : Journal) : Prop where
  /-- There is one slot. -/
  slot : j.pipeline.settings.maxInFlight = 1
  /-- It is free or taken by one batch. -/
  sent : j.sent.length ≤ 1
  /-- What is held is in the order of arrival. -/
  held : j.held.Sublist j.arrivals.zipIdx
  /-- What was handed out together is in the order of arrival. -/
  dispatched : ∀ b ∈ j.dispatched, b.2.Sublist j.arrivals.zipIdx

theorem inOrder_opening (settings : Settings) (checkpoints : List Checkpoint) (now : Time)
    (hslot : settings.maxInFlight = 1) : (opening settings checkpoints now).InOrder where
  slot := hslot
  sent := by simp [opening]
  held := by simp [opening, Journal.held]
  dispatched := by simp [opening]

namespace InOrder

variable {j : Journal}

/-! ### One move -/

theorem accept (h : j.InOrder) (o : Operation) (now : Time) :
    (j.record (.accept o now)).InOrder := by
  cases haccept : j.pipeline.accept o now with
  | error e => simpa [record, haccept] using h
  | ok p =>
    obtain ⟨-, -, -, rfl⟩ := Pipeline.accept_eq_ok_iff.1 haccept
    simp only [record, haccept]
    refine ⟨h.slot, h.sent, ?_, ?_⟩
    · -- the newcomer is last in both
      show (j.sent.flatMap Prod.snd ++ (j.waiting ++ _)).Sublist (j.arrivals ++ _).zipIdx
      rw [zipIdx_concat, ← List.append_assoc]
      exact h.held.append (List.Sublist.refl _)
    · intro b hb
      have hold := h.dispatched b hb
      show b.2.Sublist (j.arrivals ++ _).zipIdx
      rw [zipIdx_concat]
      exact hold.trans (List.sublist_append_left _ _)

/-- A batch is taken only when none is in flight. -/
theorem sent_eq_nil (h : j.InOrder) (hj : j.Faithful) {now : Time} {force : Bool}
    {taken : Batch × Pipeline} (hnext : j.pipeline.nextBatch now force = some taken) :
    j.sent = [] := by
  have hcan : j.pipeline.canDispatch now := (Pipeline.nextBatch_eq_some_iff.1 hnext).1
  obtain ⟨-, -, hfree, -⟩ := Pipeline.canDispatch_iff.1 hcan
  rw [h.slot, ← hj.length_sent] at hfree
  exact List.length_eq_zero_iff.1 (by omega)

theorem dispatch (h : j.InOrder) (hj : j.Faithful) (now : Time) (force : Bool) :
    (j.record (.dispatch now force)).InOrder := by
  cases hnext : j.pipeline.nextBatch now force with
  | none => simpa [record, hnext] using h
  | some next =>
    have hempty : j.sent = [] := h.sent_eq_nil hj hnext
    obtain ⟨batch, p⟩ := next
    obtain ⟨-, -, entries, buffer, -, -, hp⟩ := Pipeline.nextBatch_eq_some_iff.1 hnext
    have hslot : p.settings.maxInFlight = 1 := by rw [hp]; exact h.slot
    have hheld : j.held = j.waiting := by rw [Journal.held, hempty]; rfl
    have hwaiting : j.waiting.Sublist j.arrivals.zipIdx := hheld ▸ h.held
    let n := batch.operations.length
    -- the batch is a beginning of what waited, and it is held in front of the rest
    have hsplit : [(batch.id, j.waiting.take n)].flatMap Prod.snd ++ j.waiting.drop n
        = j.waiting := by
      rw [List.flatMap_singleton, List.take_append_drop]
    simp only [record, hnext]
    refine ⟨hslot, ?_, ?_, ?_⟩
    · rw [hempty]
      exact Nat.le_refl 1
    · rw [Journal.held, hempty, List.nil_append, hsplit]
      exact hwaiting
    · intro b hb
      rcases List.mem_append.1 hb with hold | hnew
      · exact h.dispatched b hold
      · rw [List.mem_singleton.1 hnew]
        exact (List.take_sublist _ _).trans hwaiting

/-- What the only batch in flight returns goes back to where it was taken from. -/
theorem held_resolve (h : j.InOrder) (id : BatchId) (outcome : Outcome) (now : Time)
    (classify : TransportFailure → Verdict) :
    (j.record (.resolve id outcome now classify)).held.Sublist j.held := by
  have hkept : ((j.sent.filter (·.1 != id)).flatMap Prod.snd).Sublist (j.sent.flatMap Prod.snd) :=
    List.filter_sublist.flatMap Prod.snd
  simp only [record]
  cases (j.pipeline.resolve id outcome now classify).1 with
  | ignored => exact List.Sublist.refl _
  | halted => exact hkept.append (List.Sublist.refl j.waiting)
  | settled acknowledged requeued =>
    show ((j.sent.filter (·.1 != id)).flatMap Prod.snd ++
      (outcome.returned ((j.sent.lookup id).getD []) ++ j.waiting)).Sublist
        (j.sent.flatMap Prod.snd ++ j.waiting)
    cases hbatch : j.sent.lookup id with
    | none =>
      have hnothing : outcome.returned ([] : List Occurrence) = [] :=
        List.sublist_nil.1 (outcome.returned_sublist [])
      rw [Option.getD_none, hnothing, List.nil_append]
      exact hkept.append (List.Sublist.refl j.waiting)
    | some batch =>
      -- the batch is all that is in flight
      have honly : j.sent = [(id, batch)] := by
        have hmem := mem_of_lookup hbatch
        have hone : j.sent.length = 1 := Nat.le_antisymm h.sent (List.length_pos_of_mem hmem)
        obtain ⟨b, hb⟩ := List.length_eq_one_iff.1 hone
        rw [hb] at hmem ⊢
        rw [List.mem_singleton.1 hmem]
      have hgone : j.sent.filter (·.1 != id) = [] := by rw [honly]; simp
      rw [hgone, honly, Option.getD_some, List.flatMap_nil, List.nil_append, List.flatMap_singleton]
      exact (outcome.returned_sublist batch).append (List.Sublist.refl j.waiting)

theorem resolve (h : j.InOrder) (id : BatchId) (outcome : Outcome) (now : Time)
    (classify : TransportFailure → Verdict) :
    (j.record (.resolve id outcome now classify)).InOrder := by
  have hslot : (j.pipeline.resolve id outcome now classify).2.settings.maxInFlight = 1 := by
    rw [Pipeline.resolve_keeps.1]
    exact h.slot
  have hsent : (j.record (.resolve id outcome now classify)).sent.Sublist j.sent :=
    j.sent_resolve_sublist id outcome now classify
  constructor
  · exact hslot
  · exact hsent.length_le.trans h.sent
  · rw [arrivals_resolve]
    exact (h.held_resolve id outcome now classify).trans h.held
  · rw [dispatched_resolve, arrivals_resolve]
    exact h.dispatched

end InOrder

theorem InOrder.record {j : Journal} (h : j.InOrder) (hj : j.Faithful) (m : Move) :
    (j.record m).InOrder := by
  cases m with
  | accept o now => exact h.accept o now
  | dispatch now force => exact h.dispatch hj now force
  | resolve id outcome now classify => exact h.resolve id outcome now classify

/-! ### Many moves -/

/-- Every run with one slot is in order. -/
theorem inOrder_run (settings : Settings) (checkpoints : List Checkpoint) (now : Time)
    (hslot : settings.maxInFlight = 1) (ms : List Move) :
    ((opening settings checkpoints now).run ms).InOrder := by
  have hboth : ((opening settings checkpoints now).run ms).InOrder ∧
      ((opening settings checkpoints now).run ms).Faithful := by
    refine run_induction (P := fun j => j.InOrder ∧ j.Faithful) ?_ ms _ ?_
    · rintro j m ⟨h, hj⟩
      exact ⟨h.record hj m, hj.record m⟩
    · exact ⟨inOrder_opening settings checkpoints now hslot,
        faithful_opening settings checkpoints now⟩
  exact hboth.1

/-! ### Times -/

/-- What arrived is in the order of its times, and none of them lies ahead. -/
structure Dated (j : Journal) (now : Time) : Prop where
  ordered : j.arrivals.Pairwise fun e f => e.admittedAt ≤ f.admittedAt
  past : ∀ e ∈ j.arrivals, e.admittedAt ≤ now

theorem admittedAt_of_mem {os : List Operation} {now : Time} {e : Entry}
    (he : e ∈ os.map (Entry.of · now)) : e.admittedAt = now := by
  obtain ⟨o, -, rfl⟩ := List.mem_map.1 he
  rfl

theorem pairwise_admittedAt (os : List Operation) (now : Time) :
    (os.map (Entry.of · now)).Pairwise fun e f => e.admittedAt ≤ f.admittedAt := by
  refine List.pairwise_of_forall_mem_list ?_
  intro e he f hf
  exact Nat.le_of_eq ((admittedAt_of_mem he).trans (admittedAt_of_mem hf).symm)

theorem dated_opening (settings : Settings) (checkpoints : List Checkpoint) (now : Time) :
    (opening settings checkpoints now).Dated now where
  ordered := pairwise_admittedAt _ now
  past := fun _ he => Nat.le_of_eq (admittedAt_of_mem he)

theorem Dated.record {j : Journal} {now : Time} (h : j.Dated now) (m : Move)
    (hnow : now ≤ m.now) : (j.record m).Dated m.now := by
  constructor
  · rw [arrivals_record_eq, List.pairwise_append]
    refine ⟨h.ordered, pairwise_admittedAt _ m.now, ?_⟩
    intro e he f hf
    calc e.admittedAt ≤ now := h.past e he
      _ ≤ m.now := hnow
      _ = f.admittedAt := (admittedAt_of_mem hf).symm
  · intro e he
    rw [arrivals_record_eq, List.mem_append] at he
    rcases he with hold | hadmitted
    · exact (h.past e hold).trans hnow
    · exact Nat.le_of_eq (admittedAt_of_mem hadmitted)

/-- If time does not run backwards, then what arrives later has a later time. -/
theorem Dated.run {j : Journal} {now : Time} (h : j.Dated now) {ms : List Move}
    (htimes : (now :: ms.map Move.now).Pairwise (· ≤ ·)) :
    (j.run ms).arrivals.Pairwise fun e f => e.admittedAt ≤ f.admittedAt := by
  induction ms generalizing j now with
  | nil => exact h.ordered
  | cons m ms ih =>
    rw [List.map_cons, List.pairwise_cons] at htimes
    have hnow : now ≤ m.now := htimes.1 m.now List.mem_cons_self
    exact ih (h.record m hnow) htimes.2

/-! ### First in, first out -/

/-- **With one slot, delivery is first in, first out.**

A new pipeline with one slot takes over the operations of checkpoints, and then any calls follow at
times that do not decrease, with any outcomes.  What is pending, in the order of a checkpoint, is
then a part of what was restored and admitted, in the same order, and so is every batch that was
handed out.  Admission times do not decrease along what is pending, so the operation at the front
of the buffer is the oldest one in it. -/
theorem first_in_first_out (settings : Settings) (checkpoints : List Checkpoint) (opened : Time)
    (ms : List Move) (hslot : settings.maxInFlight = 1)
    (htimes : (opened :: ms.map Move.now).Pairwise (· ≤ ·)) :
    let start := opening settings checkpoints opened
    let j := start.run ms
    let p := j.pipeline
    let arrived := checkpoints.flatMap Checkpoint.operations ++ start.pipeline.admitted ms
    (j.Faithful ∧ p = start.pipeline.moves ms ∧ operationsOf j.arrivals.zipIdx = arrived) ∧
    (j.held.Sublist j.arrivals.zipIdx ∧ p.pending = operationsOf j.held ∧
      p.pending.Sublist arrived ∧
      (p.halt = none → p.snapshot = .ok { operations := p.pending })) ∧
    ((∀ b ∈ j.dispatched, b.2.Sublist j.arrivals.zipIdx) ∧
      ∀ b ∈ start.pipeline.batches ms, b.operations.Sublist arrived) ∧
    ((p.inFlight.flatMap Prod.snd ++ p.buffer.entries).Pairwise
        fun e f => e.admittedAt ≤ f.admittedAt) ∧
    ∀ t, p.buffer.frontAdmittedAt? = some t → ∀ e ∈ p.buffer.entries, t ≤ e.admittedAt := by
  intro start j p arrived
  have hj : j.Faithful := faithful_run settings checkpoints opened ms
  have h : j.InOrder := inOrder_run settings checkpoints opened hslot ms
  have hdated := (dated_opening settings checkpoints opened).run htimes
  have harrived : operationsOf j.arrivals.zipIdx = arrived := by
    rw [operationsOf_zipIdx, arrivals_run, arrivals_opening]
  have hpending : p.pending = operationsOf j.held := hj.pending_eq
  have hages : (p.inFlight.flatMap Prod.snd ++ p.buffer.entries).Pairwise
      fun e f => e.admittedAt ≤ f.admittedAt := by
    have hsub := h.held.map Prod.fst
    rw [List.zipIdx_map_fst] at hsub
    rw [hj.entries_eq]
    exact hdated.sublist hsub
  refine ⟨⟨hj, pipeline_run start ms, harrived⟩, ⟨h.held, hpending, ?_, ?_⟩, ⟨h.dispatched, ?_⟩,
    hages, ?_⟩
  · rw [hpending, ← harrived]
    exact h.held.map _
  · intro hrun
    rw [Pipeline.snapshot, hrun]
  · intro b hb
    have hbatches : j.dispatched.map Prod.fst = start.pipeline.batches ms := batches_run start ms
    rw [← hbatches] at hb
    obtain ⟨d, hd, rfl⟩ := List.mem_map.1 hb
    rw [← hj.dispatched d hd, ← harrived]
    exact (h.dispatched d hd).map _
  · intro t hfront e he
    have hbuffer := (List.pairwise_append.1 hages).2.1
    cases hentries : p.buffer.entries with
    | nil => rw [hentries] at he; simp at he
    | cons front rest =>
      rw [Buffer.frontAdmittedAt?, hentries, List.head?_cons, Option.map_some] at hfront
      rw [hentries, List.mem_cons] at he
      rw [hentries, List.pairwise_cons] at hbuffer
      rw [← Option.some.inj hfront]
      rcases he with rfl | hrest
      · exact Nat.le_refl _
      · exact hbuffer.1 e hrest

/-- The slot is taken three times.  The first batch comes back with one failure, the second one
fails as a whole and the third one has too few results; meanwhile more operations are admitted. -/
theorem first_in_first_out_through_retries :
    let settings : Settings := { Settings.testing with maxInFlight := 1, maxBatchSize := 3 }
    let restored : Checkpoint := { operations := [.delete "a", .delete "b"] }
    let moves : List Move := [
      .accept (.delete "c") 8, .dispatch 9 true, .accept (.delete "d") 9, .dispatch 10 true,
      .resolve 0 (.answered { items := [.success, .failed (.rejected "b"), .success], took := ⟨5⟩ })
        11 elasticsearch.classify,
      .accept (.index "e" [7]) 12, .dispatch 30 true,
      .resolve 1 (.failed { kind := .timeout, message := "slow" }) 31 elasticsearch.classify,
      .accept (.delete "f") 31, .dispatch 50 true,
      .resolve 2 (.answered { items := [.success], took := ⟨5⟩ }) 51 elasticsearch.classify,
      .accept (.delete "g") 52]
    settings.maxInFlight = 1 ∧ (7 :: moves.map Move.now).Pairwise (· ≤ ·) ∧
      ((opening settings [restored] 7).run moves).pipeline.pending.Sublist
        ([restored].flatMap Checkpoint.operations ++
          (opening settings [restored] 7).pipeline.admitted moves) ∧
      ((opening settings [restored] 7).run moves).pipeline.pending =
        [.delete "b", .delete "d", .index "e" [7], .delete "f", .delete "g"] ∧
      ∀ e ∈ ((opening settings [restored] 7).run moves).pipeline.buffer.entries,
        7 ≤ e.admittedAt := by
  intro settings restored moves
  have hslot : settings.maxInFlight = 1 := rfl
  have htimes : (7 :: moves.map Move.now).Pairwise (· ≤ ·) := by decide
  have hpending : ((opening settings [restored] 7).run moves).pipeline.pending =
      [.delete "b", .delete "d", .index "e" [7], .delete "f", .delete "g"] := by decide +kernel
  have hfront : ((opening settings [restored] 7).run moves).pipeline.buffer.frontAdmittedAt?
      = some 7 := by decide +kernel
  obtain ⟨-, ⟨-, -, hsub, -⟩, -, -, holdest⟩ :=
    first_in_first_out settings [restored] 7 moves hslot htimes
  exact ⟨hslot, htimes, hsub, hpending, holdest 7 hfront⟩

end Journal

end BulkDelivery
