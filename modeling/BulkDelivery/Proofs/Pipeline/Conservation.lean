import BulkDelivery.Proofs.Pipeline.Journal
import Mathlib.Data.List.Sigma
import Mathlib.Data.Multiset.AddSub

/-!
# Nothing is lost and nothing is doubled

What a pipeline took in waits, is in flight or was acknowledged, and after a halt it may also
have been in the batch that brought the halt.  Each occurrence is in one of these places only,
and the store's acknowledgement is final: what was acknowledged is never sent again.

## Main definitions

* `Journal.Acknowledges` — a move acknowledges an occurrence.
* `Journal.Halts` — a move halts the pipeline by a batch.

## Main results

* `Journal.restored_and_admitted_eq` — **the operations taken in are those that are pending, those
  that were acknowledged and those of the halting batch.**
-/

namespace BulkDelivery

namespace Journal

/-- The operations of occurrences. -/
def operationsOf (xs : List Occurrence) : List Operation :=
  xs.map fun x => x.1.operation

/-- A move settles the batch of an occurrence with an answer of as many results as the batch has
operations, and the result at the place of the occurrence is a success. -/
def Acknowledges (j : Journal) (m : Move) (x : Occurrence) : Prop :=
  ∃ id response now classify batch, m = .resolve id (.answered response) now classify ∧
    (id, batch) ∈ j.sent ∧ response.items.length = batch.length ∧
    ∃ i : Nat, batch[i]? = some x ∧ response.items[i]? = some .success

/-- A move settles a batch and halts the pipeline. -/
def Halts (j : Journal) (m : Move) (batch : List Occurrence) : Prop :=
  ∃ id outcome now classify, m = .resolve id outcome now classify ∧
    (j.pipeline.resolve id outcome now classify).1 = .halted ∧ (id, batch) ∈ j.sent

/-! ### One move -/

variable {j : Journal} {x : Occurrence}

/-- What one move does to what was acknowledged, abandoned and handed out. -/
structure Extends (j : Journal) (m : Move) (j' : Journal) : Prop where
  acknowledged : ∃ new, j'.acknowledged = j.acknowledged ++ new ∧ ∀ x ∈ new, j.Acknowledges m x
  abandoned : j'.abandoned = j.abandoned ∧ j'.pipeline.halt = j.pipeline.halt ∨
    ∃ batch, j'.abandoned = j.abandoned ++ batch ∧ j.Halts m batch
  dispatched : ∃ new, j'.dispatched = j.dispatched ++ new ∧ ∀ b ∈ new, ∀ x ∈ b.2, x ∈ j.waiting

theorem extends_refl (j : Journal) (m : Move) : j.Extends m j :=
  ⟨⟨[], by simp⟩, .inl ⟨rfl, rfl⟩, ⟨[], by simp⟩⟩

theorem extends_record (h : j.Faithful) (m : Move) : j.Extends m (j.record m) := by
  cases m with
  | accept o now =>
    cases haccept : j.pipeline.accept o now with
    | error e => simpa [record, haccept] using j.extends_refl _
    | ok p =>
      obtain ⟨-, -, -, rfl⟩ := Pipeline.accept_eq_ok_iff.1 haccept
      simp only [record, haccept]
      exact ⟨⟨[], by simp⟩, .inl ⟨rfl, rfl⟩, ⟨[], by simp⟩⟩
  | dispatch now force =>
    cases hnext : j.pipeline.nextBatch now force with
    | none => simpa [record, hnext] using j.extends_refl _
    | some taken =>
      obtain ⟨batch, p⟩ := taken
      obtain ⟨-, -, entries, buffer, -, -, rfl⟩ := Pipeline.nextBatch_eq_some_iff.1 hnext
      simp only [record, hnext]
      refine ⟨⟨[], by simp⟩, .inl ⟨rfl, rfl⟩, ⟨_, rfl, ?_⟩⟩
      -- a batch is taken from the front of what waits
      intro b hb x hx
      rw [List.mem_singleton.1 hb] at hx
      exact List.mem_of_mem_take hx
  | resolve id outcome now classify =>
    by_cases hhalt : j.pipeline.halt.isSome
    · rw [record_of_halt hhalt]
      exact j.extends_refl _
    have hrun : j.pipeline.halt = none := by simpa using hhalt
    cases hbatch : j.sent.lookup id with
    | none =>
      have hunknown : j.pipeline.inFlight.lookup id = none := by rw [h.lookup, hbatch]; rfl
      simp only [record, Pipeline.resolve_eq_ignored (.inr hunknown)]
      exact j.extends_refl _
    | some batch =>
      have hknown : j.pipeline.inFlight.lookup id = some (batch.map Prod.fst) := by
        rw [h.lookup, hbatch]
        rfl
      have hmem := mem_of_lookup hbatch
      cases hdemand : outcome.halt? classify (batch.map Prod.fst).length with
      | some halt =>
        have hresolve : j.pipeline.resolve id outcome now classify = _ :=
          Pipeline.resolve_eq_halted hrun hknown hdemand
        simp only [record, hresolve, settle, hbatch, Option.getD_some]
        refine ⟨⟨[], by simp⟩, .inr ⟨batch, rfl, ?_⟩, ⟨[], by simp⟩⟩
        exact ⟨id, outcome, now, classify, rfl, by rw [hresolve], hmem⟩
      | none =>
        simp only [record, Pipeline.resolve_eq_settled hrun hknown hdemand, settle, hbatch,
          Option.getD_some]
        refine ⟨⟨_, rfl, ?_⟩, .inl ⟨rfl, rfl⟩, ⟨[], by simp⟩⟩
        intro x hx
        obtain ⟨response, rfl, hlen, hplace⟩ := Outcome.mem_acknowledged_iff.1 hx
        exact ⟨id, response, now, classify, batch, rfl, hmem, hlen, hplace⟩

/-! ### Many moves -/

theorem Faithful.nodup (h : j.Faithful) :
    (j.waiting ++ (j.sent.flatMap Prod.snd ++ (j.acknowledged ++ j.abandoned))).Nodup :=
  h.places.nodup_iff.2 (List.Nodup.of_map _ (List.nodup_zipIdx_map_snd j.arrivals))

theorem Faithful.notMem_of_acknowledged (h : j.Faithful) (hx : x ∈ j.acknowledged) :
    x ∉ j.waiting ∧ ∀ b ∈ j.sent, x ∉ b.2 := by
  have hnodup := h.nodup
  rw [List.nodup_append, List.nodup_append] at hnodup
  obtain ⟨-, ⟨-, -, hsent⟩, hwaiting⟩ := hnodup
  have hlater : x ∈ j.acknowledged ++ j.abandoned := List.mem_append_left _ hx
  constructor
  · intro hmem
    exact hwaiting x hmem x (List.mem_append_right _ hlater) rfl
  · intro b hb hmem
    exact hsent x (List.mem_flatMap_of_mem hb hmem) x hlater rfl

theorem mem_acknowledged_run (h : j.Faithful) (hx : x ∈ j.acknowledged) (ms : List Move) :
    x ∈ (j.run ms).acknowledged := by
  induction ms generalizing j with
  | nil => exact hx
  | cons m ms ih =>
    obtain ⟨new, hnew, -⟩ := (extends_record h m).acknowledged
    refine ih (h.record m) ?_
    rw [hnew]
    exact List.mem_append_left _ hx

/-- What was acknowledged is in no batch that is handed out later. -/
theorem dispatched_run (h : j.Faithful) (ms : List Move) :
    ∃ new, (j.run ms).dispatched = j.dispatched ++ new ∧
      ∀ x ∈ j.acknowledged, ∀ b ∈ new, x ∉ b.2 := by
  induction ms generalizing j with
  | nil => exact ⟨[], by simp⟩
  | cons m ms ih =>
    obtain ⟨first, hfirst, hwaiting⟩ := (extends_record h m).dispatched
    obtain ⟨rest, hrest, hnot⟩ := ih (h.record m)
    refine ⟨first ++ rest, by rw [run_cons, hrest, hfirst, List.append_assoc], ?_⟩
    intro x hx b hb hmem
    rcases List.mem_append.1 hb with hb | hb
    · -- it would have to wait, and it is acknowledged already
      exact (h.notMem_of_acknowledged hx).1 (hwaiting b hb x hmem)
    · exact hnot x (mem_acknowledged_run h hx [m]) b hb hmem

/-- Every acknowledged occurrence was acknowledged by some move. -/
theorem acknowledges_of_mem (h : j.Faithful) {ms : List Move}
    (hx : x ∈ (j.run ms).acknowledged) (hnew : x ∉ j.acknowledged) :
    ∃ earlier m rest, ms = earlier ++ m :: rest ∧ (j.run earlier).Acknowledges m x := by
  induction ms generalizing j with
  | nil => exact absurd hx hnew
  | cons m ms ih =>
    by_cases hfirst : x ∈ (j.record m).acknowledged
    · obtain ⟨new, heq, hnow⟩ := (extends_record h m).acknowledged
      rw [heq, List.mem_append] at hfirst
      exact ⟨[], m, ms, rfl, hnow x (hfirst.resolve_left hnew)⟩
    · obtain ⟨earlier, m', rest, rfl, hack⟩ := ih (h.record m) hx hfirst
      exact ⟨m :: earlier, m', rest, rfl, hack⟩

/-- What was abandoned is one batch, and the pipeline halted when that batch was settled. -/
theorem halts_of_halt (h : j.Faithful) {ms : List Move} (hstart : j.pipeline.halt = none)
    (hhalt : (j.run ms).pipeline.halt.isSome) :
    ∃ earlier m rest, ms = earlier ++ m :: rest ∧ (j.run earlier).pipeline.halt = none ∧
      (j.run earlier).Halts m (j.run ms).abandoned := by
  induction ms generalizing j with
  | nil => simp [hstart] at hhalt
  | cons m ms ih =>
    -- nothing moves after a halt, so the first halt is the only one
    by_cases hfirst : (j.record m).pipeline.halt.isSome
    · rcases (extends_record h m).abandoned with ⟨-, hsame⟩ | ⟨batch, heq, hhalts⟩
      · simp [hsame, hstart] at hfirst
      · refine ⟨[], m, ms, rfl, hstart, ?_⟩
        rw [run_cons, run_of_halt hfirst, heq, h.running hstart]
        exact hhalts
    · obtain ⟨earlier, m', rest, rfl, hrun, hhalts⟩ := ih (h.record m) (by simpa using hfirst) hhalt
      exact ⟨m :: earlier, m', rest, rfl, hrun, hhalts⟩

/-! ### The balance -/

theorem Faithful.buffer_eq (h : j.Faithful) :
    j.pipeline.buffer.operations = operationsOf j.waiting := by
  rw [Buffer.operations, ← h.waiting, List.map_map]
  rfl

theorem Faithful.flight_eq (h : j.Faithful) :
    (j.pipeline.inFlight.flatMap fun b => b.2.map Entry.operation) =
      operationsOf (j.sent.flatMap Prod.snd) := by
  rw [← h.sent, List.flatMap_map, operationsOf, List.map_flatMap]
  simp [Function.comp_def]

/-- The operations that are pending are those that are held, in flight first. -/
theorem Faithful.pending_eq (h : j.Faithful) :
    j.pipeline.pending = operationsOf (j.sent.flatMap Prod.snd ++ j.waiting) := by
  rw [Pipeline.pending, h.flight_eq, h.buffer_eq]
  simp [operationsOf]

/-- The operations taken in are those of the four places. -/
theorem Faithful.operations_eq (h : j.Faithful) :
    (↑(j.arrivals.map Entry.operation) : Multiset Operation) =
      ↑j.pipeline.buffer.operations
        + ↑(j.pipeline.inFlight.flatMap fun b => b.2.map Entry.operation)
        + ↑(operationsOf j.acknowledged) + ↑(operationsOf j.abandoned) := by
  have harrivals : j.arrivals.map Entry.operation = operationsOf j.arrivals.zipIdx := by
    conv_lhs => rw [← List.zipIdx_map_fst 0 j.arrivals, List.map_map]
    rfl
  have hperm := h.places.map fun x => x.1.operation
  rw [h.buffer_eq, h.flight_eq, harrivals]
  simp only [Multiset.coe_add, Multiset.coe_eq_coe]
  refine hperm.symm.trans ?_
  simp [operationsOf]

/-- **Nothing is lost and nothing is doubled.**

A new pipeline takes over the operations of checkpoints, and then any calls follow.  What was
restored and admitted is then what waits, what is in flight, what was acknowledged and, after a
halt, the batch that brought it.  An occurrence is acknowledged only by an answer with a result
for every operation of its batch and a success at its place, and whatever happens afterwards it
neither waits nor is in flight nor is handed out again. -/
theorem restored_and_admitted_eq (settings : Settings) (checkpoints : List Checkpoint)
    (opened : Time) (ms later : List Move) :
    let start := opening settings checkpoints opened
    let j := start.run ms
    (j.Faithful ∧ j.pipeline = start.pipeline.moves ms) ∧
    (↑(checkpoints.flatMap Checkpoint.operations ++ start.pipeline.admitted ms) :
        Multiset Operation) =
      ↑j.pipeline.buffer.operations
        + ↑(j.pipeline.inFlight.flatMap fun b => b.2.map Entry.operation)
        + ↑(operationsOf j.acknowledged) + ↑(operationsOf j.abandoned) ∧
    (∀ x ∈ j.acknowledged, ∃ earlier m rest, ms = earlier ++ m :: rest ∧
      (start.run earlier).Acknowledges m x) ∧
    (∀ x ∈ j.acknowledged, x ∈ (j.run later).acknowledged ∧ x ∉ (j.run later).waiting ∧
      (∀ b ∈ (j.run later).sent, x ∉ b.2) ∧
      ∃ new, (j.run later).dispatched = j.dispatched ++ new ∧ ∀ b ∈ new, x ∉ b.2) ∧
    (j.pipeline.halt = none → j.abandoned = []) ∧
    (j.pipeline.halt.isSome → ∃ earlier m rest, ms = earlier ++ m :: rest ∧
      (start.run earlier).pipeline.halt = none ∧ (start.run earlier).Halts m j.abandoned) := by
  intro start j
  have hstart : start.Faithful := faithful_opening settings checkpoints opened
  have hj : j.Faithful := faithful_run settings checkpoints opened ms
  have hlater : (j.run later).Faithful := run_induction (fun _ m h => h.record m) later j hj
  refine ⟨⟨hj, pipeline_run start ms⟩, ?_, ?_, ?_, hj.running, ?_⟩
  · rw [← arrivals_opening settings checkpoints opened, ← arrivals_run]
    exact hj.operations_eq
  · intro x hx
    exact acknowledges_of_mem hstart hx (by simp [start, opening])
  · intro x hx
    have hkept := mem_acknowledged_run hj hx later
    obtain ⟨hwaiting, hsent⟩ := hlater.notMem_of_acknowledged hkept
    obtain ⟨new, hnew, hnot⟩ := dispatched_run hj later
    exact ⟨hkept, hwaiting, hsent, new, hnew, hnot x hx⟩
  · exact halts_of_halt hstart (by simp [start, opening, Pipeline.restore_eq])

end Journal

end BulkDelivery
