import BulkDelivery.Proofs.Pipeline.Calls
import Mathlib.Data.List.Basic

/-!
# The journal of a pipeline

A pipeline does not remember which operation came first, or which of two equal operations the
store has acknowledged.  A journal does: it runs beside a pipeline, gives every operation that is
taken in a number, and keeps for every number where the operation is.  It only follows what the
pipeline answers, and it reads what a batch came to off the outcome, by position.

An *occurrence* is an entry with its number.  Numbers follow the order of arrival: first the
operations of checkpoints, in order, then the operations that were admitted.

## Main definitions

* `Move`, `Pipeline.move`, `Pipeline.moves` — the calls that change a pipeline, and the pipeline
  after one and after several.
* `Pipeline.admitted` — the operations that are admitted on the way.
* `Journal`, `Journal.opening`, `Journal.record`, `Journal.run` — a journal, the first one of a
  new pipeline, and the journal after one move and after several.
* `Journal.Faithful` — the journal agrees with its pipeline, and every occurrence is in exactly
  one place.

## Main results

* `Journal.faithful_run` — **the journal of every run is faithful.**
-/

namespace BulkDelivery

/-- A call that may change a pipeline. -/
inductive Move
  /-- Admit an operation. -/
  | accept (operation : Operation) (now : Time)
  /-- Take the next batch. -/
  | dispatch (now : Time) (force : Bool)
  /-- Settle a batch. -/
  | resolve (id : BatchId) (outcome : Outcome) (now : Time)
      (classify : TransportFailure → Verdict)

/-- When a call is made. -/
def Move.now : Move → Time
  | accept _ now => now
  | dispatch now _ => now
  | resolve _ _ now _ => now

namespace Pipeline

/-- The pipeline after a move. -/
def move (p : Pipeline) : Move → Pipeline
  | .accept o now => (p.accept o now).toOption.getD p
  | .dispatch now force => ((p.nextBatch now force).map Prod.snd).getD p
  | .resolve id outcome now classify => (p.resolve id outcome now classify).2

/-- The pipeline after several moves. -/
def moves (p : Pipeline) (ms : List Move) : Pipeline :=
  ms.foldl move p

@[simp] theorem moves_nil (p : Pipeline) : p.moves [] = p := rfl

@[simp] theorem moves_cons (p : Pipeline) (m : Move) (ms : List Move) :
    p.moves (m :: ms) = (p.move m).moves ms := rfl

theorem moves_append (p : Pipeline) (ms ns : List Move) :
    p.moves (ms ++ ns) = (p.moves ms).moves ns :=
  List.foldl_append

/-- What a move admits. -/
def admits (p : Pipeline) : Move → List Operation
  | .accept o now => if (p.accept o now).isOk then [o] else []
  | _ => []

/-- What several moves admit, in order. -/
def admitted : Pipeline → List Move → List Operation
  | _, [] => []
  | p, m :: ms => p.admits m ++ admitted (p.move m) ms

section Collected

variable {α : Type} {one : Pipeline → Move → List α} {all : Pipeline → List Move → List α}

/-- What is collected move by move over two lists is collected over one after the other. -/
theorem collected_append (p : Pipeline) (hnil : ∀ p, all p [] = [])
    (hcons : ∀ p m ms, all p (m :: ms) = one p m ++ all (p.move m) ms) (ms ns : List Move) :
    all p (ms ++ ns) = all p ms ++ all (p.moves ms) ns := by
  induction ms generalizing p with
  | nil => rw [hnil, List.nil_append, List.nil_append, moves_nil]
  | cons m ms ih => rw [List.cons_append, hcons, ih, hcons, moves_cons, List.append_assoc]

theorem collected_replicate (p : Pipeline) (hnil : ∀ p, all p [] = [])
    (hcons : ∀ p m ms, all p (m :: ms) = one p m ++ all (p.move m) ms) {m : Move}
    (hone : ∀ p, one p m = []) (n : Nat) : all p (List.replicate n m) = [] := by
  induction n generalizing p with
  | zero => exact hnil p
  | succ n ih => rw [List.replicate_succ, hcons, hone, ih, List.append_nil]

end Collected

end Pipeline

/-- An entry with its number in the order of arrival. -/
abbrev Occurrence := Entry × Nat

/-- Who arrives last has the next number. -/
theorem zipIdx_concat (es : List Entry) (e : Entry) :
    (es ++ [e]).zipIdx = es.zipIdx ++ [(e, es.length)] := by
  rw [List.zipIdx_append, List.zipIdx_singleton, Nat.zero_add]

/-- A pipeline with a record of where everything is that it took in. -/
structure Journal where
  /-- The pipeline. -/
  pipeline : Pipeline
  /-- What was taken in, in order: restored first, then admitted. -/
  arrivals : List Entry
  /-- What waits, in the order of the buffer. -/
  waiting : List Occurrence
  /-- What is in flight. -/
  sent : List (BatchId × List Occurrence) := []
  /-- What the store acknowledged. -/
  acknowledged : List Occurrence := []
  /-- What was in the batch that halted the pipeline. -/
  abandoned : List Occurrence := []
  /-- Every batch that was handed out, with what was in it, in order. -/
  dispatched : List (Batch × List Occurrence) := []

namespace Journal

/-- The journal of a new pipeline that took over the operations of checkpoints. -/
def opening (settings : Settings) (checkpoints : List Checkpoint) (now : Time) : Journal :=
  let restored := (checkpoints.flatMap Checkpoint.operations).map (Entry.of · now)
  { pipeline := Pipeline.restore { settings } checkpoints now
    arrivals := restored
    waiting := restored.zipIdx }

/-- The journal after a batch has come back and has left the flight. -/
def settle (j : Journal) (id : BatchId) (outcome : Outcome) : Resolution → Journal
  | .ignored => j
  | .halted => { j with
      sent := j.sent.filter (·.1 != id)
      abandoned := j.abandoned ++ (j.sent.lookup id).getD [] }
  | .settled _ _ => { j with
      sent := j.sent.filter (·.1 != id)
      acknowledged := j.acknowledged ++ outcome.acknowledged ((j.sent.lookup id).getD [])
      waiting := outcome.returned ((j.sent.lookup id).getD []) ++ j.waiting }

/-- The journal after a move. -/
def record (j : Journal) (m : Move) : Journal :=
  match m with
  | .accept o now =>
    match j.pipeline.accept o now with
    | .error _ => j
    | .ok pipeline => { j with
        pipeline
        arrivals := j.arrivals ++ [Entry.of o now]
        waiting := j.waiting ++ [(Entry.of o now, j.arrivals.length)] }
  | .dispatch now force =>
    match j.pipeline.nextBatch now force with
    | none => j
    | some (batch, pipeline) =>
      let taken := j.waiting.take batch.operations.length
      { j with
        pipeline
        waiting := j.waiting.drop batch.operations.length
        sent := j.sent ++ [(batch.id, taken)]
        dispatched := j.dispatched ++ [(batch, taken)] }
  | .resolve id outcome now classify =>
    let (resolution, pipeline) := j.pipeline.resolve id outcome now classify
    { j.settle id outcome resolution with pipeline }

/-- The journal after several moves. -/
def run (j : Journal) (ms : List Move) : Journal :=
  ms.foldl record j

@[simp] theorem run_nil (j : Journal) : j.run [] = j := rfl

@[simp] theorem run_cons (j : Journal) (m : Move) (ms : List Move) :
    j.run (m :: ms) = (j.record m).run ms := rfl

theorem run_append (j : Journal) (ms ns : List Move) : j.run (ms ++ ns) = (j.run ms).run ns :=
  List.foldl_append

/-- What every move keeps, every run keeps. -/
theorem run_induction {P : Journal → Prop} (hstep : ∀ j m, P j → P (j.record m)) :
    ∀ (ms : List Move) (j : Journal), P j → P (j.run ms) := by
  intro ms
  induction ms with
  | nil => intro j h; exact h
  | cons m ms ih => intro j h; exact ih _ (hstep j m h)

section Settled

variable (j : Journal) (id : BatchId) (outcome : Outcome) (now : Time)
  (classify : TransportFailure → Verdict)

/-- Nothing arrives when a batch comes back. -/
@[simp] theorem arrivals_resolve :
    (j.record (.resolve id outcome now classify)).arrivals = j.arrivals := by
  simp only [record]
  cases (j.pipeline.resolve id outcome now classify).1 <;> rfl

/-- Nothing is handed out when a batch comes back. -/
@[simp] theorem dispatched_resolve :
    (j.record (.resolve id outcome now classify)).dispatched = j.dispatched := by
  simp only [record]
  cases (j.pipeline.resolve id outcome now classify).1 <;> rfl

/-- No batch enters the flight when one comes back. -/
theorem sent_resolve_sublist :
    (j.record (.resolve id outcome now classify)).sent.Sublist j.sent := by
  simp only [record]
  cases (j.pipeline.resolve id outcome now classify).1 with
  | ignored => exact List.Sublist.refl _
  | halted => exact List.filter_sublist
  | settled acknowledged requeued => exact List.filter_sublist

end Settled

theorem pipeline_record (j : Journal) (m : Move) :
    (j.record m).pipeline = j.pipeline.move m := by
  cases m with
  | accept o now =>
    simp only [record, Pipeline.move]
    cases j.pipeline.accept o now <;> rfl
  | dispatch now force =>
    simp only [record, Pipeline.move]
    cases j.pipeline.nextBatch now force <;> rfl
  | resolve id outcome now classify => rfl

/-- A journal does not meddle with its pipeline. -/
theorem pipeline_run (j : Journal) (ms : List Move) :
    (j.run ms).pipeline = j.pipeline.moves ms := by
  induction ms generalizing j with
  | nil => rfl
  | cons m ms ih => rw [run_cons, Pipeline.moves_cons, ih, pipeline_record]

/-- What arrives is what is admitted, with its size and the time of the call. -/
theorem arrivals_record_eq (j : Journal) (m : Move) :
    (j.record m).arrivals = j.arrivals ++ (j.pipeline.admits m).map (Entry.of · m.now) := by
  cases m with
  | accept o now =>
    simp only [record, Pipeline.admits]
    cases j.pipeline.accept o now with
    | error e => simp [Except.isOk, Except.toBool]
    | ok p => simp [Except.isOk, Except.toBool, Move.now]
  | dispatch now force =>
    simp only [record, Pipeline.admits]
    cases j.pipeline.nextBatch now force <;> simp
  | resolve id outcome now classify => simp [Pipeline.admits]

theorem arrivals_record (j : Journal) (m : Move) :
    (j.record m).arrivals.map Entry.operation =
      j.arrivals.map Entry.operation ++ j.pipeline.admits m := by
  rw [arrivals_record_eq, List.map_append, List.map_map]
  simp [Function.comp_def, Entry.of]

/-- What arrives after the restored operations is what was admitted. -/
theorem arrivals_run (j : Journal) (ms : List Move) :
    (j.run ms).arrivals.map Entry.operation =
      j.arrivals.map Entry.operation ++ j.pipeline.admitted ms := by
  induction ms generalizing j with
  | nil => simp [Pipeline.admitted]
  | cons m ms ih =>
    rw [run_cons, ih, arrivals_record, pipeline_record, Pipeline.admitted, List.append_assoc]

theorem arrivals_opening (settings : Settings) (checkpoints : List Checkpoint) (now : Time) :
    (opening settings checkpoints now).arrivals.map Entry.operation =
      checkpoints.flatMap Checkpoint.operations := by
  simp [opening, Function.comp_def, Entry.of]

/-- After a halt nothing changes any more. -/
theorem record_of_halt {j : Journal} (h : j.pipeline.halt.isSome) (m : Move) : j.record m = j := by
  obtain ⟨halt, hhalt⟩ := Option.isSome_iff_exists.1 h
  cases m with
  | accept o now => simp [record, Pipeline.accept, hhalt]
  | dispatch now force => simp [record, Pipeline.nextBatch, Pipeline.canDispatch, hhalt]
  | resolve id outcome now classify =>
    simp only [record, Pipeline.resolve_eq_ignored (.inl h)]
    rfl

theorem run_of_halt {j : Journal} (h : j.pipeline.halt.isSome) (ms : List Move) :
    j.run ms = j := by
  induction ms with
  | nil => rfl
  | cons m ms ih => rw [run_cons, record_of_halt h, ih]

/-! ### Batches by number -/

section Numbered

variable {α β : Type} {batches : List (BatchId × List α)} {id : BatchId} {batch : List α}

/-- Taking a batch out by its number takes out this batch and nothing else. -/
theorem perm_of_lookup (hids : (batches.map Prod.fst).Pairwise (· < ·))
    (hbatch : batches.lookup id = some batch) :
    batches.Perm ((id, batch) :: batches.filter (·.1 != id)) := by
  obtain ⟨front, back, rfl, hfront⟩ := List.lookup_eq_some_iff.1 hbatch
  rw [List.map_append, List.map_cons, List.pairwise_append, List.pairwise_cons] at hids
  obtain ⟨-, ⟨hback, -⟩, -⟩ := hids
  have hbefore : front.filter (·.1 != id) = front := by
    rw [List.filter_eq_self]
    intro b hb
    rw [bne_comm]
    exact hfront b hb
  -- the numbers increase, so no later batch has this one
  have hbehind : back.filter (·.1 != id) = back := by
    rw [List.filter_eq_self]
    intro b hb
    have hlt := hback b.1 (List.mem_map_of_mem hb)
    simpa using Nat.ne_of_gt hlt
  rw [List.filter_append, List.filter_cons_of_neg (by simp), hbefore, hbehind]
  exact List.perm_middle

/-- What is in flight is what is in the batch and what is in the others. -/
theorem flatMap_perm_of_lookup (hids : (batches.map Prod.fst).Pairwise (· < ·))
    (hbatch : batches.lookup id = some batch) :
    (batches.flatMap Prod.snd).Perm
      (batch ++ (batches.filter (·.1 != id)).flatMap Prod.snd) :=
  (perm_of_lookup hids hbatch).flatMap_right Prod.snd

theorem lookup_map_snd (f : List α → List β) :
    (batches.map fun b => (b.1, f b.2)).lookup id = (batches.lookup id).map f := by
  induction batches with
  | nil => rfl
  | cons b rest ih =>
    rw [List.map_cons, List.lookup_cons, List.lookup_cons, ih]
    cases id == b.1 <;> rfl

theorem mem_of_lookup (h : batches.lookup id = some batch) : (id, batch) ∈ batches := by
  obtain ⟨front, back, rfl, -⟩ := List.lookup_eq_some_iff.1 h
  exact List.mem_append_right front List.mem_cons_self

end Numbered

/-! ### Faithful journals -/

/-- A journal agrees with its pipeline, and every occurrence is in exactly one place. -/
structure Faithful (j : Journal) : Prop where
  /-- What waits is the buffer. -/
  waiting : j.waiting.map Prod.fst = j.pipeline.buffer.entries
  /-- What is in flight is in the batches of the pipeline. -/
  sent : (j.sent.map fun b => (b.1, b.2.map Prod.fst)) = j.pipeline.inFlight
  /-- Batches are in the order of their numbers. -/
  ordered : (j.sent.map Prod.fst).Pairwise (· < ·)
  /-- The next batch has a new number. -/
  fresh : ∀ b ∈ j.sent, b.1 < j.pipeline.nextId
  /-- A batch was handed out with what the journal says was in it. -/
  dispatched : ∀ b ∈ j.dispatched, b.2.map (fun x => x.1.operation) = b.1.operations
  /-- Every occurrence is in exactly one place. -/
  places : (j.waiting ++ (j.sent.flatMap Prod.snd ++ (j.acknowledged ++ j.abandoned))).Perm
    j.arrivals.zipIdx
  /-- Nothing is abandoned before a halt. -/
  running : j.pipeline.halt = none → j.abandoned = []

theorem faithful_opening (settings : Settings) (checkpoints : List Checkpoint) (now : Time) :
    (opening settings checkpoints now).Faithful where
  waiting := by simp [opening, Pipeline.restore_eq]
  sent := by simp [opening, Pipeline.restore_eq]
  ordered := by simp [opening]
  fresh := by simp [opening]
  dispatched := by simp [opening]
  places := by simp [opening]
  running := by simp [opening]

namespace Faithful

variable {j : Journal}

theorem lookup (h : j.Faithful) (id : BatchId) :
    j.pipeline.inFlight.lookup id = (j.sent.lookup id).map (List.map Prod.fst) := by
  rw [← h.sent]
  exact lookup_map_snd _

/-- Batches in flight are in the order of their numbers. -/
theorem numbered (h : j.Faithful) : (j.pipeline.inFlight.map Prod.fst).Pairwise (· < ·) := by
  rw [← h.sent, List.map_map]
  exact h.ordered

/-- What waits has arrived under its number. -/
theorem mem_zipIdx_of_waiting (h : j.Faithful) {x : Occurrence} (hx : x ∈ j.waiting) :
    x ∈ j.arrivals.zipIdx :=
  h.places.subset (List.mem_append_left _ hx)

theorem length_sent (h : j.Faithful) : j.sent.length = j.pipeline.inFlight.length := by
  rw [← h.sent, List.length_map]

theorem accept (h : j.Faithful) (o : Operation) (now : Time) :
    (j.record (.accept o now)).Faithful := by
  cases haccept : j.pipeline.accept o now with
  | error e => simpa [record, haccept] using h
  | ok p =>
    obtain ⟨hrun, -, -, rfl⟩ := Pipeline.accept_eq_ok_iff.1 haccept
    simp only [record, haccept]
    refine { h with waiting := ?_, places := ?_ }
    · simp [h.waiting]
    · -- the new occurrence joins both sides at their ends
      rw [zipIdx_concat, List.perm_iff_count]
      intro x
      have hcount := h.places.count_eq x
      simp only [List.count_append] at hcount ⊢
      omega

/-- What a batch takes is a beginning of what waits. -/
theorem waiting_eq (h : j.Faithful) {maxCount maxBytes : Nat} {entries : List Entry}
    {buffer : Buffer} (hdrain : j.pipeline.buffer.drain maxCount maxBytes = (entries, buffer)) :
    j.waiting.map Prod.fst = entries ++ buffer.entries := by
  have happend := Buffer.drain_append j.pipeline.buffer maxCount maxBytes
  rw [hdrain] at happend
  rw [h.waiting, ← happend]

theorem take_waiting (h : j.Faithful) {maxCount maxBytes : Nat} {entries : List Entry}
    {buffer : Buffer} (hdrain : j.pipeline.buffer.drain maxCount maxBytes = (entries, buffer)) :
    (j.waiting.take entries.length).map Prod.fst = entries := by
  rw [List.map_take, h.waiting_eq hdrain, List.take_left]

theorem drop_waiting (h : j.Faithful) {maxCount maxBytes : Nat} {entries : List Entry}
    {buffer : Buffer} (hdrain : j.pipeline.buffer.drain maxCount maxBytes = (entries, buffer)) :
    (j.waiting.drop entries.length).map Prod.fst = buffer.entries := by
  rw [List.map_drop, h.waiting_eq hdrain, List.drop_left]

theorem dispatch (h : j.Faithful) (now : Time) (force : Bool) :
    (j.record (.dispatch now force)).Faithful := by
  cases hnext : j.pipeline.nextBatch now force with
  | none => simpa [record, hnext] using h
  | some taken =>
    obtain ⟨batch, p⟩ := taken
    obtain ⟨-, -, entries, buffer, hdrain, rfl, rfl⟩ := Pipeline.nextBatch_eq_some_iff.1 hnext
    have htake := h.take_waiting hdrain
    have hdrop := h.drop_waiting hdrain
    simp only [record, hnext, List.length_map]
    -- the fields in their order
    constructor
    · exact hdrop
    · simp [h.sent, htake]
    · -- the new batch comes last, and its number is larger than all others
      rw [List.map_append, List.pairwise_append]
      refine ⟨h.ordered, by simp, ?_⟩
      intro a ha b hb
      obtain ⟨c, hc, rfl⟩ := List.mem_map.1 ha
      rw [List.map_singleton, List.mem_singleton] at hb
      rw [hb]
      exact h.fresh c hc
    · intro b hb
      rcases List.mem_append.1 hb with hold | hnew
      · exact Nat.lt_succ_of_lt (h.fresh b hold)
      · rw [List.mem_singleton.1 hnew]
        exact Nat.lt_succ_self _
    · intro b hb
      rcases List.mem_append.1 hb with hold | hnew
      · exact h.dispatched b hold
      · rw [List.mem_singleton.1 hnew]
        show _ = entries.map Entry.operation
        conv_rhs => rw [← htake, List.map_map]
        rfl
    · -- a prefix of what waited moves over, and nothing else moves
      rw [List.perm_iff_count]
      intro x
      have hcount := h.places.count_eq x
      have hsplit := congrArg (List.count x) (List.take_append_drop entries.length j.waiting)
      simp only [List.count_append, List.flatMap_append, List.flatMap_singleton]
        at hcount hsplit ⊢
      omega
    · exact h.running

theorem resolve (h : j.Faithful) (id : BatchId) (outcome : Outcome) (now : Time)
    (classify : TransportFailure → Verdict) :
    (j.record (.resolve id outcome now classify)).Faithful := by
  by_cases hhalt : j.pipeline.halt.isSome
  · rw [record_of_halt hhalt]
    exact h
  have hrun : j.pipeline.halt = none := by simpa using hhalt
  cases hbatch : j.sent.lookup id with
  | none =>
    have hunknown : j.pipeline.inFlight.lookup id = none := by rw [h.lookup, hbatch]; rfl
    simp only [record, Pipeline.resolve_eq_ignored (.inr hunknown)]
    exact h
  | some batch =>
    have hknown : j.pipeline.inFlight.lookup id = some (batch.map Prod.fst) := by
      rw [h.lookup, hbatch]
      rfl
    -- the batch leaves the flight, whatever it came to
    have hsplit := flatMap_perm_of_lookup h.ordered hbatch
    have hsent : ((j.sent.filter (·.1 != id)).map fun b => (b.1, b.2.map Prod.fst))
        = j.pipeline.inFlight.filter (·.1 != id) := by
      rw [← h.sent, List.filter_map]
      rfl
    have hordered : ((j.sent.filter (·.1 != id)).map Prod.fst).Pairwise (· < ·) :=
      h.ordered.sublist (List.filter_sublist.map _)
    have hfresh : ∀ b ∈ j.sent.filter (·.1 != id), b.1 < j.pipeline.nextId := by
      intro b hb
      exact h.fresh b (List.mem_of_mem_filter hb)
    cases hdemand : outcome.halt? classify (batch.map Prod.fst).length with
    | some halt =>
      simp only [record, Pipeline.resolve_eq_halted hrun hknown hdemand, settle, hbatch,
        Option.getD_some]
      refine ⟨h.waiting, hsent, hordered, hfresh, h.dispatched, ?_, by simp⟩
      -- all of it is abandoned
      rw [List.perm_iff_count]
      intro x
      have hcount := h.places.count_eq x
      have hcountSplit := hsplit.count_eq x
      simp only [List.count_append] at hcount hcountSplit ⊢
      omega
    | none =>
      simp only [record, Pipeline.resolve_eq_settled hrun hknown hdemand, settle, hbatch,
        Option.getD_some]
      refine ⟨?_, hsent, hordered, hfresh, h.dispatched, ?_, h.running⟩
      · simp [h.waiting, Outcome.returned_map]
      · -- one part of it is acknowledged and the other returns
        rw [List.perm_iff_count]
        intro x
        have hcount := h.places.count_eq x
        have hcountSplit := hsplit.count_eq x
        have hparts := (outcome.acknowledged_append_returned_perm batch).count_eq x
        simp only [List.count_append] at hcount hcountSplit hparts ⊢
        omega

end Faithful

theorem Faithful.record {j : Journal} (h : j.Faithful) (m : Move) : (j.record m).Faithful := by
  cases m with
  | accept o now => exact h.accept o now
  | dispatch now force => exact h.dispatch now force
  | resolve id outcome now classify => exact h.resolve id outcome now classify

/-- **The journal of every run is faithful.** -/
theorem faithful_run (settings : Settings) (checkpoints : List Checkpoint) (now : Time)
    (ms : List Move) : ((opening settings checkpoints now).run ms).Faithful :=
  run_induction (fun _ m h => h.record m) ms _ (faithful_opening settings checkpoints now)

end Journal

end BulkDelivery
