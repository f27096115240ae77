import BulkDelivery.Proofs.EventLoop.Journal
import BulkDelivery.Proofs.Pipeline.Halting
import Mathlib.Data.List.Induction

/-!
# Batches in flight

A batch that was sent is known in three places: the pipeline keeps it in flight, a task waits for
its request, and later its outcome lies in the inbox.  Each place changes at another event.  While
a loop runs and has not halted, they agree: whatever is in flight has either its request under way
or its outcome posted, and not both.

## Main definitions

* `Pipeline.requests` — the batches in flight as they were sent.
* `EventLoop.Attended` — the three places agree.

## Main results

* `Pipeline.requests_dispatchAll`, `Pipeline.requests_resolve` — what joins the flight and what
  leaves it.
* `EventLoop.attended_run` — **in every run the three places agree until the loop halts or ends.**
-/

namespace BulkDelivery

namespace Pipeline

/-- The batches in flight as they were sent. -/
def requests (p : Pipeline) : List Batch :=
  p.inFlight.map fun b => { id := b.1, operations := b.2.map Entry.operation }

theorem id_requests (p : Pipeline) : p.requests.map Batch.id = p.inFlight.map Prod.fst := by
  rw [requests, List.map_map]
  rfl

variable {p p' : Pipeline} {now : Time} {force : Bool}

theorem requests_nextBatch {batch : Batch} (h : p.nextBatch now force = some (batch, p')) :
    p'.requests = p.requests ++ [batch] := by
  obtain ⟨-, -, entries, buffer, -, rfl, rfl⟩ := nextBatch_eq_some_iff.1 h
  rw [requests, List.map_append]
  rfl

theorem requests_dispatchUpTo (n : Nat) :
    (dispatchUpTo n p now force).2.requests
      = p.requests ++ (dispatchUpTo n p now force).1 := by
  induction n generalizing p with
  | zero => simp [dispatchUpTo]
  | succ n ih =>
    rw [dispatchUpTo]
    cases hnext : p.nextBatch now force with
    | none => simp
    | some taken =>
      obtain ⟨batch, q⟩ := taken
      have hq : q.requests = p.requests ++ [batch] := requests_nextBatch hnext
      simp only [ih, hq, List.append_assoc, List.singleton_append]

/-- The batches that a turn takes join the flight behind the others. -/
theorem requests_dispatchAll :
    (p.dispatchAll now force).2.requests = p.requests ++ (p.dispatchAll now force).1 :=
  requests_dispatchUpTo _

theorem requests_accept {o : Operation} (h : p.accept o now = .ok p') :
    p'.requests = p.requests := by
  obtain ⟨-, -, -, rfl⟩ := accept_eq_ok_iff.1 h
  rfl

/-- Before a halt the batch that is settled leaves the flight, whatever it came to. -/
theorem requests_resolve (hrun : p.halt = none) (id : BatchId) (outcome : Outcome) (now : Time)
    (classify : TransportFailure → Verdict) :
    (p.resolve id outcome now classify).2.requests = p.requests.filter (·.id != id) := by
  have hfilter : p.requests.filter (·.id != id) =
      requests { p with inFlight := p.inFlight.filter (·.1 != id) } := by
    rw [requests, requests, List.filter_map]
    rfl
  cases hbatch : p.inFlight.lookup id with
  | none =>
    -- no batch has this number, so the filter keeps all of them
    have hkept : p.inFlight.filter (·.1 != id) = p.inFlight := by
      rw [List.filter_eq_self]
      intro b hb
      have hne := List.lookup_eq_none_iff.1 hbatch b hb
      rw [bne_comm]
      simpa using hne
    rw [resolve_eq_ignored (.inr hbatch), hfilter, hkept]
  | some entries =>
    rw [hfilter]
    cases hdemand : outcome.halt? classify entries.length with
    | some halt =>
      rw [resolve_eq_halted hrun hbatch hdemand]
      rfl
    | none =>
      rw [resolve_eq_settled hrun hbatch hdemand]
      rfl

end Pipeline

/-- No two batches in flight have the same number. -/
theorem Journal.Faithful.nodup_requests {j : Journal} (h : j.Faithful) :
    (j.pipeline.requests.map Batch.id).Nodup := by
  rw [Pipeline.id_requests]
  exact h.numbered.imp Nat.ne_of_lt

namespace EventLoop

/-- Every batch in flight has its request under way or its outcome posted, once, and its request
carries its operations in order. -/
structure Attended (l : EventLoop) : Prop where
  requests : ∀ b ∈ l.submitted, b ∈ l.pipeline.requests
  ids : (l.submitted.map Batch.id ++ l.inbox.map Prod.fst).Perm
    (l.pipeline.requests.map Batch.id)

namespace Attended

variable {l : EventLoop} {m : Moment} {e : Event} {id : BatchId}

theorem nodup (h : l.Attended) (hids : (l.pipeline.requests.map Batch.id).Nodup) :
    (l.submitted.map Batch.id ++ l.inbox.map Prod.fst).Nodup :=
  h.ids.nodup_iff.2 hids

/-- Whoever looks for a batch in flight finds its request or its outcome. -/
theorem request_or_outcome (h : l.Attended) {b : BatchId × List Entry}
    (hb : b ∈ l.pipeline.inFlight) :
    (∃ r ∈ l.submitted, r.id = b.1) ∨ ∃ outcome, (b.1, outcome) ∈ l.inbox := by
  have hmem : b.1 ∈ l.submitted.map Batch.id ++ l.inbox.map Prod.fst := by
    rw [h.ids.mem_iff, Pipeline.id_requests]
    exact List.mem_map_of_mem hb
  rw [List.mem_append, List.mem_map, List.mem_map] at hmem
  refine hmem.imp_right ?_
  rintro ⟨⟨id, outcome⟩, hposted, rfl⟩
  exact ⟨outcome, hposted⟩

/-! ### One event -/

/-- Sending adds a batch to the flight and to the requests. -/
theorem turn (h : l.Attended) (now : Time) : (l.turn now).1.Attended := by
  obtain ⟨batches, hbatches⟩ :
      ∃ batches, batches = (l.pipeline.dispatchAll now l.dropDeparted.isForced).1 := ⟨_, rfl⟩
  have hsubmitted : (l.turn now).1.submitted = l.submitted ++ batches := by
    rw [turn_eq, hbatches]
    rfl
  have hinbox : (l.turn now).1.inbox = l.inbox := by
    rw [turn_eq]
    rfl
  have hrequests : (l.turn now).1.pipeline.requests = l.pipeline.requests ++ batches := by
    rw [pipeline_turn, Pipeline.requests_dispatchAll, hbatches]
  constructor
  · rw [hsubmitted, hrequests]
    intro b hb
    rw [List.mem_append] at hb ⊢
    exact hb.imp_left (h.requests b)
  · rw [hsubmitted, hinbox, hrequests, List.map_append, List.map_append, List.append_assoc]
    -- the new batches move behind the outcomes
    refine (List.perm_append_comm.append_left _).trans ?_
    rw [← List.append_assoc]
    exact h.ids.append_right _

/-- A request to the loop sends nothing. -/
theorem handle (h : l.Attended) (now : Time) (call : CallId) (command : Command) :
    (l.handle now call command).1.Attended := by
  cases command with
  | write o =>
    rw [EventLoop.handle]
    split
    · exact h
    · split
      · next p hok =>
        have hsame : p.requests = l.pipeline.requests := Pipeline.requests_accept hok
        constructor
        · rw [hsame]
          exact h.requests
        · rw [hsame]
          exact h.ids
      · exact h
  | flush => exact ⟨h.requests, h.ids⟩
  | snapshot =>
    rw [EventLoop.handle]
    split <;> exact h
  | stats => exact h
  | close =>
    rw [EventLoop.handle]
    split
    · exact h
    · exact ⟨h.requests, h.ids⟩

/-- The outcome that is taken is that of a batch in flight, and the batch leaves the flight. -/
theorem react (h : l.Attended) (hids : (l.pipeline.requests.map Batch.id).Nodup)
    (hhalt : l.pipeline.halt = none) : (l.react m e).1.Attended := by
  cases e with
  | request call command => exact h.handle m.now call command
  | take =>
    rw [EventLoop.react]
    cases hinbox : l.inbox with
    | nil => exact h
    | cons posted inbox =>
      obtain ⟨id, outcome⟩ := posted
      have hnodup := h.nodup hids
      have hperm := h.ids
      rw [hinbox, List.map_cons] at hnodup hperm
      -- the number stands for no other request and no other outcome
      obtain ⟨hother, -⟩ := List.nodup_cons.1 (List.perm_middle.nodup_iff.1 hnodup)
      rw [List.mem_append, not_or] at hother
      obtain ⟨hsubmitted, hposted⟩ := hother
      have hkept : (l.submitted.map Batch.id ++ id :: inbox.map Prod.fst).filter (· != id)
          = l.submitted.map Batch.id ++ inbox.map Prod.fst := by
        rw [List.filter_append, List.filter_cons_of_neg (by simp), List.filter_eq_self.2,
          List.filter_eq_self.2]
        · intro x hx
          have hne : x ≠ id := fun heq => hposted (heq ▸ hx)
          simpa using hne
        · intro x hx
          have hne : x ≠ id := fun heq => hsubmitted (heq ▸ hx)
          simpa using hne
      have hrequests := Pipeline.requests_resolve hhalt id outcome m.now m.classify
      constructor
      · intro b hb
        have hne : b.id ≠ id := fun heq => hsubmitted (heq ▸ List.mem_map_of_mem hb)
        rw [hrequests, List.mem_filter]
        exact ⟨h.requests b hb, by simpa using hne⟩
      · rw [hrequests, ← hkept]
        refine (hperm.filter _).trans (.of_eq ?_)
        rw [List.filter_map]
        rfl
  | _ => exact h

/-- An outcome that is posted takes the place of its request. -/
theorem receive (h : l.Attended) (hids : (l.pipeline.requests.map Batch.id).Nodup)
    (hrun : l.phase = .running) (id : BatchId) (outcome : Outcome) :
    (l.receive id outcome).Attended := by
  unfold EventLoop.receive
  by_cases hany : l.submitted.any (·.id == id)
  · rw [if_pos hany, if_pos hrun]
    have hmem : id ∈ l.submitted.map Batch.id := by
      simpa using hany
    have hnodup : (l.submitted.map Batch.id).Nodup := (List.nodup_append.1 (h.nodup hids)).1
    have hleft : (l.submitted.filter (·.id != id)).map Batch.id
        = (l.submitted.map Batch.id).erase id := by
      rw [hnodup.erase_eq_filter, List.filter_map]
      rfl
    constructor
    · intro b hb
      exact h.requests b (List.mem_of_mem_filter hb)
    · rw [hleft, List.map_append, List.map_singleton]
      calc (l.submitted.map Batch.id).erase id ++ (l.inbox.map Prod.fst ++ [id])
          |>.Perm (id :: (l.submitted.map Batch.id).erase id ++ l.inbox.map Prod.fst) := by
            rw [← List.append_assoc]
            exact List.perm_append_singleton _ _
        _ |>.Perm (l.submitted.map Batch.id ++ l.inbox.map Prod.fst) :=
            (List.perm_cons_erase hmem).symm.append_right _
        _ |>.Perm (l.pipeline.requests.map Batch.id) := h.ids
  · rw [if_neg hany]
    exact h

theorem step (h : l.Attended) (hids : (l.pipeline.requests.map Batch.id).Nodup)
    (hrun : l.phase = .running) (hhalt : l.pipeline.halt = none) :
    (l.step m e).1.Attended := by
  by_cases hturn : l.turnsOn e
  · rw [step_of_turnsOn hturn]
    exact (h.react hids hhalt).turn m.now
  · simp only [turnsOn, hrun, decide_true, Bool.true_and] at hturn
    cases e with
    | request call command => exact absurd rfl hturn
    | wake => exact absurd rfl hturn
    | post id outcome => exact h.receive hids hrun id outcome
    | take =>
      have hinbox : l.inbox = [] := by simpa using hturn
      rw [EventLoop.step, if_pos hrun, takeOutcome, hinbox]
      exact h
    | depart call => exact ⟨h.requests, h.ids⟩
    | release =>
      rw [EventLoop.step, if_pos hrun]
      exact ⟨h.requests, h.ids⟩
    | stop =>
      rw [EventLoop.step, if_pos hrun]
      exact ⟨h.requests, h.ids⟩

end Attended

/-! ### Runs -/

variable {l : EventLoop} {m : Moment} {e : Event}

/-- A loop that runs after an event ran before it. -/
theorem phase_of_step (h : (l.step m e).1.phase = .running) : l.phase = .running := by
  by_contra hnot
  refine hnot ?_
  cases e with
  | post id outcome => rwa [step, phase_receive] at h
  | depart call => exact h
  | _ =>
    rw [step, if_neg hnot] at h
    exact h

/-- A loop that has not halted after an event had not halted before it. -/
theorem halt_of_step (h : (l.step m e).1.pipeline.halt = none) : l.pipeline.halt = none := by
  by_contra hsome
  rw [pipeline_step, Pipeline.moves_of_halt (Option.isSome_iff_ne_none.2 hsome)] at h
  exact hsome h

/-- A loop that has not halted when it has dealt with an event had not halted before it. -/
theorem halt_of_react (h : (l.react m e).1.pipeline.halt = none) : l.pipeline.halt = none := by
  by_contra hsome
  rw [← ne_eq, ← Option.isSome_iff_ne_none] at hsome
  have hsame : (l.react m e).1.pipeline = l.pipeline := by
    cases e with
    | request call command => rw [react, pipeline_handle, Pipeline.moves_of_halt hsome]
    | take =>
      rw [react]
      cases l.inbox with
      | nil => rfl
      | cons posted inbox => exact congrArg Prod.snd (Pipeline.resolve_eq_ignored (.inl hsome))
    | _ => rfl
  rw [← hsame, h] at hsome
  cases hsome

section Opened

variable (settings : Settings) (checkpoints : List Checkpoint) (openedAt startedAt : Time)

theorem attended_opened : (opened settings checkpoints openedAt startedAt).Attended := by
  refine Attended.turn ⟨?_, ?_⟩ startedAt
  · simp
  · simp [Pipeline.requests, Pipeline.restore_eq]

/-- No two batches in flight have the same number. -/
theorem nodup_requests (events : List (Moment × Event)) :
    (((opened settings checkpoints openedAt startedAt).run events).1.pipeline.requests.map
      Batch.id).Nodup := by
  rw [← pipeline_journal]
  exact (faithful_journal settings checkpoints openedAt startedAt events).nodup_requests

/-- **In every run, what is in flight has its request under way or its outcome posted**, until
the loop halts or ends. -/
theorem attended_run (events : List (Moment × Event)) :
    let l := ((opened settings checkpoints openedAt startedAt).run events).1
    l.phase = .running → l.pipeline.halt = none → l.Attended := by
  induction events using List.reverseRecOn with
  | nil =>
    intro l hrun hhalt
    exact attended_opened settings checkpoints openedAt startedAt
  | append_singleton events x ih =>
    obtain ⟨m, e⟩ := x
    rw [run_concat]
    intro l hrun hhalt
    have hrun' := phase_of_step hrun
    have hhalt' := halt_of_step hhalt
    exact (ih hrun' hhalt').step
      (nodup_requests settings checkpoints openedAt startedAt events) hrun' hhalt'

end Opened

end EventLoop

end BulkDelivery
