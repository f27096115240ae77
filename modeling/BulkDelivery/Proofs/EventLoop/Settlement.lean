import BulkDelivery.Proofs.EventLoop.Flight
import BulkDelivery.Proofs.Pipeline.Precedence

/-!
# Outcomes count once

A task that submits a batch posts one outcome, and the loop settles the batch when it takes that
outcome out of the inbox.  Tasks finish in any order or never, and the loop may do anything else
in between.  Every batch that was ever sent is nevertheless in one place only: it is settled, its
outcome lies in the inbox, or its request is still under way.  So no outcome finds its batch gone,
and no batch is settled a second time.

## Main definitions

* `Pipeline.settles`, `Pipeline.settled` — the batches that moves settle.
* `EventLoop.settles`, `EventLoop.settled` — the batches that events settle.
* `EventLoop.submissions`, `EventLoop.trace` — the batches among effects, and all effects of a loop.

## Main results

* `Journal.Faithful.settled_perm` — what was sent is settled or in flight.
* `EventLoop.submissions_trace` — a loop submits what its moves hand out.
* `EventLoop.outcomes_count_once` — **no outcome is lost and none counts twice.**
-/

namespace BulkDelivery

/-! ### Settled batches of a pipeline -/

namespace Pipeline

/-- The batch that a move settles, if it does. -/
def settles (p : Pipeline) : Move → List BatchId
  | .resolve id outcome now classify =>
    if (p.resolve id outcome now classify).1 = .ignored then [] else [id]
  | _ => []

/-- The batches that several moves settle, in order. -/
def settled : Pipeline → List Move → List BatchId
  | _, [] => []
  | p, m :: ms => p.settles m ++ settled (p.move m) ms

variable {p : Pipeline} {id : BatchId} {outcome : Outcome} {now : Time} {force : Bool}
  {classify : TransportFailure → Verdict}

theorem resolve_eq_ignored_iff :
    (p.resolve id outcome now classify).1 = .ignored ↔
      p.halt.isSome ∨ p.inFlight.lookup id = none := by
  constructor
  · intro hignored
    refine (p.ignored_or_inFlight id).resolve_right ?_
    rintro ⟨hrun, entries, hbatch⟩
    cases hdemand : outcome.halt? classify entries.length with
    | some halt =>
      rw [resolve_eq_halted hrun hbatch hdemand] at hignored
      cases hignored
    | none =>
      rw [resolve_eq_settled hrun hbatch hdemand] at hignored
      cases hignored
  · intro h
    rw [resolve_eq_ignored h]

theorem lookup_isSome_iff : (p.inFlight.lookup id).isSome ↔ id ∈ p.requests.map Batch.id := by
  rw [id_requests, List.lookup_isSome_iff]
  simp

/-- A batch joins the flight when a move hands it out. -/
theorem requests_dispatch :
    (p.move (.dispatch now force)).requests = p.requests ++ p.handsOut (.dispatch now force) := by
  rw [move, handsOut]
  cases hnext : p.nextBatch now force with
  | none => simp
  | some taken => exact requests_nextBatch hnext

theorem requests_move_accept (o : Operation) :
    (p.move (.accept o now)).requests = p.requests := by
  rw [move]
  cases haccept : p.accept o now with
  | error e => rfl
  | ok q => exact requests_accept haccept

/-- The batch that a move settles leaves the flight, and nothing else does. -/
theorem settles_perm (hids : (p.requests.map Batch.id).Nodup) (m : Move) :
    (p.settles m ++ (p.move m).requests.map Batch.id).Perm
      ((p.requests ++ p.handsOut m).map Batch.id) := by
  cases m with
  | accept o now => simp [settles, handsOut, requests_move_accept]
  | dispatch now force => simp [settles, requests_dispatch]
  | resolve id outcome now classify =>
    have hnothing : p.handsOut (.resolve id outcome now classify) = [] := rfl
    rw [hnothing, List.append_nil, settles, move]
    by_cases hignored : p.halt.isSome ∨ p.inFlight.lookup id = none
    · rw [resolve_eq_ignored hignored]
      simp
    · rw [if_neg (resolve_eq_ignored_iff.not.2 hignored)]
      rw [not_or, Option.not_isSome_iff_eq_none, ← ne_eq, ← Option.isSome_iff_ne_none,
        lookup_isSome_iff] at hignored
      obtain ⟨hrun, hmem⟩ := hignored
      -- as its number is the only one of its kind, leaving takes out one batch
      have hleft : (p.requests.filter (·.id != id)).map Batch.id
          = (p.requests.map Batch.id).erase id := by
        rw [hids.erase_eq_filter, List.filter_map]
        rfl
      rw [requests_resolve hrun, hleft]
      exact (List.perm_cons_erase hmem).symm

/-- What is in flight was handed out as it is. -/
theorem requests_move_sublist (p : Pipeline) (m : Move) :
    (p.move m).requests.Sublist (p.requests ++ p.handsOut m) := by
  cases m with
  | accept o now => simp [handsOut, requests_move_accept]
  | dispatch now force => rw [requests_dispatch]
  | resolve id outcome now classify =>
    have hnothing : p.handsOut (.resolve id outcome now classify) = [] := rfl
    rw [hnothing, List.append_nil, move]
    by_cases hhalt : p.halt.isSome
    · rw [resolve_eq_ignored (.inl hhalt)]
    · rw [Option.not_isSome_iff_eq_none] at hhalt
      rw [requests_resolve hhalt]
      exact List.filter_sublist

theorem requests_moves_sublist (p : Pipeline) (ms : List Move) :
    (p.moves ms).requests.Sublist (p.requests ++ p.batches ms) := by
  induction ms generalizing p with
  | nil => simp [batches]
  | cons m ms ih =>
    rw [moves_cons, batches, ← List.append_assoc]
    exact (ih (p.move m)).trans ((p.requests_move_sublist m).append_right _)

theorem settled_append (p : Pipeline) (ms ns : List Move) :
    p.settled (ms ++ ns) = p.settled ms ++ (p.moves ms).settled ns :=
  p.collected_append (fun _ => rfl) (fun _ _ _ => rfl) ms ns

theorem settled_replicate (p : Pipeline) (now : Time) (force : Bool) (n : Nat) :
    p.settled (List.replicate n (.dispatch now force)) = [] :=
  p.collected_replicate (fun _ => rfl) (fun _ _ _ => rfl) (fun _ => rfl) n

theorem batches_replicate_of_none (h : p.nextBatch now force = none) (n : Nat) :
    p.batches (List.replicate n (.dispatch now force)) = [] := by
  induction n with
  | zero => rfl
  | succ n ih =>
    have hmove : p.move (.dispatch now force) = p := by simp [move, h]
    rw [List.replicate_succ, batches, hmove, ih, handsOut, h]
    rfl

/-- Taking batches until none is due hands out what as many moves hand out. -/
theorem dispatchUpTo_eq_batches (p : Pipeline) (now : Time) (force : Bool) (n : Nat) :
    (dispatchUpTo n p now force).1 = p.batches (List.replicate n (.dispatch now force)) := by
  induction n generalizing p with
  | zero => rfl
  | succ n ih =>
    cases hnext : p.nextBatch now force with
    | none => rw [batches_replicate_of_none hnext, dispatchUpTo, hnext]
    | some taken =>
      have hmove : p.move (.dispatch now force) = taken.2 := by simp [move, hnext]
      have hbatch : p.handsOut (.dispatch now force) = [taken.1] := by simp [handsOut, hnext]
      rw [List.replicate_succ, batches, hmove, hbatch, ← ih, dispatchUpTo, hnext]
      rfl

end Pipeline

namespace Journal

/-- **What was sent is settled or in flight**, and not both. -/
theorem Faithful.settled_perm {j : Journal} (h : j.Faithful) (ms : List Move) :
    (j.pipeline.settled ms ++ (j.pipeline.moves ms).requests.map Batch.id).Perm
      ((j.pipeline.requests ++ j.pipeline.batches ms).map Batch.id) := by
  induction ms generalizing j with
  | nil => simp [Pipeline.settled, Pipeline.batches]
  | cons m ms ih =>
    have hfirst := Pipeline.settles_perm h.nodup_requests m
    have hrest := ih (h.record m)
    rw [pipeline_record, List.map_append] at hrest
    rw [Pipeline.settled, Pipeline.moves_cons, Pipeline.batches, List.append_assoc,
      ← List.append_assoc j.pipeline.requests, List.map_append]
    refine (hrest.append_left _).trans ?_
    rw [← List.append_assoc]
    exact hfirst.append_right _

theorem requests_opening (settings : Settings) (checkpoints : List Checkpoint) (now : Time) :
    (opening settings checkpoints now).pipeline.requests = [] := by
  simp [opening, Pipeline.requests, Pipeline.restore_eq]

/-- Batches are numbered in the order in which they are handed out. -/
theorem id_batches (settings : Settings) (checkpoints : List Checkpoint) (now : Time)
    (ms : List Move) :
    let start := opening settings checkpoints now
    (start.pipeline.batches ms).map Batch.id = List.range (start.run ms).pipeline.nextId := by
  intro start
  obtain ⟨front, back, h⟩ := retriedFirst_run settings checkpoints now ms
  have hbatches : (start.run ms).dispatched.map Prod.fst = start.pipeline.batches ms :=
    batches_run start ms
  rw [← hbatches, List.map_map]
  exact h.numbers

end Journal

/-! ### Settled and submitted batches of a loop -/

/-- The batch that an effect submits. -/
def Effect.batch? : Effect → Option Batch
  | submit batch => some batch
  | _ => none

namespace EventLoop

/-- The batch that an event settles, if the loop takes an outcome and does not ignore it. -/
def settles (l : EventLoop) (m : Moment) : Event → List BatchId
  | .take =>
    if l.phase = .running then
      match l.inbox with
      | [] => []
      | (id, outcome) :: _ =>
        if (l.pipeline.resolve id outcome m.now m.classify).1 = .ignored then [] else [id]
    else []
  | _ => []

/-- The batches that a run settles, in order. -/
def settled (l : EventLoop) : List (Moment × Event) → List BatchId
  | [] => []
  | (m, e) :: rest => l.settles m e ++ (l.step m e).1.settled rest

/-- The batches that are submitted among effects, in order. -/
def submissions (effects : List Effect) : List Batch :=
  effects.filterMap Effect.batch?

/-- Everything that a loop does that was opened over checkpoints, from its first turn on. -/
def trace (settings : Settings) (checkpoints : List Checkpoint) (openedAt startedAt : Time)
    (events : List (Moment × Event)) : List Effect :=
  (start (Pipeline.restore { settings } checkpoints openedAt) startedAt).2 ++
    ((opened settings checkpoints openedAt startedAt).run events).2

variable (l : EventLoop) (now : Time) (m : Moment) (e : Event)

/-- All that a request does to the pipeline is to admit an operation. -/
theorem requestMoves_cases (command : Command) :
    l.requestMoves now command = [] ∨ ∃ o, l.requestMoves now command = [.accept o now] := by
  cases command with
  | write o =>
    rw [requestMoves]
    split
    · exact .inl rfl
    · exact .inr ⟨o, rfl⟩
  | _ => exact .inl rfl

/-- An event settles what its moves settle. -/
theorem settled_movesOf : l.pipeline.settled (l.movesOf m e) = l.settles m e := by
  have hturn : ∀ (l' : EventLoop) (p : Pipeline), p.settled (l'.turnMoves m.now) = [] := by
    intro l' p
    rw [turnMoves, Pipeline.settled_replicate]
  unfold movesOf
  by_cases hrun : l.phase = .running
  · cases e with
    | request call command =>
      rw [if_pos hrun, Pipeline.settled_append, hturn, List.append_nil]
      rcases l.requestMoves_cases m.now command with hmoves | ⟨o, hmoves⟩ <;> rw [hmoves] <;> rfl
    | take =>
      simp only [hrun, if_true, settles]
      cases l.inbox with
      | nil => rfl
      | cons posted inbox => rw [Pipeline.settled, hturn, List.append_nil, Pipeline.settles]
    | wake =>
      rw [if_pos hrun]
      exact hturn l l.pipeline
    | _ =>
      rw [if_pos hrun]
      rfl
  · rw [if_neg hrun]
    cases e with
    | take => rw [settles, if_neg hrun, Pipeline.settled]
    | _ => rfl

/-- What the moves of a run settle is what the run settles. -/
theorem settled_history (events : List (Moment × Event)) :
    l.pipeline.settled (l.history events) = l.settled events := by
  induction events generalizing l with
  | nil => rfl
  | cons x rest ih =>
    obtain ⟨m, e⟩ := x
    rw [history, Pipeline.settled_append, settled_movesOf, ← pipeline_step, ih, settled]

theorem submissions_append (effects others : List Effect) :
    submissions (effects ++ others) = submissions effects ++ submissions others :=
  List.filterMap_append

/-- A turn submits what its moves hand out. -/
theorem submissions_turn : submissions (l.turn now).2 = l.pipeline.batches (l.turnMoves now) := by
  have hsubmit : ∀ batches : List Batch, submissions (batches.map .submit) = batches := by
    intro batches
    rw [submissions, List.filterMap_map]
    exact List.filterMap_some
  have hsent : submissions (l.dropDeparted.dispatch now).2
      = l.pipeline.batches (l.turnMoves now) := by
    rw [turnMoves, ← Pipeline.dispatchUpTo_eq_batches, dispatch, hsubmit]
    rfl
  rw [turn_eq, submissions_append, submissions_append, hsent, List.append_assoc]
  -- the rest of the turn only answers and cleans up
  cases (l.sent now).completion? with
  | none => simp [submissions]
  | some a =>
    cases l.closing with
    | none => simp [submissions, Effect.batch?]
    | some call => simp [submissions, Effect.batch?]

theorem submissions_handle (call : CallId) (command : Command) :
    submissions (l.handle now call command).2 = [] := by
  rw [submissions, List.filterMap_eq_nil_iff]
  intro x hx
  obtain ⟨a, rfl⟩ := answer_of_mem_handle hx
  rfl

theorem submissions_leave (l : EventLoop) : submissions l.leave.2 = [] := by
  rw [leave]
  cases l.closing <;> rfl

/-- An event submits what its moves hand out. -/
theorem submissions_step :
    submissions (l.step m e).2 = l.pipeline.batches (l.movesOf m e) := by
  unfold step movesOf
  by_cases hrun : l.phase = .running
  · cases e with
    | request call command =>
      have hrequest : l.pipeline.batches (l.requestMoves m.now command) = [] := by
        rcases l.requestMoves_cases m.now command with hmoves | ⟨o, hmoves⟩ <;> rw [hmoves] <;> rfl
      simp only [hrun, if_true, andTurn, submissions_append, submissions_handle,
        submissions_turn, Pipeline.batches_append, hrequest, pipeline_handle]
    | take =>
      simp only [hrun, if_true, takeOutcome]
      cases l.inbox with
      | nil => rfl
      | cons posted inbox =>
        simp only [andTurn, submissions_append, submissions_turn, Pipeline.batches]
        rfl
    | wake =>
      simp only [hrun, if_true]
      exact l.submissions_turn m.now
    | release =>
      simp only [hrun, if_true]
      exact l.submissions_leave
    | _ =>
      simp only [hrun, if_true]
      rfl
  · cases e <;> (simp only [hrun, if_false]; rfl)

theorem submissions_run (events : List (Moment × Event)) :
    submissions (l.run events).2 = l.pipeline.batches (l.history events) := by
  induction events generalizing l with
  | nil => rfl
  | cons x rest ih =>
    obtain ⟨m, e⟩ := x
    rw [run, history, Pipeline.batches_append, submissions_append, submissions_step, ih,
      pipeline_step]

/-! ### From the first turn on -/

section Opened

variable (settings : Settings) (checkpoints : List Checkpoint) (openedAt startedAt : Time)
  (events : List (Moment × Event))

/-- **A loop submits what its moves hand out.** -/
theorem submissions_trace :
    submissions (trace settings checkpoints openedAt startedAt events) =
      (Journal.opening settings checkpoints openedAt).pipeline.batches
        (allMoves settings checkpoints openedAt startedAt events) := by
  rw [trace, submissions_append, submissions_run, allMoves, Pipeline.batches_append,
    ← pipeline_opened, start, submissions_turn]
  rfl

/-- Batches are numbered in the order in which they are submitted. -/
theorem id_submissions :
    (submissions (trace settings checkpoints openedAt startedAt events)).map Batch.id =
      List.range ((opened settings checkpoints openedAt startedAt).run events).1.pipeline.nextId := by
  rw [submissions_trace, Journal.id_batches, ← pipeline_journal]
  rfl

/-- What a loop submitted is settled or in flight. -/
theorem settled_perm :
    ((opened settings checkpoints openedAt startedAt).settled events ++
      ((opened settings checkpoints openedAt startedAt).run events).1.pipeline.requests.map
        Batch.id).Perm
      ((submissions (trace settings checkpoints openedAt startedAt events)).map Batch.id) := by
  have hfaithful := Journal.faithful_opening settings checkpoints openedAt
  have hperm := hfaithful.settled_perm (allMoves settings checkpoints openedAt startedAt events)
  have hsettled : (Journal.opening settings checkpoints openedAt).pipeline.settled
      (allMoves settings checkpoints openedAt startedAt events)
        = (opened settings checkpoints openedAt startedAt).settled events := by
    rw [allMoves, Pipeline.settled_append, turnMoves, Pipeline.settled_replicate,
      List.nil_append, ← settled_history, pipeline_opened]
    rfl
  rw [Journal.requests_opening, List.nil_append, hsettled, ← submissions_trace,
    ← Journal.pipeline_run] at hperm
  rw [← pipeline_journal]
  exact hperm

/-- What is in flight was submitted as it is. -/
theorem requests_sublist :
    ((opened settings checkpoints openedAt startedAt).run events).1.pipeline.requests.Sublist
      (submissions (trace settings checkpoints openedAt startedAt events)) := by
  have hsublist := (Journal.opening settings checkpoints openedAt).pipeline.requests_moves_sublist
    (allMoves settings checkpoints openedAt startedAt events)
  rw [Journal.requests_opening, List.nil_append, ← submissions_trace,
    ← Journal.pipeline_run] at hsublist
  rw [← pipeline_journal]
  exact hsublist

end Opened

/-- **No outcome is lost and none counts twice.**

Whatever happened, batches were submitted under increasing numbers, what is in flight was
submitted with the same operations in the same order, and no batch was settled twice.  As long as
the loop runs and has not halted, what is in flight has its request under way or its outcome
posted, each number once, so that every batch ever submitted is settled, posted or under way.  An
outcome that the loop takes is ignored only after a halt.  The places agree after the next event
too, also before the loop turns. -/
theorem outcomes_count_once (settings : Settings) (checkpoints : List Checkpoint)
    (openedAt startedAt : Time) (events : List (Moment × Event)) :
    let first := opened settings checkpoints openedAt startedAt
    let l := (first.run events).1
    let submitted := submissions (trace settings checkpoints openedAt startedAt events)
    (submitted.map Batch.id = List.range l.pipeline.nextId ∧
      l.pipeline.requests.Sublist submitted ∧
      (first.settled events).Nodup ∧ first.settled events ⊆ submitted.map Batch.id) ∧
    (l.phase = .running →
      (l.pipeline.halt = none → l.Attended ∧ (l.pipeline.inFlight.map Prod.fst).Nodup ∧
        (first.settled events ++ (l.submitted.map Batch.id ++ l.inbox.map Prod.fst)).Perm
          (submitted.map Batch.id)) ∧
      (∀ id outcome rest now classify, l.inbox = (id, outcome) :: rest →
        ((l.pipeline.resolve id outcome now classify).1 = .ignored ↔ l.pipeline.halt.isSome)) ∧
      ∀ m e, ((l.react m e).1.pipeline.halt = none → (l.react m e).1.Attended) ∧
        ((l.step m e).1.pipeline.halt = none → (l.step m e).1.Attended)) := by
  intro first l submitted
  have hnumbers : submitted.map Batch.id = List.range l.pipeline.nextId :=
    id_submissions settings checkpoints openedAt startedAt events
  have hperm : (first.settled events ++ l.pipeline.requests.map Batch.id).Perm
      (submitted.map Batch.id) := settled_perm settings checkpoints openedAt startedAt events
  have hids : (l.pipeline.requests.map Batch.id).Nodup :=
    nodup_requests settings checkpoints openedAt startedAt events
  have hnodup : (first.settled events ++ l.pipeline.requests.map Batch.id).Nodup := by
    rw [hperm.nodup_iff, hnumbers]
    exact List.nodup_range
  refine ⟨⟨hnumbers, requests_sublist settings checkpoints openedAt startedAt events,
    (List.nodup_append.1 hnodup).1, fun id hid => hperm.subset (List.mem_append_left _ hid)⟩, ?_⟩
  intro hrun
  have hattended : l.pipeline.halt = none → l.Attended :=
    attended_run settings checkpoints openedAt startedAt events hrun
  refine ⟨?_, ?_, ?_⟩
  · intro hhalt
    have h := hattended hhalt
    rw [Pipeline.id_requests] at hids
    exact ⟨h, hids, (h.ids.append_left _).trans hperm⟩
  · intro id outcome rest now classify hinbox
    rw [Pipeline.resolve_eq_ignored_iff, or_iff_left_of_imp]
    -- before a halt, a posted outcome is that of a batch in flight
    intro hunknown
    by_contra hhalt
    rw [Option.not_isSome_iff_eq_none] at hhalt
    have hposted : id ∈ l.submitted.map Batch.id ++ l.inbox.map Prod.fst := by simp [hinbox]
    have hmem := (hattended hhalt).ids.subset hposted
    rw [← Pipeline.lookup_isSome_iff, hunknown] at hmem
    cases hmem
  · intro m e
    constructor
    · intro hhalt
      have hhalt' := halt_of_react hhalt
      exact (hattended hhalt').react hids hhalt'
    · intro hhalt
      have hhalt' := halt_of_step hhalt
      exact (hattended hhalt').step hids hrun hhalt'

/-- Of two batches the second comes back first, and something is written before the loop looks
into its inbox.  One batch is settled then, and the other has its outcome posted. -/
theorem outcomes_count_once_out_of_order :
    let moment (now : Time) : Moment := { now, classify := elasticsearch.classify }
    let events := [
      (moment 0, .request 0 (.write (.delete "a"))), (moment 1, .request 1 .flush),
      (moment 2, .request 2 (.write (.delete "b"))),
      (moment 3, .post 1 (.answered { items := [.success], took := ⟨5⟩ })),
      (moment 4, .post 0 (.failed (.rejected "full"))),
      (moment 5, .request 3 (.write (.delete "c"))), (moment 6, .take)]
    let first := opened .testing [] 0 0
    let l := (first.run events).1
    l.phase = .running ∧ l.pipeline.halt = none ∧ first.settled events = [1] ∧
      l.inbox = [(0, .failed (.rejected "full"))] ∧ l.Attended ∧
      (l.pipeline.resolve 0 (.failed (.rejected "full")) 7 elasticsearch.classify).1 ≠ .ignored := by
  intro moment events
  dsimp only
  obtain ⟨-, hafter⟩ := outcomes_count_once .testing [] 0 0 events
  have hrun : ((opened .testing [] 0 0).run events).1.phase = .running := by decide +kernel
  have hhalt : ((opened .testing [] 0 0).run events).1.pipeline.halt = none := by decide +kernel
  have hinbox : ((opened .testing [] 0 0).run events).1.inbox
      = [(0, .failed (.rejected "full"))] := by decide +kernel
  obtain ⟨hplaces, hignored, -⟩ := hafter hrun
  refine ⟨hrun, hhalt, by decide +kernel, hinbox, (hplaces hhalt).1, ?_⟩
  rw [ne_eq, hignored _ _ _ _ _ hinbox, hhalt]
  decide

end EventLoop

end BulkDelivery
