import BulkDelivery.Proofs.EventLoop.Turn
import BulkDelivery.Proofs.Pipeline.Journal

/-!
# The journal of a loop

A loop changes its pipeline by nothing but the calls to it: a request to write admits an
operation, an outcome that is taken settles a batch, and every turn takes batches until none is
due.  So a run of the loop is a run of moves, and the journal of the moves tells where everything
is that the loop took in.

## Main definitions

* `EventLoop.movesOf`, `EventLoop.history` — the moves of an event and of a run.
* `EventLoop.written` — the operations whose writes were answered with success.
* `EventLoop.opened`, `EventLoop.allMoves`, `EventLoop.journal` — a loop that was opened over
  checkpoints, its moves and its journal.

## Main results

* `EventLoop.pipeline_run` — **the pipeline of a loop is what its moves made of it.**
* `EventLoop.admitted_history` — what the moves admit is what was written.
* `EventLoop.faithful_journal` — **the journal of a loop is faithful to its pipeline.**
-/

namespace BulkDelivery

/-! ### Taking batches -/

namespace Pipeline

variable (p : Pipeline) (now : Time) (force : Bool)

theorem moves_replicate_of_none (h : p.nextBatch now force = none) (n : Nat) :
    p.moves (List.replicate n (.dispatch now force)) = p := by
  have hmove : p.move (.dispatch now force) = p := by simp [move, h]
  induction n with
  | zero => rfl
  | succ n ih => rw [List.replicate_succ, moves_cons, hmove, ih]

/-- Taking batches until none is due is a number of moves. -/
theorem dispatchUpTo_eq_moves (n : Nat) :
    (dispatchUpTo n p now force).2 = p.moves (List.replicate n (.dispatch now force)) := by
  induction n generalizing p with
  | zero => rfl
  | succ n ih =>
    cases hnext : p.nextBatch now force with
    | none =>
      -- the moves that are left find nothing due either
      rw [moves_replicate_of_none p now force hnext, dispatchUpTo, hnext]
    | some taken =>
      have hmove : p.move (.dispatch now force) = taken.2 := by simp [move, hnext]
      rw [List.replicate_succ, moves_cons, hmove, ← ih, dispatchUpTo, hnext]

theorem admitted_replicate (n : Nat) :
    p.admitted (List.replicate n (.dispatch now force)) = [] :=
  p.collected_replicate (fun _ => rfl) (fun _ _ _ => rfl) (fun _ => rfl) n

theorem admitted_append (ms ns : List Move) :
    p.admitted (ms ++ ns) = p.admitted ms ++ (p.moves ms).admitted ns :=
  p.collected_append (fun _ => rfl) (fun _ _ _ => rfl) ms ns

end Pipeline

namespace EventLoop

/-! ### Moves -/

/-- The moves of a turn: one for every free slot.  Those that find nothing due do nothing. -/
def turnMoves (l : EventLoop) (now : Time) : List Move :=
  List.replicate (l.pipeline.settings.maxInFlight - l.pipeline.inFlight.length)
    (.dispatch now l.dropDeparted.isForced)

/-- The moves of a request, before the turn after it. -/
def requestMoves (l : EventLoop) (now : Time) : Command → List Move
  | .write o => if l.closing.isSome then [] else [.accept o now]
  | _ => []

/-- The moves of an event and of the turn after it. -/
def movesOf (l : EventLoop) (m : Moment) (e : Event) : List Move :=
  if l.phase = .running then
    match e with
    | .request call command =>
      l.requestMoves m.now command ++ (l.handle m.now call command).1.turnMoves m.now
    | .take =>
      match l.inbox with
      | [] => []
      | (id, outcome) :: inbox =>
        let (_, pipeline) := l.pipeline.resolve id outcome m.now m.classify
        .resolve id outcome m.now m.classify :: turnMoves { l with pipeline, inbox } m.now
    | .wake => l.turnMoves m.now
    | _ => []
  else []

/-- The moves of a run. -/
def history (l : EventLoop) : List (Moment × Event) → List Move
  | [] => []
  | (m, e) :: rest => l.movesOf m e ++ (l.step m e).1.history rest

/-- The operation that an event wrote, if its write was answered with success.  A write is
answered before anything else is done. -/
def confirmed (e : Event) (effects : List Effect) : List Operation :=
  match e with
  | .request call (.write o) => if effects.head? = some (.answer call .done) then [o] else []
  | _ => []

/-- The operations whose writes were answered with success in a run, in order. -/
def written (l : EventLoop) : List (Moment × Event) → List Operation
  | [] => []
  | (m, e) :: rest => confirmed e (l.step m e).2 ++ (l.step m e).1.written rest

variable (l : EventLoop) (now : Time) (m : Moment) (e : Event)

theorem pipeline_turn_eq_moves :
    (l.turn now).1.pipeline = l.pipeline.moves (l.turnMoves now) := by
  rw [pipeline_turn, Pipeline.dispatchAll, Pipeline.dispatchUpTo_eq_moves, turnMoves]

theorem admitted_turnMoves (p : Pipeline) : p.admitted (l.turnMoves now) = [] := by
  rw [turnMoves, Pipeline.admitted_replicate]

theorem pipeline_handle (call : CallId) (command : Command) :
    (l.handle now call command).1.pipeline = l.pipeline.moves (l.requestMoves now command) := by
  cases command with
  | write o =>
    simp only [handle, requestMoves]
    by_cases hclosing : l.closing.isSome
    · simp [hclosing]
    · simp only [hclosing, Bool.false_eq_true, if_false, Pipeline.moves_cons, Pipeline.moves_nil,
        Pipeline.move]
      cases l.pipeline.accept o now <;> rfl
  | snapshot =>
    simp only [handle]
    cases l.pipeline.snapshot <;> rfl
  | close =>
    simp only [handle]
    split <;> rfl
  | flush => rfl
  | stats => rfl

/-- A request changes nothing but the pipeline and who waits. -/
theorem handle_eq (call : CallId) (command : Command) :
    (l.handle now call command).1 = { l with
      pipeline := l.pipeline.moves (l.requestMoves now command)
      flushes := if command = .flush then l.flushes ++ [call] else l.flushes
      closing := if command = .close then l.closing.or (some call) else l.closing } := by
  rw [← pipeline_handle l now call command]
  cases command with
  | write o =>
    rw [handle]
    split
    · rfl
    · split <;> rfl
  | flush => rfl
  | snapshot =>
    rw [handle]
    split <;> rfl
  | stats => rfl
  | close =>
    obtain ⟨pipeline, flushes, closing, phase, submitted, inbox, departed⟩ := l
    cases closing <;> rfl

/-- What a request brings at once is an answer to it. -/
theorem answer_of_mem_handle {l : EventLoop} {now : Time} {call : CallId} {command : Command}
    {x : Effect} (h : x ∈ (l.handle now call command).2) : ∃ a, x = .answer call a := by
  cases command with
  | write o =>
    rw [handle] at h
    split at h
    · exact ⟨_, List.mem_singleton.1 h⟩
    · split at h <;> exact ⟨_, List.mem_singleton.1 h⟩
  | flush => cases h
  | snapshot =>
    rw [handle] at h
    split at h <;> exact ⟨_, List.mem_singleton.1 h⟩
  | stats => exact ⟨_, List.mem_singleton.1 h⟩
  | close =>
    rw [handle] at h
    split at h
    · exact ⟨_, List.mem_singleton.1 h⟩
    · cases h

/-- **The pipeline after an event is what the moves of the event made of it.** -/
theorem pipeline_step : (l.step m e).1.pipeline = l.pipeline.moves (l.movesOf m e) := by
  unfold step movesOf
  by_cases hrun : l.phase = .running
  · cases e with
    | request call command =>
      simp only [hrun, if_true, andTurn, Pipeline.moves_append]
      rw [pipeline_turn_eq_moves, pipeline_handle]
    | take =>
      simp only [hrun, if_true, takeOutcome]
      cases l.inbox with
      | nil => rfl
      | cons posted inbox =>
        simp only [andTurn, Pipeline.moves_cons, pipeline_turn_eq_moves]
        rfl
    | wake =>
      simp only [hrun, if_true]
      exact l.pipeline_turn_eq_moves m.now
    | post id outcome => simp [pipeline_receive]
    | depart call => simp
    | release => simp [hrun, leave]
    | stop => simp [hrun]
  · cases e with
    | post id outcome => simp [hrun, pipeline_receive]
    | _ => simp [hrun]

/-- A write is answered at once, with success exactly if it is admitted. -/
theorem head?_handle_write (call : CallId) (o : Operation) :
    ∃ a, (l.handle now call (.write o)).2.head? = some (.answer call a) ∧
      l.pipeline.admitted (l.requestMoves now (.write o)) = if a = .done then [o] else [] := by
  simp only [handle, requestMoves]
  by_cases hclosing : l.closing.isSome
  · simp [hclosing, Pipeline.admitted]
  · simp only [hclosing, Bool.false_eq_true, if_false, Pipeline.admitted, Pipeline.admits]
    cases l.pipeline.accept o now <;> simp [Except.isOk, Except.toBool]

/-- What an event admits is what it wrote. -/
theorem admitted_movesOf :
    l.pipeline.admitted (l.movesOf m e) = confirmed e (l.step m e).2 := by
  unfold step movesOf
  by_cases hrun : l.phase = .running
  · cases e with
    | request call command =>
      simp only [hrun, if_true, Pipeline.admitted_append, admitted_turnMoves, List.append_nil]
      cases command with
      | write o =>
        -- the answer to the write comes first among the effects
        obtain ⟨a, hhead, hadmitted⟩ := l.head?_handle_write m.now call o
        simp [confirmed, andTurn, List.head?_append, hhead, hadmitted]
      | _ => simp [requestMoves, Pipeline.admitted, confirmed]
    | take =>
      simp only [hrun, if_true, confirmed]
      cases l.inbox with
      | nil => rfl
      | cons posted inbox =>
        rw [Pipeline.admitted, admitted_turnMoves]
        rfl
    | wake =>
      simp only [hrun, if_true, confirmed]
      exact l.admitted_turnMoves m.now l.pipeline
    | _ => simp [hrun, Pipeline.admitted, confirmed]
  · cases e with
    | request call command => cases command <;> simp [hrun, Pipeline.admitted, confirmed]
    | _ => simp [hrun, Pipeline.admitted, confirmed]

/-! ### Runs -/

/-- **The pipeline of a loop is what its moves made of it.** -/
theorem pipeline_run (events : List (Moment × Event)) :
    (l.run events).1.pipeline = l.pipeline.moves (l.history events) := by
  induction events generalizing l with
  | nil => rfl
  | cons x rest ih =>
    obtain ⟨m, e⟩ := x
    rw [run, ih, history, Pipeline.moves_append, ← pipeline_step]

/-- What the moves of a run admit is what was written. -/
theorem admitted_history (events : List (Moment × Event)) :
    l.pipeline.admitted (l.history events) = l.written events := by
  induction events generalizing l with
  | nil => rfl
  | cons x rest ih =>
    obtain ⟨m, e⟩ := x
    rw [history, Pipeline.admitted_append, admitted_movesOf, ← pipeline_step, ih, written]

theorem run_append (events later : List (Moment × Event)) :
    (l.run (events ++ later)).1 = ((l.run events).1.run later).1 := by
  induction events generalizing l with
  | nil => rfl
  | cons x rest ih =>
    obtain ⟨m, e⟩ := x
    rw [List.cons_append, run, ih, run]

theorem run_concat (events : List (Moment × Event)) :
    (l.run (events ++ [(m, e)])).1 = ((l.run events).1.step m e).1 := by
  rw [run_append]
  rfl

/-- A loop that was opened over the operations of checkpoints, after its first turn. -/
def opened (settings : Settings) (checkpoints : List Checkpoint) (openedAt startedAt : Time) :
    EventLoop :=
  (start (Pipeline.restore { settings } checkpoints openedAt) startedAt).1

/-- The moves of such a loop, from its first turn on. -/
def allMoves (settings : Settings) (checkpoints : List Checkpoint) (openedAt startedAt : Time)
    (events : List (Moment × Event)) : List Move :=
  let p := Pipeline.restore { settings } checkpoints openedAt
  turnMoves { pipeline := p } startedAt ++
    (opened settings checkpoints openedAt startedAt).history events

/-- The journal of such a loop. -/
def journal (settings : Settings) (checkpoints : List Checkpoint) (openedAt startedAt : Time)
    (events : List (Moment × Event)) : Journal :=
  (Journal.opening settings checkpoints openedAt).run
    (allMoves settings checkpoints openedAt startedAt events)

section Opened

variable (settings : Settings) (checkpoints : List Checkpoint) (openedAt startedAt : Time)
  (events : List (Moment × Event))

theorem pipeline_opened :
    (opened settings checkpoints openedAt startedAt).pipeline =
      (Journal.opening settings checkpoints openedAt).pipeline.moves
        (turnMoves { pipeline := Pipeline.restore { settings } checkpoints openedAt }
          startedAt) := by
  rw [opened, start, pipeline_turn_eq_moves]
  rfl

/-- The journal of a loop belongs to the pipeline of the loop. -/
theorem pipeline_journal :
    (journal settings checkpoints openedAt startedAt events).pipeline =
      ((opened settings checkpoints openedAt startedAt).run events).1.pipeline := by
  rw [journal, Journal.pipeline_run, allMoves, Pipeline.moves_append, ← pipeline_opened,
    pipeline_run]

/-- **The journal of a loop is faithful to its pipeline.** -/
theorem faithful_journal :
    (journal settings checkpoints openedAt startedAt events).Faithful :=
  Journal.faithful_run settings checkpoints openedAt _

/-- What arrived at a loop was restored or written. -/
theorem arrivals_journal :
    (journal settings checkpoints openedAt startedAt events).arrivals.map Entry.operation =
      checkpoints.flatMap Checkpoint.operations ++
        (opened settings checkpoints openedAt startedAt).written events := by
  rw [journal, Journal.arrivals_run, Journal.arrivals_opening, allMoves,
    Pipeline.admitted_append, admitted_turnMoves, List.nil_append, ← pipeline_opened,
    admitted_history]

end Opened

end EventLoop

end BulkDelivery
