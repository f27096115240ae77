import BulkDelivery.Proofs.EventLoop.Ending
import BulkDelivery.Proofs.EventLoop.Settlement

/-!
# Closing

A caller who closes a loop waits for the end of the work.  From then on nothing is admitted, every
turn sends without waiting for a threshold, and the turn that leaves nothing behind, or finds that
delivery has ended, is the last one: it answers the flushes, releases the connection and tells the
caller.  So the state of the pipeline says whether and how the caller was answered, at any time
after the close was taken in.

There is one exception.  A loop also ends when nobody is left to ask, and if it was closed, it then
releases the connection and answers the caller as well, with success, although there is work left.
A caller who closes holds the writer until it is told or gives up, so nobody hears that answer.

## Main definitions

* `EventLoop.CleansUpThen`, `EventLoop.Closes` — what a loop does when it releases the connection,
  and after that.
* `EventLoop.Course` — how far a loop has come that was closed.
* `EventLoop.Remembers` — nobody who flushed is forgotten.

## Main results

* `EventLoop.Course.closes_iff` — who closed is answered exactly if there is something to tell, or
  the close was abandoned.
* `EventLoop.Remembers.run` — a flush is answered or goes on waiting, unless its caller gave up.
* `EventLoop.course_run` — every run after a close takes one of four courses.
* `EventLoop.close_drains` — **a close drains, cleans up last and strands nobody.**
-/

namespace BulkDelivery

namespace EventLoop

/-! ### What is done last -/

/-- The connection is released exactly once, and these effects follow. -/
def CleansUpThen (effects after : List Effect) : Prop :=
  ∃ before, effects = before ++ .cleanup :: after ∧ .cleanup ∉ before ∧ .cleanup ∉ after

/-- The connection is released exactly once, then a call is answered, and after that callers are
only turned away. -/
def Closes (effects : List Effect) (call : CallId) (a : Answer) : Prop :=
  ∃ after, CleansUpThen effects (.answer call a :: after) ∧ OnlyRefuses after

theorem CleansUpThen.append {effects after others : List Effect} (h : CleansUpThen effects after)
    (hothers : .cleanup ∉ others) : CleansUpThen (effects ++ others) (after ++ others) := by
  obtain ⟨before, rfl, hbefore, hafter⟩ := h
  refine ⟨before, by rw [List.append_assoc, List.cons_append], hbefore, ?_⟩
  rw [List.mem_append, not_or]
  exact ⟨hafter, hothers⟩

theorem Closes.append {effects others : List Effect} {call : CallId} {a : Answer}
    (h : Closes effects call a) (hothers : OnlyRefuses others) :
    Closes (effects ++ others) call a := by
  obtain ⟨after, hafter, hrefuses⟩ := h
  exact ⟨after ++ others, hafter.append hothers.cleanup_notMem, hrefuses.append hothers⟩

/-- What follows is determined. -/
theorem CleansUpThen.unique {effects after after' : List Effect} (h : CleansUpThen effects after)
    (h' : CleansUpThen effects after') : after = after' := by
  obtain ⟨before, rfl, hbefore, hafter⟩ := h
  obtain ⟨before', heq, -, -⟩ := h'
  exact ((List.append_cons_inj_of_notMem hbefore hafter).1 heq).2.2

theorem Closes.unique {effects : List Effect} {call : CallId} {a b : Answer}
    (h : Closes effects call a) (h' : Closes effects call b) : a = b := by
  obtain ⟨after, hafter, -⟩ := h
  obtain ⟨after', hafter', -⟩ := h'
  have heq := hafter.unique hafter'
  rw [List.cons.injEq, Effect.answer.injEq] at heq
  exact heq.1.2

variable {l : EventLoop} {m : Moment} {e : Event} {call c : CallId} {a : Answer} {now : Time}
  {effects : List Effect}

/-! ### The courses of a loop that was closed -/

/-- How far a loop has come that a call has closed, and what it did so far. -/
inductive Course (c : CallId) (l : EventLoop) (effects : List Effect) : Prop
  /-- It runs, and there is nothing to tell yet. -/
  | draining (phase : l.phase = .running) (silent : l.completion? = none)
      (held : .cleanup ∉ effects)
  /-- It told the caller what it had come to, after everybody else, and ended. -/
  | told (a : Answer) (phase : l.phase = .ended) (told : l.completion? = some a)
      (closes : Closes effects c a) (nobody : l.flushes = [])
      (returned : a = .done → l.submitted = [] ∧ l.inbox = [])
  /-- It ended because nobody could send requests any more, and told the caller that it was done. -/
  | released (phase : l.phase = .ended) (silent : l.completion? = none)
      (closes : Closes effects c .done)
  /-- It was stopped from outside. -/
  | stopped (phase : l.phase = .stopped) (silent : l.completion? = none)
      (held : .cleanup ∉ effects)

namespace Course

/-- **Who closed is answered exactly if there is something to tell, or the close was abandoned.** -/
theorem closes_iff (h : Course c l effects) :
    Closes effects c a ↔
      l.completion? = some a ∨ (l.phase = .ended ∧ l.completion? = none ∧ a = .done) := by
  have hheld : .cleanup ∉ effects → ¬Closes effects c a := by
    rintro hheld ⟨after, ⟨before, rfl, -, -⟩, -⟩
    simp at hheld
  cases h with
  | draining phase silent held => simp [hheld held, silent, phase]
  | told b phase told closes nobody returned =>
    simp only [told, Option.some.injEq, reduceCtorEq, false_and, and_false, or_false]
    constructor
    · intro hcloses
      exact closes.unique hcloses
    · rintro rfl
      exact closes
  | released phase silent closes =>
    simp only [silent, phase, reduceCtorEq, true_and, false_or]
    constructor
    · intro hcloses
      exact hcloses.unique closes
    · rintro rfl
      exact closes
  | stopped phase silent held => simp [hheld held, silent, phase]

/-- A loop that still runs has nothing to tell yet. -/
theorem of_running (h : Course c l effects) (hrun : l.phase = .running) :
    l.completion? = none ∧ .cleanup ∉ effects := by
  cases h with
  | draining phase silent held => exact ⟨silent, held⟩
  | told a phase => cases hrun.symm.trans phase
  | released phase => cases hrun.symm.trans phase
  | stopped phase => cases hrun.symm.trans phase

/-- When there is something to tell, nobody is left behind. -/
theorem of_completion? (h : Course c l effects) (htell : l.completion? = some a) :
    l.flushes = [] ∧ (a = .done → l.submitted = [] ∧ l.inbox = []) := by
  cases h with
  | draining phase silent => cases htell.symm.trans silent
  | told b phase told closes nobody returned =>
    obtain rfl : a = b := Option.some.inj (htell.symm.trans told)
    exact ⟨nobody, returned⟩
  | released phase silent => cases htell.symm.trans silent
  | stopped phase silent => cases htell.symm.trans silent

/-- A turn goes on draining, or it is the last one. -/
theorem turn (hclosing : l.closing = some c) (hrun : l.phase = .running)
    (hheld : .cleanup ∉ effects)
    (hreturned : (l.turn now).1.Idle → (l.turn now).1.submitted = [] ∧ (l.turn now).1.inbox = []) :
    Course c (l.turn now).1 (effects ++ (l.turn now).2) := by
  obtain ⟨front, hfront, heq⟩ := l.exists_turn_eq now
  have hbefore : .cleanup ∉ effects ++ front := by
    rw [List.mem_append, not_or]
    exact ⟨hheld, hfront⟩
  have hphase := l.phase_turn now
  have hflushes := l.flushes_turn now
  rw [heq, hclosing]
  rw [hclosing] at hphase
  cases hcompletion : (l.turn now).1.completion? with
  | none =>
    refine .draining ?_ hcompletion (by simpa using hbefore)
    rw [hphase, hcompletion]
    exact hrun
  | some a =>
    rw [hcompletion] at hphase hflushes
    refine .told a hphase hcompletion ?_ hflushes ?_
    · refine ⟨[], ⟨effects ++ front, ?_, hbefore, by simp⟩, by simp [OnlyRefuses]⟩
      rw [List.append_assoc]
      rfl
    · rintro rfl
      exact hreturned (completion?_eq_done_iff.1 hcompletion)

/-- Once it no longer runs, a loop stays on its course. -/
theorem rests {l' : EventLoop} {others : List Effect} (h : Course c l effects)
    (hnot : l.phase ≠ .running) (hrests : l.Rests l') (hothers : OnlyRefuses others) :
    Course c l' (effects ++ others) := by
  have hcompletion : l'.completion? = l.completion? := completion?_congr hrests.pipeline
  cases h with
  | draining phase silent held => exact absurd phase hnot
  | told a phase told closes nobody returned =>
    refine .told a (hrests.phase.trans phase) (hcompletion.trans told) (closes.append hothers)
      (hrests.flushes.trans nobody) ?_
    intro hdone
    obtain ⟨hsubmitted, hinbox⟩ := returned hdone
    exact ⟨List.sublist_nil.1 (hsubmitted ▸ hrests.submitted), hrests.inbox.trans hinbox⟩
  | released phase silent closes =>
    exact .released (hrests.phase.trans phase) (hcompletion.trans silent) (closes.append hothers)
  | stopped phase silent held =>
    refine .stopped (hrests.phase.trans phase) (hcompletion.trans silent) ?_
    rw [List.mem_append, not_or]
    exact ⟨held, hothers.cleanup_notMem⟩

/-- Every event keeps a loop on its course or takes it to the end. -/
theorem step (h : Course c l effects) (hclosing : l.closing = some c)
    (hreturned : l.phase = .running → (l.step m e).1.Idle →
      (l.step m e).1.submitted = [] ∧ (l.step m e).1.inbox = []) :
    Course c (l.step m e).1 (effects ++ (l.step m e).2) := by
  by_cases hrun : l.phase = .running
  · obtain ⟨hsilent, hheld⟩ := h.of_running hrun
    by_cases hturn : l.turnsOn e
    · rw [step_of_turnsOn hturn] at hreturned ⊢
      rw [andTurn, ← List.append_assoc]
      refine Course.turn (closing_react hclosing) (phase_react.trans hrun) ?_ (hreturned hrun)
      rw [List.mem_append, not_or]
      exact ⟨hheld, cleanup_notMem_react⟩
    · have hsilent' : (l.step m e).1.completion? = none :=
        (completion?_congr (keeps_step hturn).pipeline).trans hsilent
      rcases step_without_turn (m := m) hrun hturn with ⟨hruns, hnothing⟩ | ⟨-, hleave⟩ |
        ⟨hstopped, hnothing⟩
      · rw [hnothing, List.append_nil]
        exact .draining hruns hsilent' hheld
      · -- nobody is left to ask, so the work is given up
        rw [hleave] at hsilent' ⊢
        have hlast : l.leave.2 = [.cleanup, .answer c .done] := by
          rw [leave, hclosing, lastWord_of_silent hsilent]
          rfl
        rw [hlast]
        exact .released rfl hsilent' ⟨[], ⟨effects, rfl, hheld, by simp⟩, by simp [OnlyRefuses]⟩
      · rw [hnothing, List.append_nil]
        exact .stopped hstopped hsilent' hheld
  · obtain ⟨hrests, hrefuses⟩ := rests_step (m := m) (e := e) hrun
    exact h.rests hrun hrests hrefuses

end Course

/-! ### Flushes -/

/-- A call was told how the work ended. -/
def ToldEnd (effects : List Effect) (call : CallId) : Prop :=
  ∃ a, .answer call a ∈ effects ∧ (a = .done ∨ ∃ halt, a = .failed (.halted halt))

/-- A caller who flushed was told how the work ended, or still waits, or gave up. -/
def Remembers (l : EventLoop) (effects : List Effect) (call : CallId) : Prop :=
  call ∈ l.departed ∨ call ∈ l.flushes ∨ ToldEnd effects call

theorem ToldEnd.append {others : List Effect} (h : ToldEnd effects call ∨ ToldEnd others call) :
    ToldEnd (effects ++ others) call := by
  rcases h with ⟨a, ha, hend⟩ | ⟨a, ha, hend⟩
  · exact ⟨a, List.mem_append_left _ ha, hend⟩
  · exact ⟨a, List.mem_append_right _ ha, hend⟩

/-- At a turn a flush is answered or goes on waiting, unless its caller gave up. -/
theorem remembers_turn (h : call ∈ l.flushes) : (l.turn now).1.Remembers (l.turn now).2 call := by
  by_cases hstays : call ∈ l.departed
  · left
    rw [departed_turn]
    exact hstays
  · right
    have hwaits : call ∈ l.dropDeparted.flushes := by simp [dropDeparted, h, hstays]
    cases hcompletion : (l.turn now).1.completion? with
    | none =>
      left
      rw [flushes_turn, hcompletion]
      exact hwaits
    | some a =>
      have hanswer := (l.answer_mem_turn_iff now).2 ⟨hcompletion, .inl hwaits⟩
      exact .inr ⟨a, hanswer, completion?_eq_some hcompletion⟩

theorem remembers_react (hturn : l.turnsOn e) (h : call ∈ (l.react m e).1.flushes) :
    (l.step m e).1.Remembers (l.step m e).2 call := by
  rw [step_of_turnsOn hturn]
  exact (remembers_turn h).imp_right (Or.imp_right fun htold => ToldEnd.append (.inr htold))

/-- A loop that runs remembers a flush that it is asked for. -/
theorem remembers_request (hrun : l.phase = .running) :
    (l.step m (.request call .flush)).1.Remembers (l.step m (.request call .flush)).2 call := by
  refine remembers_react ?_ (List.mem_append_right _ List.mem_cons_self)
  rw [turnsOn, hrun]
  rfl

theorem Remembers.step (h : l.Remembers effects call) :
    (l.step m e).1.Remembers (effects ++ (l.step m e).2) call := by
  rcases h with hdeparted | hwaits | htold
  · exact .inl (departed_step hdeparted)
  · by_cases hturn : l.turnsOn e
    · have hnow := remembers_react hturn (mem_flushes_react hwaits (m := m))
      exact hnow.imp_right (Or.imp_right fun htold => ToldEnd.append (.inr htold))
    · right
      left
      rw [(keeps_step hturn).flushes]
      exact hwaits
  · exact .inr (.inr (ToldEnd.append (.inl htold)))

/-- **A flush is answered or goes on waiting, unless its caller gave up.** -/
theorem Remembers.run (h : l.Remembers effects call) (events : List (Moment × Event)) :
    (l.run events).1.Remembers (effects ++ (l.run events).2) call := by
  induction events generalizing l effects with
  | nil =>
    rw [EventLoop.run, List.append_nil]
    exact h
  | cons x rest ih =>
    obtain ⟨m, e⟩ := x
    rw [EventLoop.run, ← List.append_assoc]
    exact ih h.step

/-- A flush that a running loop was asked for is remembered. -/
theorem remembers_run (hrun : l.phase = .running) (m : Moment) (call : CallId)
    (rest : List (Moment × Event)) :
    (l.run ((m, .request call .flush) :: rest)).1.Remembers
      (l.run ((m, .request call .flush) :: rest)).2 call :=
  (remembers_request hrun).run rest

/-! ### Runs -/

theorem effects_run_append (l : EventLoop) (events later : List (Moment × Event)) :
    (l.run (events ++ later)).2 = (l.run events).2 ++ ((l.run events).1.run later).2 := by
  induction events generalizing l with
  | nil => rfl
  | cons x rest ih =>
    obtain ⟨m, e⟩ := x
    have hfirst : ∀ es, (l.run ((m, e) :: es)).2 = (l.step m e).2 ++ ((l.step m e).1.run es).2 :=
      fun _ => rfl
    rw [List.cons_append, hfirst, ih, hfirst, List.append_assoc]
    rfl

theorem effects_run_concat (l : EventLoop) (events : List (Moment × Event)) (m : Moment)
    (e : Event) :
    (l.run (events ++ [(m, e)])).2 = (l.run events).2 ++ ((l.run events).1.step m e).2 := by
  rw [effects_run_append]
  simp [run]

/-- An idle loop has no request under way and no outcome that it did not take. -/
theorem Attended.returned (h : l.Attended) (hidle : l.Idle) : l.submitted = [] ∧ l.inbox = [] := by
  have hids := h.ids
  rw [Pipeline.id_requests, (Pipeline.isDrained_iff.1 hidle.2).2, List.map_nil, List.perm_nil,
    List.append_eq_nil_iff, List.map_eq_nil_iff, List.map_eq_nil_iff] at hids
  exact hids

section Opened

variable (settings : Settings) (checkpoints : List Checkpoint) (openedAt startedAt : Time)
  (events : List (Moment × Event))

theorem trace_concat (m : Moment) (e : Event) :
    trace settings checkpoints openedAt startedAt (events ++ [(m, e)]) =
      trace settings checkpoints openedAt startedAt events ++
        (((opened settings checkpoints openedAt startedAt).run events).1.step m e).2 := by
  rw [trace, effects_run_concat, ← List.append_assoc]
  rfl

/-- A loop that runs has not released the connection. -/
theorem cleanup_notMem_trace
    (hrun : ((opened settings checkpoints openedAt startedAt).run events).1.phase = .running) :
    .cleanup ∉ trace settings checkpoints openedAt startedAt events := by
  induction events using List.reverseRecOn with
  | nil =>
    -- nobody can have closed a loop before its first turn
    rw [trace, run, List.append_nil]
    refine cleanup_notMem_turn ?_
    rw [phase_turn]
    rfl
  | append_singleton events x ih =>
    obtain ⟨m, e⟩ := x
    rw [run_concat] at hrun
    rw [trace_concat, List.mem_append, not_or]
    exact ⟨ih (phase_of_step hrun), cleanup_notMem_step hrun⟩

/-- A loop that becomes idle has every request back and every outcome taken. -/
theorem returned_of_idle
    (hrun : ((opened settings checkpoints openedAt startedAt).run events).1.phase = .running)
    (hidle : (((opened settings checkpoints openedAt startedAt).run events).1.step m e).1.Idle) :
    (((opened settings checkpoints openedAt startedAt).run events).1.step m e).1.submitted = [] ∧
      (((opened settings checkpoints openedAt startedAt).run events).1.step m e).1.inbox = [] := by
  have hhalt := halt_of_step hidle.1
  have hattended := attended_run settings checkpoints openedAt startedAt events hrun hhalt
  have hids := nodup_requests settings checkpoints openedAt startedAt events
  exact (hattended.step hids hrun hhalt).returned hidle

/-- **Every run after a close takes one of four courses.** -/
theorem course_run (m : Moment) (later : List (Moment × Event))
    (hrun : ((opened settings checkpoints openedAt startedAt).run events).1.phase = .running)
    (hopen : ((opened settings checkpoints openedAt startedAt).run events).1.closing = none) :
    let all := events ++ (m, .request c .close) :: later
    let l := ((opened settings checkpoints openedAt startedAt).run all).1
    l.closing = some c ∧
      Course c l (trace settings checkpoints openedAt startedAt all) := by
  induction later using List.reverseRecOn with
  | nil =>
    intro all l
    obtain ⟨before, hbefore⟩ :
        ∃ k, k = ((opened settings checkpoints openedAt startedAt).run events).1 := ⟨_, rfl⟩
    have hl : l = (before.step m (.request c .close)).1 := by
      rw [hbefore]
      exact run_concat _ _ _ _
    have htrace : trace settings checkpoints openedAt startedAt all =
        trace settings checkpoints openedAt startedAt events ++
          (before.step m (.request c .close)).2 := by
      rw [hbefore]
      exact trace_concat _ _ _ _ _ _ _
    have hheld := cleanup_notMem_trace settings checkpoints openedAt startedAt events hrun
    have hreturned := returned_of_idle (m := m) (e := .request c .close) settings checkpoints
      openedAt startedAt events hrun
    rw [← hbefore] at hrun hopen hreturned
    have hreact : before.react m (.request c .close) = ({ before with closing := some c }, []) := by
      simp [react, handle, hopen]
    have hturn : before.turnsOn (.request c .close) := by simp [turnsOn, hrun]
    rw [htrace, hl]
    rw [step_of_turnsOn hturn, hreact] at hreturned ⊢
    refine ⟨closing_turn _ _, ?_⟩
    exact Course.turn rfl hrun hheld hreturned
  | append_singleton later x ih =>
    intro all l
    obtain ⟨hclosing, hcourse⟩ := ih
    obtain ⟨m', e'⟩ := x
    have hall : all = (events ++ (m, .request c .close) :: later) ++ [(m', e')] := by
      simp [all]
    have hl : l = (((opened settings checkpoints openedAt startedAt).run
        (events ++ (m, .request c .close) :: later)).1.step m' e').1 := by
      rw [← run_concat, ← hall]
    rw [hl, hall, trace_concat]
    refine ⟨closing_step hclosing, hcourse.step hclosing ?_⟩
    exact returned_of_idle settings checkpoints openedAt startedAt _

/-- A close is abandoned exactly if the loop has ended with nothing to tell. -/
theorem abandoned_iff (m : Moment) (later : List (Moment × Event))
    (hrun : ((opened settings checkpoints openedAt startedAt).run events).1.phase = .running)
    (hopen : ((opened settings checkpoints openedAt startedAt).run events).1.closing = none) :
    let first := opened settings checkpoints openedAt startedAt
    let l := (first.run (events ++ (m, .request c .close) :: later)).1
    (first.run (events ++ [(m, .request c .close)])).1.Abandoned later ↔
      l.phase = .ended ∧ l.completion? = none := by
  intro first l
  have hsplit : ∀ rest, (first.run (events ++ (m, .request c .close) :: rest)).1 =
      ((first.run (events ++ [(m, .request c .close)])).1.run rest).1 := by
    intro rest
    rw [← run_append, List.append_assoc]
    rfl
  constructor
  · intro habandoned
    obtain ⟨hended, before, -, hruns, hpipeline⟩ := habandoned.ended
    rw [← hsplit] at hended hruns hpipeline
    -- there was nothing to tell while it ran, and the pipeline has not changed since
    obtain ⟨-, hcourse⟩ :=
      course_run (c := c) settings checkpoints openedAt startedAt events m before hrun hopen
    refine ⟨hended, ?_⟩
    rw [completion?_congr (hpipeline.trans (congrArg _ (hsplit before).symm))]
    exact (hcourse.of_running hruns).1
  · rintro ⟨hended, hsilent⟩
    have hl : l = ((first.run events).1.run ((m, .request c .close) :: later)).1 :=
      run_append first events _
    rw [hl] at hended hsilent
    rcases told_or_abandoned_run hrun _ hended with htold | ⟨before, m', after, hevents, hruns⟩
    · rw [hsilent] at htold
      cases htold
    · cases before with
      | nil => simp at hevents
      | cons x before =>
        obtain ⟨rfl, rfl⟩ := List.cons.inj hevents
        refine ⟨before, m', after, rfl, ?_⟩
        rw [run_concat]
        exact hruns

/-- An idle loop has everything acknowledged that it took in. -/
theorem acknowledged_of_idle
    (hidle : ((opened settings checkpoints openedAt startedAt).run events).1.Idle) :
    let j := journal settings checkpoints openedAt startedAt events
    j.acknowledged.Perm j.arrivals.zipIdx ∧
      ∀ x ∈ j.acknowledged, ∃ earlier resolve rest,
        allMoves settings checkpoints openedAt startedAt events = earlier ++ resolve :: rest ∧
          ((Journal.opening settings checkpoints openedAt).run earlier).Acknowledges resolve x := by
  intro j
  have hfaithful : j.Faithful := faithful_journal settings checkpoints openedAt startedAt events
  have hpipeline : j.pipeline = _ := pipeline_journal settings checkpoints openedAt startedAt events
  constructor
  · exact hfaithful.acknowledged_perm (hpipeline ▸ hidle.1) (hpipeline ▸ hidle.2)
  · intro x hx
    exact Journal.acknowledges_of_mem (Journal.faithful_opening settings checkpoints openedAt) hx
      List.not_mem_nil

/-- An idle loop has every batch settled that it submitted. -/
theorem settled_of_idle
    (hidle : ((opened settings checkpoints openedAt startedAt).run events).1.Idle) :
    ((opened settings checkpoints openedAt startedAt).settled events).Perm
      ((submissions (trace settings checkpoints openedAt startedAt events)).map Batch.id) := by
  have hperm := settled_perm settings checkpoints openedAt startedAt events
  rw [Pipeline.id_requests, (Pipeline.isDrained_iff.1 hidle.2).2, List.map_nil,
    List.append_nil] at hperm
  exact hperm

end Opened

/-! ### A close -/

/-- **A close drains, cleans up last and strands nobody.**

A running loop takes in a close, and anything may have happened before and may happen later.
Writes are then refused and change nothing.  The loop runs on only while it is neither idle nor
halted, and it ends because it is, or because the close is abandoned.  When it is idle or halted, no
flush waits, and every flush that a running loop was asked for has been told how the work ended,
unless its caller gave up.  Who closed is told that it is done exactly if the loop is idle, and the
failure exactly if it halted, right after the connection was released, which happens once, and from
then on callers are only turned away.
When the loop is idle, everything that was restored or written is acknowledged, no request is
under way, and every batch that was submitted is settled.

The close is abandoned when nobody is left to ask while the loop still runs, neither idle nor
halted.  Then, and only then, it is answered with success although the loop is not idle. -/
theorem close_drains (settings : Settings) (checkpoints : List Checkpoint)
    (openedAt startedAt : Time) (events later : List (Moment × Event)) (m : Moment) (c : CallId)
    (hrun : ((opened settings checkpoints openedAt startedAt).run events).1.phase = .running)
    (hopen : ((opened settings checkpoints openedAt startedAt).run events).1.closing = none) :
    let first := opened settings checkpoints openedAt startedAt
    let closed := (first.run (events ++ [(m, .request c .close)])).1
    let all := events ++ (m, .request c .close) :: later
    let l := (first.run all).1
    let effects := trace settings checkpoints openedAt startedAt all
    let moves := allMoves settings checkpoints openedAt startedAt all
    let j := journal settings checkpoints openedAt startedAt all
    (∀ m' call o,
      l.react m' (.request call (.write o)) = (l, [.answer call (.failed .closed)]) ∧
      (l.phase ≠ .running →
        l.step m' (.request call (.write o)) = (l, [.answer call (.failed .closed)]))) ∧
    ((l.phase = .running → ¬l.Idle ∧ l.pipeline.halt = none) ∧
      (l.phase = .ended → l.Idle ∨ l.pipeline.halt.isSome ∨ closed.Abandoned later)) ∧
    (l.Idle ∨ l.pipeline.halt.isSome → l.flushes = [] ∧
      ∀ before m' call rest, all = before ++ (m', .request call .flush) :: rest →
        (first.run before).1.phase = .running → call ∉ l.departed →
        ToldEnd ((first.run before).1.run ((m', .request call .flush) :: rest)).2 call) ∧
    ((¬closed.Abandoned later → (Closes effects c .done ↔ l.Idle)) ∧
      (closed.Abandoned later →
        (¬l.Idle ∧ l.pipeline.halt = none) ∧ Closes effects c .done) ∧
      ∀ halt, Closes effects c (.failed (.halted halt)) ↔ l.pipeline.halt = some halt) ∧
    (l.Idle →
      (j.Faithful ∧ j.pipeline = l.pipeline ∧ j.arrivals.map Entry.operation =
        checkpoints.flatMap Checkpoint.operations ++ first.written all) ∧
      (j.acknowledged.Perm j.arrivals.zipIdx ∧
        ∀ x ∈ j.acknowledged, ∃ earlier resolve rest, moves = earlier ++ resolve :: rest ∧
          ((Journal.opening settings checkpoints openedAt).run earlier).Acknowledges resolve x) ∧
      (l.submitted = [] ∧ l.inbox = []) ∧
      (first.settled all).Perm ((submissions effects).map Batch.id)) := by
  intro first closed all l effects moves j
  obtain ⟨hclosing, hcourse⟩ : l.closing = some c ∧ Course c l effects :=
    course_run settings checkpoints openedAt startedAt events m later hrun hopen
  have habandoned : closed.Abandoned later ↔ l.phase = .ended ∧ l.completion? = none :=
    abandoned_iff settings checkpoints openedAt startedAt events m later hrun hopen
  have hdone : Closes effects c .done ↔ l.Idle ∨ closed.Abandoned later := by
    rw [hcourse.closes_iff, completion?_eq_done_iff, habandoned]
    simp
  have htell : l.completion?.isSome ↔ l.Idle ∨ l.pipeline.halt.isSome := by
    rw [completion?_isSome_iff, Idle]
    cases l.pipeline.halt <;> simp
  refine ⟨?_, ⟨?_, ?_⟩, ?_, ⟨?_, ?_, ?_⟩, ?_⟩
  · intro m' call o
    constructor
    · rw [react, handle, hclosing]
      rfl
    · intro hnot
      rw [step, if_neg hnot]
  · intro hruns
    exact completion?_eq_none_iff.1 (hcourse.of_running hruns).1
  · intro hended
    rw [← or_assoc, ← htell, habandoned]
    cases hcompletion : l.completion? with
    | none => exact .inr ⟨hended, rfl⟩
    | some a => exact .inl rfl
  · intro hend
    obtain ⟨a, ha⟩ := Option.isSome_iff_exists.1 (htell.2 hend)
    have hnobody : l.flushes = [] := (hcourse.of_completion? ha).1
    refine ⟨hnobody, ?_⟩
    intro before m' call rest hall hbefore hstays
    have hremembers := remembers_run hbefore m' call rest
    rw [← run_append, ← hall] at hremembers
    rcases hremembers with hdeparted | hwaits | htold
    · exact absurd hdeparted hstays
    · rw [hnobody] at hwaits
      cases hwaits
    · exact htold
  · intro hkept
    rw [hdone, or_iff_left hkept]
  · intro hleft
    exact ⟨completion?_eq_none_iff.1 (habandoned.1 hleft).2, hdone.2 (.inr hleft)⟩
  · intro halt
    rw [hcourse.closes_iff, completion?_eq_halted_iff]
    simp
  · intro hidle
    refine ⟨⟨?_, ?_, ?_⟩, ?_, ?_, ?_⟩
    · exact faithful_journal settings checkpoints openedAt startedAt all
    · exact pipeline_journal settings checkpoints openedAt startedAt all
    · exact arrivals_journal settings checkpoints openedAt startedAt all
    · exact acknowledged_of_idle settings checkpoints openedAt startedAt all hidle
    · exact (hcourse.of_completion? (completion?_eq_done_iff.2 hidle)).2 rfl
    · exact settled_of_idle settings checkpoints openedAt startedAt all hidle

/-- A close is taken in while a flush waits.  A write is refused, the only batch is rejected, and
after the pause it is sent again and acknowledged. -/
theorem close_drains_after_rejection :
    let moment (now : Time) : Moment := { now, classify := elasticsearch.classify }
    let events := [
      (moment 0, .request 0 (.write (.delete "a"))), (moment 1, .request 1 .flush)]
    let later := [
      (moment 3, .request 3 (.write (.delete "b"))),
      (moment 4, .post 0 (.failed (.rejected "full"))), (moment 5, .take), (moment 15, .wake),
      (moment 16, .post 1 (.answered { items := [.success], took := ⟨5⟩ })), (moment 17, .take)]
    let first := opened .testing [] 0 0
    let all := events ++ (moment 2, .request 2 .close) :: later
    (first.run events).1.phase = .running ∧ (first.run events).1.closing = none ∧
      (first.run all).1.Idle ∧ Closes (trace .testing [] 0 0 all) 2 .done ∧
      ToldEnd ((first.run (events.take 1)).1.run (all.drop 1)).2 1 ∧
      (first.settled all).Perm ((submissions (trace .testing [] 0 0 all)).map Batch.id) := by
  intro moment events later
  dsimp only
  have hrun : ((opened .testing [] 0 0).run events).1.phase = .running := by decide +kernel
  have hopen : ((opened .testing [] 0 0).run events).1.closing = none := by decide +kernel
  have hidle : ((opened .testing [] 0 0).run
      (events ++ (moment 2, .request 2 .close) :: later)).1.Idle := by decide +kernel
  obtain ⟨-, -, hflushes, ⟨hdone, habandoned, -⟩, hend⟩ :=
    close_drains .testing [] 0 0 events later (moment 2) 2 hrun hopen
  have hkept := fun hleft => (habandoned hleft).1.1 hidle
  refine ⟨hrun, hopen, hidle, (hdone hkept).2 hidle, ?_, (hend hidle).2.2.2⟩
  exact (hflushes (.inl hidle)).2 (events.take 1) (moment 1) 1 _ rfl (by decide +kernel)
    (by decide +kernel)

/-- A close that is abandoned at once is answered with success while a batch is under way. -/
example :
    let moment (now : Time) : Moment := { now, classify := elasticsearch.classify }
    let closed := ((opened .testing [] 0 0).run [
      (moment 0, .request 0 (.write (.delete "a"))), (moment 1, .request 1 .close)]).1
    closed.submitted.length = 1 ∧ closed.phase = .running ∧
      (closed.step (moment 2) .release).2 = [.cleanup, .answer 1 .done] ∧
      ¬(closed.step (moment 2) .release).1.Idle := by
  decide +kernel

end EventLoop

end BulkDelivery
