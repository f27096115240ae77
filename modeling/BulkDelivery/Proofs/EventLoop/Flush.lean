import BulkDelivery.Proofs.EventLoop.Journal
import BulkDelivery.Proofs.Pipeline.Recovery
import Mathlib.Data.List.Induction

/-!
# Flushes

A caller who flushes waits, and is answered by some later turn.  In between, anything may happen:
further writes, outcomes in any order, pauses.  What counts is the pipeline that the answering turn
leaves behind, and that nothing but a write can fill it again.

## Main definitions

* `Event.isWrite` — whether an event asks for an operation to be admitted.
* `EventLoop.callers` — the calls that wait for an answer.
* `EventLoop.OnlyFlushes` — a call asks for nothing but a flush.

## Main results

* `EventLoop.answer_mem_step` — whoever is told something has just asked, or has waited.
* `EventLoop.idle_of_done` — **a flush is answered with success only by an idle loop.**
* `EventLoop.Idle.run` — until something is written an idle loop stays idle.
* `EventLoop.Idle.step_snapshot` — the checkpoint of an idle loop is empty.
-/

namespace BulkDelivery

/-- Whether an event asks for an operation to be admitted. -/
def Event.isWrite : Event → Bool
  | request _ (.write _) => true
  | _ => false

theorem Event.isWrite_eq_false {e : Event} (h : e.call? = none) : e.isWrite = false := by
  cases e with
  | request call command => cases h
  | _ => rfl

/-- A drained pipeline changes only when something is admitted. -/
theorem Pipeline.moves_of_drained {p : Pipeline} (h : p.isDrained) {ms : List Move}
    (hms : ∀ o now, .accept o now ∉ ms) : p.moves ms = p := by
  induction ms with
  | nil => rfl
  | cons m ms ih =>
    have hmove : p.move m = p := by
      cases m with
      | accept o now => exact absurd List.mem_cons_self (hms o now)
      | dispatch now force => simp [move, nextBatch_eq_none_of_drained h]
      | resolve id outcome now classify =>
        have hnone : p.inFlight.lookup id = none := by simp [(isDrained_iff.1 h).2]
        simp [move, resolve_eq_ignored (.inr hnone)]
    rw [moves_cons, hmove]
    exact ih fun o now hmem => hms o now (List.mem_cons_of_mem m hmem)

/-- When nothing is left and nothing was abandoned, every arrival is acknowledged. -/
theorem Journal.Faithful.acknowledged_perm {j : Journal} (h : j.Faithful)
    (hrun : j.pipeline.halt = none) (hdrained : j.pipeline.isDrained) :
    j.acknowledged.Perm j.arrivals.zipIdx := by
  obtain ⟨hbuffer, hflight⟩ := Pipeline.isDrained_iff.1 hdrained
  have hwaiting : j.waiting = [] := by
    rw [← List.map_eq_nil_iff, h.waiting]
    exact hbuffer
  have hsent : j.sent = [] := by
    have hmap := h.sent
    rw [hflight] at hmap
    exact List.map_eq_nil_iff.1 hmap
  have hplaces := h.places
  rw [hwaiting, hsent, h.running hrun] at hplaces
  simpa using hplaces

namespace EventLoop

/-- The calls that wait for an answer. -/
def callers (l : EventLoop) : List CallId :=
  l.flushes ++ l.closing.toList

/-- A call asks for nothing but a flush. -/
def OnlyFlushes (events : List (Moment × Event)) (call : CallId) : Prop :=
  ∀ m command, (m, .request call command) ∈ events → command = .flush

variable {l : EventLoop} {now : Time} {m : Moment} {e : Event} {call id : CallId} {a : Answer}

theorem mem_callers : call ∈ l.callers ↔ call ∈ l.flushes ∨ l.closing = some call := by
  simp [callers]

/-- A loop for which nobody waits is not closed. -/
theorem closing_of_callers (h : l.callers = []) : l.closing = none := by
  simpa using (List.append_eq_nil_iff.1 h).2

/-! ### Who is told what -/

@[simp] theorem callers_receive (l : EventLoop) (id : BatchId) (outcome : Outcome) :
    (l.receive id outcome).callers = l.callers := by
  unfold receive
  split
  · split <;> rfl
  · rfl

theorem callers_dropDeparted (h : call ∈ l.dropDeparted.callers) : call ∈ l.callers := by
  rw [mem_callers] at h ⊢
  exact h.imp_left fun hmem => List.mem_of_mem_filter hmem

/-- Nobody begins to wait at a turn. -/
theorem callers_turn (h : call ∈ (l.turn now).1.callers) : call ∈ l.callers := by
  apply callers_dropDeparted
  rw [mem_callers, flushes_turn, closing_turn] at h
  rw [mem_callers]
  refine h.imp_left fun hmem => ?_
  split at hmem
  · exact absurd hmem List.not_mem_nil
  · exact hmem

/-- Only a call that closes the loop becomes the one that closed it. -/
theorem closing_handle {command : Command} (h : (l.handle now id command).1.closing = some call) :
    (call = id ∧ command = .close) ∨ l.closing = some call := by
  rw [handle_eq] at h
  cases command with
  | close =>
    cases hclosing : l.closing with
    | none =>
      simp only [hclosing, if_true, Option.none_or, Option.some.injEq] at h
      exact .inl ⟨h.symm, rfl⟩
    | some c => exact .inr (by simpa [hclosing] using h)
  | _ => exact .inr h

/-- Only the caller who asks begins to wait. -/
theorem callers_handle {command : Command} (h : call ∈ (l.handle now id command).1.callers) :
    call = id ∨ call ∈ l.callers := by
  rw [mem_callers] at h ⊢
  rcases h with hflush | hclosing
  · rw [handle_eq] at hflush
    cases command with
    | flush =>
      rcases List.mem_append.1 hflush with hold | hnew
      · exact .inr (.inl hold)
      · exact .inl (List.mem_singleton.1 hnew)
    | _ => exact .inr (.inl hflush)
  · rcases closing_handle hclosing with ⟨hid, -⟩ | hold
    · exact .inl hid
    · exact .inr (.inr hold)

/-- What a caller is told at once, a flush is not told. -/
theorem answer_mem_handle {command : Command}
    (h : .answer call a ∈ (l.handle now id command).2) :
    call = id ∧ command ≠ .flush ∧ (a = .done → ∃ o, command = .write o) := by
  cases command with
  | write o =>
    simp only [handle] at h
    split at h
    · simp_all
    · split at h <;> simp_all
  | flush => simp [handle] at h
  | snapshot =>
    simp only [handle] at h
    split at h <;> simp_all
  | stats => simp_all [handle]
  | close =>
    simp only [handle] at h
    split at h <;> simp_all

theorem completion?_of_answer_mem_turn (h : .answer call a ∈ (l.turn now).2) :
    (l.turn now).1.completion? = some a ∧ call ∈ l.callers := by
  obtain ⟨hcompletion, hcall⟩ := (l.answer_mem_turn_iff now).1 h
  exact ⟨hcompletion, callers_dropDeparted (mem_callers.2 hcall)⟩

/-- Before the loop turns, a caller is told something who asks just now. -/
theorem answer_mem_react (h : .answer call a ∈ (l.react m e).2) :
    ∃ command, e = .request call command ∧ .answer call a ∈ (l.handle m.now call command).2 := by
  cases e with
  | request id command =>
    obtain ⟨rfl, -⟩ := answer_mem_handle h
    exact ⟨command, rfl, h⟩
  | take =>
    rw [react] at h
    cases hinbox : l.inbox <;> simp [hinbox] at h
  | _ => cases h

/-- Only a call that closes the loop becomes the one that closed it. -/
theorem closing_of_react (h : (l.react m e).1.closing = some call) :
    e = .request call .close ∨ l.closing = some call := by
  cases e with
  | request id command =>
    rcases closing_handle h with ⟨rfl, rfl⟩ | hold
    · exact .inl rfl
    · exact .inr hold
  | _ =>
    rw [(react_keeps rfl).2.2] at h
    exact .inr h

/-- Only the caller who asks begins to wait. -/
theorem callers_react (h : call ∈ (l.react m e).1.callers) :
    e.call? = some call ∨ call ∈ l.callers := by
  cases e with
  | request id command => exact (callers_handle h).imp_left fun hid => congrArg some hid.symm
  | _ =>
    rw [mem_callers, (react_keeps rfl).1, (react_keeps rfl).2.2] at h
    exact .inr (mem_callers.2 h)

/-- Whoever is told something has just asked, or has closed the loop that ends, or has waited for
the end of the work. -/
theorem answer_mem_step (h : .answer call a ∈ (l.step m e).2) :
    (∃ command, e = .request call command ∧
      (.answer call a ∈ (l.handle m.now call command).2 ∨ a = .failed .closed)) ∨
    (e = .release ∧ l.closing = some call ∧ a = l.lastWord) ∨
    ((l.step m e).1.completion? = some a ∧ (e.call? = some call ∨ call ∈ l.callers)) := by
  by_cases hturn : l.turnsOn e
  · rw [step_of_turnsOn hturn] at h ⊢
    -- either the event is answered at once, or the turn after it answers
    rcases List.mem_append.1 h with hnow | hlater
    · obtain ⟨command, rfl, hanswer⟩ := answer_mem_react hnow
      exact .inl ⟨command, rfl, .inl hanswer⟩
    · obtain ⟨hcompletion, hcall⟩ := completion?_of_answer_mem_turn hlater
      exact .inr (.inr ⟨hcompletion, callers_react hcall⟩)
  · rcases answer_without_turn hturn h with ⟨⟨command, rfl⟩, hclosed⟩ | hleave
    · exact .inl ⟨command, rfl, .inr hclosed⟩
    · exact .inr (.inl hleave)

/-- Only the caller who asks begins to wait. -/
theorem callers_step (h : call ∈ (l.step m e).1.callers) :
    e.call? = some call ∨ call ∈ l.callers := by
  by_cases hturn : l.turnsOn e
  · rw [step_of_turnsOn hturn] at h
    exact callers_react (callers_turn h)
  · have hkeeps := keeps_step (m := m) hturn
    rw [mem_callers, hkeeps.flushes, hkeeps.closing] at h
    exact .inr (mem_callers.2 h)

/-- Only a call that closes the loop becomes the one that closed it. -/
theorem closing_of_step (h : (l.step m e).1.closing = some call) :
    e = .request call .close ∨ l.closing = some call := by
  by_cases hturn : l.turnsOn e
  · rw [step_of_turnsOn hturn, andTurn, closing_turn] at h
    exact closing_of_react h
  · rw [(keeps_step hturn).closing] at h
    exact .inr h

/-- Nobody waits for a loop that has just been opened. -/
theorem callers_opened (settings : Settings) (checkpoints : List Checkpoint)
    (openedAt startedAt : Time) :
    (opened settings checkpoints openedAt startedAt).callers = [] := by
  rw [List.eq_nil_iff_forall_not_mem]
  intro id hid
  exact absurd (callers_turn hid) List.not_mem_nil

theorem call_of_answer_mem_step (h : .answer call a ∈ (l.step m e).2) :
    e.call? = some call ∨ call ∈ l.callers := by
  rcases answer_mem_step h with ⟨command, rfl, -⟩ | ⟨-, hclosing, -⟩ | ⟨-, hcall⟩
  · exact .inl rfl
  · exact .inr (mem_callers.2 (.inr hclosing))
  · exact hcall

/-- What a caller is told who did not ask just now, or who asked for a flush, and who did not close
the loop. -/
theorem answer_of_flush (hcall : ∀ command, e = .request call command → command = .flush)
    (hclosing : l.closing ≠ some call) (h : .answer call a ∈ (l.step m e).2) :
    (a = .done ∧ (l.step m e).1.Idle) ∨ ∃ error, a = .failed error := by
  rcases answer_mem_step h with ⟨command, rfl, hnow | hclosed⟩ | ⟨-, hleave, -⟩ | ⟨hcompletion, -⟩
  · exact absurd (hcall command rfl) (answer_mem_handle hnow).2.1
  · exact .inr ⟨_, hclosed⟩
  · exact absurd hleave hclosing
  · rcases completion?_eq_some hcompletion with rfl | ⟨halt, rfl⟩
    · exact .inl ⟨rfl, completion?_eq_done_iff.1 hcompletion⟩
    · exact .inr ⟨_, rfl⟩

section Runs

variable {first : EventLoop} {events : List (Moment × Event)}

/-- A call that closed a loop asked for it. -/
theorem mem_of_closing_run (hopen : first.closing = none)
    (h : (first.run events).1.closing = some call) : ∃ m, (m, .request call .close) ∈ events := by
  induction events using List.reverseRecOn with
  | nil => cases hopen.symm.trans h
  | append_singleton events x ih =>
    obtain ⟨m, e⟩ := x
    rw [run_concat] at h
    rcases closing_of_step h with rfl | hold
    · exact ⟨m, List.mem_append_right _ List.mem_cons_self⟩
    · obtain ⟨m', hm'⟩ := ih hold
      exact ⟨m', List.mem_append_left _ hm'⟩

/-- **A flush is answered with success only by an idle loop.** -/
theorem idle_of_done (hfirst : first.callers = []) (hflush : OnlyFlushes (events ++ [(m, e)]) call)
    (h : .answer call .done ∈ ((first.run events).1.step m e).2) :
    ((first.run events).1.step m e).1.Idle := by
  have hcommand : ∀ command, e = .request call command → command = .flush := by
    rintro command rfl
    exact hflush m command (List.mem_append_right _ List.mem_cons_self)
  have hclosing : (first.run events).1.closing ≠ some call := by
    intro hcloses
    obtain ⟨m', hm'⟩ := mem_of_closing_run (closing_of_callers hfirst) hcloses
    cases hflush m' .close (List.mem_append_left _ hm')
  rcases answer_of_flush hcommand hclosing h with ⟨-, hidle⟩ | ⟨error, herror⟩
  · exact hidle
  · cases herror

end Runs

/-! ### An idle loop -/

theorem accept_notMem_movesOf (he : e.isWrite = false) (o : Operation) (t : Time) :
    .accept o t ∉ l.movesOf m e := by
  unfold movesOf
  split
  · cases e with
    | request id command =>
      cases command with
      | write o => cases he
      | _ => simp [requestMoves, turnMoves]
    | take => cases l.inbox <;> simp [turnMoves]
    | wake => simp [turnMoves]
    | _ => simp
  · simp

/-- Only a write changes the pipeline of an idle loop. -/
theorem pipeline_step_of_idle (h : l.Idle) (he : e.isWrite = false) :
    (l.step m e).1.pipeline = l.pipeline := by
  rw [pipeline_step]
  exact Pipeline.moves_of_drained h.2 fun o t => accept_notMem_movesOf he o t

theorem Idle.step (h : l.Idle) (he : e.isWrite = false) : (l.step m e).1.Idle := by
  rw [Idle, pipeline_step_of_idle h he]
  exact h

/-- Until something is written an idle loop stays idle. -/
theorem Idle.run (h : l.Idle) {events : List (Moment × Event)}
    (hevents : ∀ x ∈ events, x.2.isWrite = false) : (l.run events).1.Idle := by
  induction events generalizing l with
  | nil => exact h
  | cons x rest ih =>
    obtain ⟨hx, hrest⟩ := List.forall_mem_cons.1 hevents
    exact ih (h.step hx) hrest

/-- An idle loop has nothing to put into a checkpoint. -/
theorem Idle.snapshot (h : l.Idle) : l.pipeline.snapshot = .ok { operations := [] } := by
  obtain ⟨hrun, hdrained⟩ := h
  obtain ⟨hbuffer, hflight⟩ := Pipeline.isDrained_iff.1 hdrained
  simp [Pipeline.snapshot, hrun, Pipeline.pending, hflight, Buffer.operations, hbuffer]

/-- The checkpoint of an idle loop is empty, and nothing comes before it. -/
theorem Idle.step_snapshot (h : l.Idle) :
    (l.step m (.request call .snapshot)).2 =
      if l.phase = .running then
        .answer call (.checkpoint { operations := [] }) :: (l.turn m.now).2
      else [.answer call (.failed .closed)] := by
  by_cases hrun : l.phase = .running
  · simp [EventLoop.step, hrun, andTurn, handle, h.snapshot]
  · simp [EventLoop.step, hrun]

end EventLoop

end BulkDelivery
