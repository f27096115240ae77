import BulkDelivery.Proofs.EventLoop.Wakeup

/-!
# How a loop ends

A loop ends at a turn that has something to tell to the caller who closed it, or when nobody is
left to ask, or it is stopped from outside.  Until then it has not released the connection.  After
that it keeps what it has and turns callers away: a request that is still under way comes back,
but nobody takes its outcome.

## Main definitions

* `EventLoop.Abandoned` — nobody was left to ask while the loop still ran.

## Main results

* `EventLoop.cleanup_notMem_step` — a loop that runs has not released the connection.
* `EventLoop.told_or_abandoned_run` — **a loop ends when there is something to tell, or because
  nobody is left to ask.**
* `EventLoop.Abandoned.ended` — a loop that was abandoned has ended, with the work it had then.
-/

namespace BulkDelivery

namespace EventLoop

variable {l : EventLoop} {m : Moment} {e : Event} {call c : CallId} {now : Time}

/-! ### Dealing with an event -/

theorem closing_react (h : l.closing = some c) : (l.react m e).1.closing = some c := by
  cases e with
  | request call command =>
    rw [react, handle_eq]
    show (if command = .close then l.closing.or (some call) else l.closing) = some c
    rw [h]
    split <;> rfl
  | _ => rw [(react_keeps rfl).2.2, h]

theorem phase_react : (l.react m e).1.phase = l.phase := by
  cases e with
  | request call command => rw [react, handle_eq]
  | take =>
    rw [react]
    cases l.inbox <;> rfl
  | _ => rfl

theorem departed_react : (l.react m e).1.departed = l.departed := by
  cases e with
  | request call command => rw [react, handle_eq]
  | _ => exact (react_keeps rfl).2.1

theorem mem_flushes_react (h : call ∈ l.flushes) : call ∈ (l.react m e).1.flushes := by
  cases e with
  | request id command =>
    rw [react, handle_eq]
    show call ∈ if command = .flush then l.flushes ++ [id] else l.flushes
    split
    · exact List.mem_append_left _ h
    · exact h
  | _ => rw [(react_keeps rfl).1]; exact h

theorem cleanup_notMem_react : .cleanup ∉ (l.react m e).2 := by
  cases e with
  | request call command =>
    intro hmem
    obtain ⟨a, ha⟩ := answer_of_mem_handle hmem
    cases ha
  | take =>
    rw [react]
    cases l.inbox <;> simp
  | _ => simp [react]

/-- A loop that was closed stays closed. -/
theorem closing_step (h : l.closing = some c) : (l.step m e).1.closing = some c := by
  by_cases hturn : l.turnsOn e
  · rw [step_of_turnsOn hturn, andTurn, closing_turn]
    exact closing_react h
  · rw [(keeps_step hturn).closing, h]

theorem departed_turn (l : EventLoop) (now : Time) : (l.turn now).1.departed = l.departed := by
  rw [turn_eq]
  rfl

theorem departed_step (h : call ∈ l.departed) : call ∈ (l.step m e).1.departed := by
  by_cases hturn : l.turnsOn e
  · rw [step_of_turnsOn hturn, andTurn, departed_turn, departed_react]
    exact h
  · exact (keeps_step hturn).departed h

/-! ### Releasing the connection -/

/-- A turn submits and answers flushes, and then it ends the loop if that is due. -/
theorem exists_turn_eq (l : EventLoop) (now : Time) : ∃ front, .cleanup ∉ front ∧
    (l.turn now).2 = front ++ ((l.turn now).1.completion?.elim [] fun a =>
      l.closing.elim [] fun c => [.cleanup, .answer c a]) := by
  refine ⟨(l.dropDeparted.dispatch now).2 ++ ((l.sent now).completion?.elim [] fun a =>
    l.dropDeparted.flushes.map (.answer · a)), ?_, ?_⟩
  · cases (l.sent now).completion? <;> simp [dispatch]
  · rw [completion?_turn, turn_eq]

/-- A turn that releases the connection is the last one. -/
theorem cleanup_notMem_turn (h : (l.turn now).1.phase = .running) :
    .cleanup ∉ (l.turn now).2 := by
  obtain ⟨front, hfront, heq⟩ := l.exists_turn_eq now
  rw [heq, List.mem_append, not_or]
  refine ⟨hfront, ?_⟩
  cases hcompletion : (l.turn now).1.completion? with
  | none => simp
  | some a =>
    have hopen := (callers_of_completion? h (by rw [hcompletion]; rfl)).2
    rw [closing_turn] at hopen
    simp [hopen]

theorem cleanup_notMem_step (h : (l.step m e).1.phase = .running) :
    .cleanup ∉ (l.step m e).2 := by
  have hrun := phase_of_step h
  by_cases hturn : l.turnsOn e
  · rw [step_of_turnsOn hturn, andTurn] at h ⊢
    rw [List.mem_append, not_or]
    exact ⟨cleanup_notMem_react, cleanup_notMem_turn h⟩
  · rcases step_without_turn (m := m) hrun hturn with ⟨-, hnothing⟩ | ⟨-, hleave⟩ | ⟨hstopped, -⟩
    · rw [hnothing]
      exact List.not_mem_nil
    · rw [hleave] at h
      cases h
    · cases h.symm.trans hstopped

/-- A loop ends when there is something to tell, or because nobody is left to ask. -/
theorem told_or_released (hrun : l.phase = .running) (hended : (l.step m e).1.phase = .ended) :
    (l.step m e).1.completion?.isSome ∨ e = .release := by
  by_cases hturn : l.turnsOn e
  · left
    rw [step_of_turnsOn hturn, andTurn] at hended ⊢
    by_contra hsilent
    rw [phase_turn, if_neg (fun htell => hsilent htell.2), phase_react, hrun] at hended
    cases hended
  · rcases step_without_turn hrun hturn with ⟨hruns, -⟩ | ⟨hrelease, -⟩ | ⟨hstopped, -⟩
    · cases hended.symm.trans hruns
    · exact .inr hrelease
    · cases hended.symm.trans hstopped

/-! ### Abandoned work -/

/-- Nobody was left to ask while the loop still ran, so it ended with whatever was still to do. -/
def Abandoned (l : EventLoop) (events : List (Moment × Event)) : Prop :=
  ∃ before m after, events = before ++ (m, .release) :: after ∧ (l.run before).1.phase = .running

theorem Abandoned.append {events : List (Moment × Event)} (h : l.Abandoned events)
    (later : List (Moment × Event)) : l.Abandoned (events ++ later) := by
  obtain ⟨before, m, after, rfl, hrun⟩ := h
  exact ⟨before, m, after ++ later, by simp, hrun⟩

/-- A loop that no longer runs stays as it is. -/
theorem rests_run (h : l.phase ≠ .running) (events : List (Moment × Event)) :
    (l.run events).1.phase = l.phase ∧ (l.run events).1.pipeline = l.pipeline := by
  induction events generalizing l with
  | nil => exact ⟨rfl, rfl⟩
  | cons x rest ih =>
    obtain ⟨m, e⟩ := x
    obtain ⟨hrests, -⟩ := rests_step (m := m) (e := e) h
    obtain ⟨hphase, hpipeline⟩ := ih (hrests.phase ▸ h)
    exact ⟨hphase.trans hrests.phase, hpipeline.trans hrests.pipeline⟩

/-- A loop that was abandoned has ended, with the work it had when it still ran. -/
theorem Abandoned.ended {events : List (Moment × Event)} (h : l.Abandoned events) :
    (l.run events).1.phase = .ended ∧ ∃ before, before <+: events ∧
      (l.run before).1.phase = .running ∧
      (l.run events).1.pipeline = (l.run before).1.pipeline := by
  obtain ⟨before, m, after, rfl, hrun⟩ := h
  have hrest : (l.run (before ++ (m, .release) :: after)).1 =
      ((l.run before).1.leave.1.run after).1 := by
    have hleave : (l.run before).1.step m .release = (l.run before).1.leave := by
      rw [step, if_pos hrun]
    rw [run_append, ← hleave]
    rfl
  obtain ⟨hphase, hpipeline⟩ :=
    rests_run (l := (l.run before).1.leave.1) (show Phase.ended ≠ .running by decide) after
  rw [hrest]
  exact ⟨hphase, before, List.prefix_append _ _, hrun, hpipeline⟩

/-- **A loop ends when there is something to tell, or because nobody is left to ask.** -/
theorem told_or_abandoned_run (hrun : l.phase = .running) (events : List (Moment × Event))
    (hended : (l.run events).1.phase = .ended) :
    (l.run events).1.completion?.isSome ∨ l.Abandoned events := by
  induction events using List.reverseRecOn with
  | nil => cases hrun.symm.trans hended
  | append_singleton events x ih =>
    obtain ⟨m, e⟩ := x
    rw [run_concat] at hended ⊢
    by_cases hlast : (l.run events).1.phase = .running
    · refine (told_or_released hlast hended).imp_right ?_
      rintro rfl
      exact ⟨events, m, [], rfl, hlast⟩
    · -- it ended before, and nothing has changed since
      obtain ⟨hrests, -⟩ := rests_step (m := m) (e := e) hlast
      rw [completion?_congr hrests.pipeline]
      exact (ih (hrests.phase.symm.trans hended)).imp_right fun habandoned => habandoned.append _

end EventLoop

end BulkDelivery
