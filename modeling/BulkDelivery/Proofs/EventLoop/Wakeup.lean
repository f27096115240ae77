import BulkDelivery.Proofs.EventLoop.Flight
import BulkDelivery.Proofs.EventLoop.Flush
import BulkDelivery.Proofs.Pipeline.Deadline

/-!
# Falling asleep

Between two events the loop sleeps, and only a request, an outcome or a deadline wakes it.  A turn
sends until nothing is due, and what keeps the next batch back then is a pause that will end, an
operation that will grow old, or a batch whose outcome is still to come.  So the loop never waits
for something that cannot happen, and nobody waits for a loop that has nothing more to tell.

## Main definitions

* `EventLoop.Wakeable` — something will wake a loop that falls asleep.
* `EventLoop.Awaits` — a call waits for the end of the work.

## Main results

* `EventLoop.wakeable_turn` — a turn that does not end the loop leaves it like this.
* `EventLoop.told_step` — whoever waits is told, or there is nothing to tell yet.
* `EventLoop.wakeable_after_turn` — **no run falls asleep with nothing that can wake it.**
-/

namespace BulkDelivery

namespace EventLoop

/-! ### One turn -/

/-- Something will wake a loop that falls asleep at some time. -/
structure Wakeable (l : EventLoop) (now : Time) : Prop where
  /-- When there is something to tell, everybody has been told. -/
  nobody : l.pipeline.halt.isSome ∨ l.pipeline.isDrained → l.flushes = [] ∧ l.closing = none
  /-- While an operation could be sent, a deadline lies ahead. -/
  deadline : l.pipeline.halt = none → l.pipeline.buffer.isEmpty = false →
    l.pipeline.hasFreeSlot → ∃ d, l.pipeline.nextDeadline now = some d ∧ now < d
  /-- Otherwise an outcome is still to come. -/
  outcome : l.pipeline.halt = none → ¬l.pipeline.isDrained →
    ¬(l.pipeline.buffer.isEmpty = false ∧ l.pipeline.hasFreeSlot) → l.pipeline.inFlight ≠ []

/-- A call waits for the end of the work when the loop has dealt with an event: it waited before
and its caller did not give up, or the event brings it. -/
def Awaits (l : EventLoop) (e : Event) (call : CallId) : Prop :=
  ((call ∈ l.flushes ∨ e = .request call .flush) ∧ call ∉ l.departed) ∨
    l.closing = some call ∨ (l.closing = none ∧ e = .request call .close)

variable {l : EventLoop} {m : Moment} {e : Event} {call : CallId} {now : Time}

theorem completion?_isSome_iff :
    l.completion?.isSome ↔ l.pipeline.halt.isSome ∨ l.pipeline.isDrained := by
  rw [completion?]
  cases l.pipeline.halt with
  | some halt => simp
  | none => simp

/-- A loop that runs after a turn and has something to tell has told everybody. -/
theorem callers_of_completion? (hrun : (l.turn now).1.phase = .running)
    (htell : (l.turn now).1.completion?.isSome) :
    (l.turn now).1.flushes = [] ∧ (l.turn now).1.closing = none := by
  constructor
  · rw [flushes_turn, if_pos htell]
  · rw [closing_turn]
    cases hclosing : l.closing with
    | none => rfl
    | some call =>
      -- the turn would have ended the loop
      rw [phase_turn, hclosing, if_pos ⟨rfl, htell⟩] at hrun
      cases hrun

theorem wakeable_turn (hslots : 0 < l.pipeline.settings.maxInFlight)
    (hrun : (l.turn now).1.phase = .running) : (l.turn now).1.Wakeable now := by
  have hnone : (l.turn now).1.pipeline.nextBatch now l.dropDeparted.isForced = none := by
    rw [pipeline_turn]
    exact Pipeline.nextBatch_dispatchAll
  have hlimits : (l.turn now).1.pipeline.settings = l.pipeline.settings := by
    rw [pipeline_turn_eq_moves, Pipeline.settings_moves]
  constructor
  · intro htell
    exact callers_of_completion? hrun (completion?_isSome_iff.2 htell)
  · intro hhalt hwaits hfree
    exact Pipeline.nextDeadline_of_nextBatch_eq_none hnone hhalt hwaits hfree
  · intro hhalt hleft hblocked hflight
    -- with nothing in flight every slot is free, and what is left can only wait
    refine hblocked ⟨?_, ?_⟩
    · rw [Pipeline.isDrained, hflight] at hleft
      simpa using hleft
    · rw [Pipeline.hasFreeSlot_iff, hflight, hlimits]
      exact hslots

/-- Whoever waits at a turn is told, or there is nothing to tell yet. -/
theorem told_turn (h : call ∈ l.dropDeparted.flushes ∨ l.closing = some call) :
    (∃ a, .answer call a ∈ (l.turn now).2) ∨
      ((l.turn now).1.completion? = none ∧ call ∈ (l.turn now).1.callers) := by
  cases hcompletion : (l.turn now).1.completion? with
  | some a => exact .inl ⟨a, (l.answer_mem_turn_iff now).2 ⟨hcompletion, h⟩⟩
  | none =>
    refine .inr ⟨rfl, ?_⟩
    rw [mem_callers, flushes_turn, closing_turn, hcompletion]
    exact h

/-! ### One event -/

theorem settings_react : (l.react m e).1.pipeline.settings = l.pipeline.settings := by
  cases e with
  | request call command =>
    rw [react, pipeline_handle, Pipeline.settings_moves]
  | take =>
    rw [react]
    cases l.inbox with
    | nil => rfl
    | cons posted inbox => exact Pipeline.resolve_keeps.1
  | _ => rfl

/-- Nobody who waits is forgotten before the loop turns. -/
theorem Awaits.react (h : l.Awaits e call) :
    call ∈ (l.react m e).1.dropDeparted.flushes ∨ (l.react m e).1.closing = some call := by
  have hmem : ∀ l' : EventLoop, call ∈ l'.dropDeparted.flushes ↔
      call ∈ l'.flushes ∧ call ∉ l'.departed := by
    intro l'
    simp [dropDeparted]
  rw [hmem]
  by_cases he : e.call? = none
  · obtain ⟨hflushes, hdeparted, hclosing⟩ := react_keeps (l := l) (m := m) he
    have hnot : ∀ command, e ≠ .request call command := by
      rintro command rfl
      cases he
    rw [hflushes, hdeparted, hclosing]
    simpa [Awaits, hnot] using h
  cases e with
  | request id command =>
    rw [EventLoop.react, handle_eq]
    rcases h with ⟨hflush, hstays⟩ | hclosing | ⟨hopen, hclose⟩
    · refine .inl ⟨?_, hstays⟩
      rcases hflush with hwaited | hnow
      · show call ∈ if command = .flush then l.flushes ++ [id] else l.flushes
        split
        · exact List.mem_append_left _ hwaited
        · exact hwaited
      · obtain ⟨rfl, rfl⟩ := Event.request.inj hnow
        exact List.mem_append_right _ List.mem_cons_self
    · right
      show (if command = .close then l.closing.or (some id) else l.closing) = some call
      rw [hclosing]
      split <;> rfl
    · obtain ⟨rfl, rfl⟩ := Event.request.inj hclose
      right
      show l.closing.or (some id) = some id
      rw [hopen]
      rfl
  | _ => exact absurd rfl he

/-- Whoever waits is told after the event, or there is nothing to tell yet. -/
theorem told_step (hturn : l.turnsOn e) (h : l.Awaits e call) :
    (∃ a, .answer call a ∈ (l.step m e).2) ∨
      ((l.step m e).1.completion? = none ∧ call ∈ (l.step m e).1.callers) := by
  rw [step_of_turnsOn hturn]
  refine (told_turn h.react).imp_left ?_
  rintro ⟨a, ha⟩
  exact ⟨a, List.mem_append_right _ ha⟩

/-! ### Runs -/

theorem settings_opened_run (settings : Settings) (checkpoints : List Checkpoint)
    (openedAt startedAt : Time) (events : List (Moment × Event)) :
    ((opened settings checkpoints openedAt startedAt).run events).1.pipeline.settings
      = settings := by
  rw [pipeline_run, Pipeline.settings_moves, pipeline_opened, Pipeline.settings_moves]
  rfl

/-- **No run falls asleep with nothing that can wake it.**

The loop falls asleep after its first turn and after every event that makes it turn, unless it
ends.  If it halted or is drained then, nobody waits to be told; if an operation could be sent, a
deadline lies ahead; and otherwise a batch is in flight.  Before a halt, each batch in flight has
its request under way or its outcome posted.  Nobody is forgotten: whoever awaits the end of the
work has been told, or there is nothing to tell and the caller still waits.  None of this depends
on whether sending is forced or paused. -/
theorem wakeable_after_turn (settings : Settings) (hvalid : settings.validate = .ok ())
    (checkpoints : List Checkpoint) (openedAt startedAt : Time)
    (events : List (Moment × Event)) :
    let first := opened settings checkpoints openedAt startedAt
    let l := (first.run events).1
    (first.phase = .running ∧ first.Wakeable startedAt) ∧
    ∀ (m : Moment) (e : Event), l.turnsOn e →
      let l' := (l.step m e).1
      (l'.phase = .running → l'.Wakeable m.now) ∧
      (l'.phase = .running → l'.pipeline.halt = none → ∀ b ∈ l'.pipeline.inFlight,
        (∃ r ∈ l'.submitted, r.id = b.1) ∨ ∃ outcome, (b.1, outcome) ∈ l'.inbox) ∧
      ∀ call, l.Awaits e call →
        (∃ a, .answer call a ∈ (l.step m e).2) ∨ (l'.completion? = none ∧ call ∈ l'.callers) := by
  intro first l
  have hslots : 0 < settings.maxInFlight :=
    ((Settings.validate_eq_ok_iff settings).1 hvalid).maxInFlight_pos
  have hfirst : first.phase = .running := by
    show (turn _ startedAt).1.phase = .running
    rw [phase_turn]
    rfl
  refine ⟨⟨hfirst, wakeable_turn hslots hfirst⟩, ?_⟩
  intro m e hturn l'
  refine ⟨?_, ?_, fun call hawaits => told_step hturn hawaits⟩
  · intro hrun
    have hlimits : (l.react m e).1.pipeline.settings = settings := by
      rw [settings_react, settings_opened_run]
    have hl' : l' = ((l.react m e).1.turn m.now).1 := by
      show (l.step m e).1 = _
      rw [step_of_turnsOn hturn]
      rfl
    rw [hl'] at hrun ⊢
    exact wakeable_turn (hlimits ▸ hslots) hrun
  · intro hrun hhalt b hb
    have hconcat : l' = (first.run (events ++ [(m, e)])).1 := (run_concat first m e events).symm
    rw [hconcat] at hrun hhalt hb ⊢
    exact (attended_run settings checkpoints openedAt startedAt _ hrun hhalt).request_or_outcome hb

/-- A request fails while a flush is waited for: sending is forced and paused at once, and the
loop falls asleep until the pause is over. -/
theorem wakeable_in_forced_pause :
    let moment (now : Time) : Moment := { now, classify := elasticsearch.classify }
    let events := [
      (moment 0, .request 0 (.write (.delete "a"))), (moment 5, .request 1 .flush),
      (moment 6, .post 0 (.failed (.rejected "full")))]
    let l := ((opened .testing [] 0 0).run events).1
    let l' := (l.step (moment 7) .take).1
    Settings.testing.validate = .ok () ∧ l.turnsOn .take ∧ l'.phase = .running ∧
      (l'.isForced ∧ l'.pipeline.pausedUntil = some 17) ∧
      (∃ d, l'.pipeline.nextDeadline 7 = some d ∧ 7 < d) ∧ 1 ∈ l'.callers := by
  intro moment events
  dsimp only
  have hvalid : Settings.testing.validate = .ok () := by decide
  obtain ⟨-, hafter⟩ := wakeable_after_turn .testing hvalid [] 0 0 events
  obtain ⟨hsleep, -, hforgets⟩ := hafter (moment 7) .take (by decide +kernel)
  have hwakeable := hsleep (by decide +kernel)
  refine ⟨hvalid, by decide +kernel, by decide +kernel, by decide +kernel, ?_, ?_⟩
  · exact hwakeable.deadline (by decide +kernel) (by decide +kernel) (by decide +kernel)
  · -- nobody is told anything, so the flush still waits
    rcases hforgets 1 (.inl (by decide +kernel)) with ⟨a, ha⟩ | ⟨-, hcaller⟩
    · have hsilent : ∀ x : List Effect, x = [] → .answer 1 a ∉ x := by simp
      exact absurd ha (hsilent _ (by decide +kernel))
    · exact hcaller

end EventLoop

end BulkDelivery
