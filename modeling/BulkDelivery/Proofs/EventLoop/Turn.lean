import BulkDelivery.EventLoop
import Mathlib.Tactic.Common

/-!
# What a turn comes to

A turn sends what is due, and then there may be something to tell: that everything is
acknowledged, or that delivery has ended.  Everybody who waits is told at that very turn, so the
answer of a turn says something about the pipeline that the turn leaves behind.

An event that makes no turn leaves the work and the callers as they are.  It tells nobody anything,
unless the loop no longer runs and turns callers away, or nobody is left to ask and the loop ends.

## Main definitions

* `Event.call?` — the call that an event brings.
* `EventLoop.Idle` — nothing waits, nothing is in flight, and delivery has not ended.
* `EventLoop.turnsOn`, `EventLoop.react` — whether an event makes the loop turn, and what the loop
  does about it first.
* `EventLoop.Keeps` — what stays as it is when the loop does not turn.
* `EventLoop.Rests`, `EventLoop.OnlyRefuses` — what stays as it is when it no longer runs, and what
  it still does.

## Main results

* `EventLoop.completion?_eq_done_iff` — what `done` means.
* `EventLoop.answer_mem_turn_iff` — who is told what at a turn.
* `EventLoop.flushes_turn`, `EventLoop.phase_turn` — who waits after it, and whether the loop runs.
* `EventLoop.step_of_turnsOn` — an event is dealt with, and then the loop turns.
* `EventLoop.step_without_turn`, `EventLoop.keeps_step` — what an event does that makes no turn.
* `EventLoop.rests_step` — a loop that no longer runs rests.
-/

namespace BulkDelivery

/-- The call that an event brings. -/
def Event.call? : Event → Option CallId
  | request call _ => some call
  | _ => none

namespace EventLoop

/-- Nothing waits, nothing is in flight, and delivery has not ended. -/
def Idle (l : EventLoop) : Prop :=
  l.pipeline.halt = none ∧ l.pipeline.isDrained

instance (l : EventLoop) : Decidable l.Idle :=
  inferInstanceAs (Decidable (_ ∧ _))

theorem completion?_eq_done_iff {l : EventLoop} : l.completion? = some .done ↔ l.Idle := by
  unfold completion? Idle
  cases l.pipeline.halt with
  | some halt => simp
  | none => simp

/-- What there is to tell is what the caller who closed the loop is told. -/
theorem eq_lastWord {l : EventLoop} {a : Answer} (h : l.completion? = some a) :
    a = l.lastWord := by
  unfold completion? at h
  unfold lastWord
  cases hhalt : l.pipeline.halt with
  | some halt =>
    rw [hhalt] at h
    exact (Option.some.inj h).symm
  | none =>
    rw [hhalt] at h
    exact (Option.some.inj (Option.ite_none_right_eq_some.1 h).2).symm

/-- Callers who wait are told that it is done or that delivery has ended. -/
theorem completion?_eq_some {l : EventLoop} {a : Answer} (h : l.completion? = some a) :
    a = .done ∨ ∃ halt, a = .failed (.halted halt) := by
  rw [eq_lastWord h, lastWord]
  cases l.pipeline.halt with
  | none => exact .inl rfl
  | some halt => exact .inr ⟨halt, rfl⟩

theorem completion?_eq_halted_iff {l : EventLoop} {halt : Halt} :
    l.completion? = some (.failed (.halted halt)) ↔ l.pipeline.halt = some halt := by
  unfold completion?
  cases l.pipeline.halt with
  | some other => simp
  | none => simp

theorem completion?_eq_none_iff {l : EventLoop} :
    l.completion? = none ↔ ¬l.Idle ∧ l.pipeline.halt = none := by
  unfold completion? Idle
  cases l.pipeline.halt with
  | some halt => simp
  | none => simp

/-- A loop that has nothing to tell yet, and ends, says that it is done. -/
theorem lastWord_of_silent {l : EventLoop} (h : l.completion? = none) : l.lastWord = .done := by
  rw [lastWord, (completion?_eq_none_iff.1 h).2]

theorem answer_mem_leave_iff {l : EventLoop} {call : CallId} {a : Answer} :
    .answer call a ∈ l.leave.2 ↔ l.closing = some call ∧ a = l.lastWord := by
  simp [leave, eq_comm]

theorem completion?_congr {l l' : EventLoop} (h : l.pipeline = l'.pipeline) :
    l.completion? = l'.completion? := by
  rw [completion?, completion?, h]

theorem pipeline_receive (l : EventLoop) (id : BatchId) (outcome : Outcome) :
    (l.receive id outcome).pipeline = l.pipeline := by
  unfold receive
  split
  · split <;> rfl
  · rfl

theorem phase_receive (l : EventLoop) (id : BatchId) (outcome : Outcome) :
    (l.receive id outcome).phase = l.phase := by
  unfold receive
  split
  · split <;> rfl
  · rfl

/-! ### The parts of a turn -/

/-- The loop after a turn has sent what is due. -/
def sent (l : EventLoop) (now : Time) : EventLoop :=
  (l.dropDeparted.dispatch now).1

variable (l : EventLoop) (now : Time)

/-- Answering flushes only forgets them. -/
theorem answerFlushes_eq :
    l.answerFlushes =
      ({ l with flushes := if l.completion?.isSome then [] else l.flushes },
        l.completion?.elim [] fun a => l.flushes.map (.answer · a)) := by
  unfold answerFlushes
  cases l.completion? <;> simp

/-- Finishing only ends the loop. -/
theorem finish_eq :
    l.finish =
      ({ l with phase := if l.closing.isSome ∧ l.completion?.isSome then .ended else l.phase },
        l.completion?.elim [] fun a => l.closing.elim [] fun c => [.cleanup, .answer c a]) := by
  obtain ⟨pipeline, flushes, closing, phase, submitted, inbox, departed⟩ := l
  unfold finish leave
  cases closing with
  | none => cases completion? _ <;> simp
  | some c =>
    cases hcompletion : completion? _ with
    | none => simp
    | some a => simp [eq_lastWord hcompletion]

/-- A turn sends, answers flushes and finishes; only sending changes the pipeline. -/
theorem turn_eq :
    l.turn now =
      ({ l.sent now with
          flushes := if (l.sent now).completion?.isSome then [] else l.dropDeparted.flushes
          phase :=
            if l.closing.isSome ∧ (l.sent now).completion?.isSome then .ended else l.phase },
        (l.dropDeparted.dispatch now).2 ++
          ((l.sent now).completion?.elim [] fun a => l.dropDeparted.flushes.map (.answer · a)) ++
          ((l.sent now).completion?.elim [] fun a =>
            l.closing.elim [] fun c => [.cleanup, .answer c a])) := by
  have hsent : (l.dropDeparted.dispatch now).1 = l.sent now := rfl
  -- what there is to tell does not depend on who waits for it
  have hsame : ∀ flushes, ({ l.sent now with flushes } : EventLoop).completion?
      = (l.sent now).completion? := fun _ => completion?_congr rfl
  simp only [turn, answerFlushes_eq, finish_eq, hsent, hsame]
  rfl

theorem pipeline_turn :
    (l.turn now).1.pipeline = (l.pipeline.dispatchAll now l.dropDeparted.isForced).2 := by
  rw [turn_eq]
  rfl

@[simp] theorem closing_turn : (l.turn now).1.closing = l.closing := by
  rw [turn_eq]
  rfl

theorem completion?_turn : (l.turn now).1.completion? = (l.sent now).completion? :=
  completion?_congr (by rw [turn_eq])

/-- Who still waits after a turn waited before it, and there is nothing to tell. -/
theorem flushes_turn :
    (l.turn now).1.flushes =
      if (l.turn now).1.completion?.isSome then [] else l.dropDeparted.flushes := by
  rw [completion?_turn, turn_eq]

/-- A turn ends the loop if it was closed and there is something to tell. -/
theorem phase_turn :
    (l.turn now).1.phase =
      if l.closing.isSome ∧ (l.turn now).1.completion?.isSome then .ended else l.phase := by
  rw [completion?_turn, turn_eq]

/-- **Whoever waits is told what the pipeline has come to.** -/
theorem answer_mem_turn_iff {call : CallId} {a : Answer} :
    .answer call a ∈ (l.turn now).2 ↔
      (l.turn now).1.completion? = some a ∧
        (call ∈ l.dropDeparted.flushes ∨ l.closing = some call) := by
  rw [completion?_turn, turn_eq]
  -- there is one answer for everybody, or none
  cases hcompletion : (l.sent now).completion? with
  | none => simp [dispatch]
  | some b =>
    cases l.closing with
    | none => simp [dispatch, and_comm]
    | some c =>
      simp only [dispatch, Option.elim_some, List.mem_append, List.mem_map, List.mem_cons,
        reduceCtorEq, Effect.answer.injEq, Option.some.injEq, List.not_mem_nil]
      grind

/-! ### Events that make the loop turn -/

variable {l} {m : Moment} {e : Event} {call : CallId} {a : Answer}

/-- Whether an event makes the loop turn. -/
def turnsOn (l : EventLoop) (e : Event) : Bool :=
  l.phase = .running &&
    match e with
    | .request _ _ => true
    | .take => !l.inbox.isEmpty
    | .wake => true
    | _ => false

/-- What the loop does about such an event before it turns. -/
def react (l : EventLoop) (m : Moment) : Event → EventLoop × List Effect
  | .request call command => l.handle m.now call command
  | .take =>
    match l.inbox with
    | [] => (l, [])
    | (id, outcome) :: inbox =>
      ({ l with pipeline := (l.pipeline.resolve id outcome m.now m.classify).2, inbox }, [])
  | _ => (l, [])

/-- Only a running loop turns. -/
theorem running_of_turnsOn (h : l.turnsOn e) : l.phase = .running := by
  simp only [turnsOn, Bool.and_eq_true, decide_eq_true_eq] at h
  exact h.1

theorem step_of_turnsOn (h : l.turnsOn e) :
    l.step m e = andTurn (l.react m e) m.now := by
  simp only [turnsOn, Bool.and_eq_true, decide_eq_true_eq] at h
  obtain ⟨hrun, hturn⟩ := h
  cases e with
  | request call command => rw [step, if_pos hrun, react]
  | take =>
    rw [step, if_pos hrun, takeOutcome, react]
    cases hinbox : l.inbox with
    | nil => simp [hinbox] at hturn
    | cons posted inbox => rfl
  | wake =>
    rw [step, if_pos hrun]
    rfl
  | _ => cases hturn

/-- Only a request changes who waits. -/
theorem react_keeps (he : e.call? = none) :
    (l.react m e).1.flushes = l.flushes ∧ (l.react m e).1.departed = l.departed ∧
      (l.react m e).1.closing = l.closing := by
  cases e with
  | request call command => cases he
  | take =>
    rw [react]
    cases l.inbox <;> exact ⟨rfl, rfl, rfl⟩
  | _ => exact ⟨rfl, rfl, rfl⟩

/-! ### Events without a turn -/

/-- Callers are turned away, and nothing else is done. -/
def OnlyRefuses (effects : List Effect) : Prop :=
  ∀ x ∈ effects, ∃ call, x = .answer call (.failed .closed)

theorem OnlyRefuses.cleanup_notMem {effects : List Effect} (h : OnlyRefuses effects) :
    .cleanup ∉ effects := by
  intro hmem
  obtain ⟨call, hcall⟩ := h _ hmem
  cases hcall

theorem OnlyRefuses.append {effects others : List Effect} (h : OnlyRefuses effects)
    (h' : OnlyRefuses others) : OnlyRefuses (effects ++ others) := by
  intro x hx
  rcases List.mem_append.1 hx with hx | hx
  · exact h x hx
  · exact h' x hx

/-- What stays as it is when the loop does not turn. -/
structure Keeps (l l' : EventLoop) : Prop where
  pipeline : l'.pipeline = l.pipeline
  flushes : l'.flushes = l.flushes
  closing : l'.closing = l.closing
  departed : l.departed ⊆ l'.departed

/-- A loop that no longer runs also keeps its inbox.  Requests still come back, but nobody takes
their outcomes. -/
structure Rests (l l' : EventLoop) : Prop extends Keeps l l' where
  phase : l'.phase = l.phase
  submitted : l'.submitted.Sublist l.submitted
  inbox : l'.inbox = l.inbox

theorem keeps_refl (l : EventLoop) : l.Keeps l := ⟨rfl, rfl, rfl, List.Subset.refl _⟩

theorem keeps_receive (l : EventLoop) (id : BatchId) (outcome : Outcome) :
    l.Keeps (l.receive id outcome) := by
  rw [receive]
  split
  · split <;> exact ⟨rfl, rfl, rfl, List.Subset.refl _⟩
  · exact l.keeps_refl

theorem rests_step (h : l.phase ≠ .running) :
    l.Rests (l.step m e).1 ∧ OnlyRefuses (l.step m e).2 := by
  have hnothing : OnlyRefuses [] := by simp [OnlyRefuses]
  have hsame : l.Rests l := ⟨l.keeps_refl, rfl, .refl _, rfl⟩
  cases e with
  | request call command =>
    rw [step, if_neg h]
    exact ⟨hsame, by simp [OnlyRefuses]⟩
  | post id outcome =>
    refine ⟨⟨l.keeps_receive id outcome, phase_receive l id outcome, ?_, ?_⟩, hnothing⟩
    · rw [step, receive, if_neg h]
      split
      · exact List.filter_sublist
      · exact .refl _
    · rw [step, receive, if_neg h]
      split <;> rfl
  | depart call =>
    exact ⟨⟨⟨rfl, rfl, rfl, List.subset_cons_self _ _⟩, rfl, .refl _, rfl⟩, hnothing⟩
  | _ =>
    rw [step, if_neg h]
    exact ⟨hsame, hnothing⟩

theorem keeps_step (h : ¬l.turnsOn e) : l.Keeps (l.step m e).1 := by
  by_cases hrun : l.phase = .running
  · simp only [turnsOn, hrun, decide_true, Bool.true_and] at h
    cases e with
    | request call command => exact absurd rfl h
    | wake => exact absurd rfl h
    | post id outcome => exact l.keeps_receive id outcome
    | take =>
      have hinbox : l.inbox = [] := by simpa using h
      rw [step, if_pos hrun, takeOutcome, hinbox]
      exact l.keeps_refl
    | depart call => exact ⟨rfl, rfl, rfl, List.subset_cons_self _ _⟩
    | _ =>
      rw [step, if_pos hrun]
      exact ⟨rfl, rfl, rfl, List.Subset.refl _⟩
  · exact (rests_step hrun).1.toKeeps

/-- An event without a turn does nothing, unless it is the end. -/
theorem step_without_turn (hrun : l.phase = .running) (h : ¬l.turnsOn e) :
    ((l.step m e).1.phase = .running ∧ (l.step m e).2 = []) ∨
      (e = .release ∧ l.step m e = l.leave) ∨
      ((l.step m e).1.phase = .stopped ∧ (l.step m e).2 = []) := by
  simp only [turnsOn, hrun, decide_true, Bool.true_and] at h
  cases e with
  | request call command => exact absurd rfl h
  | wake => exact absurd rfl h
  | post id outcome => exact .inl ⟨(phase_receive l id outcome).trans hrun, rfl⟩
  | take =>
    have hinbox : l.inbox = [] := by simpa using h
    rw [step, if_pos hrun, takeOutcome, hinbox]
    exact .inl ⟨hrun, rfl⟩
  | depart call => exact .inl ⟨hrun, rfl⟩
  | release =>
    rw [step, if_pos hrun]
    exact .inr (.inl ⟨rfl, rfl⟩)
  | stop =>
    rw [step, if_pos hrun]
    exact .inr (.inr ⟨rfl, rfl⟩)

/-- Without a turn, a caller is turned away who asks just now, or the caller who closed the loop is
told how it ends. -/
theorem answer_without_turn (hturn : ¬l.turnsOn e) (h : .answer call a ∈ (l.step m e).2) :
    ((∃ command, e = .request call command) ∧ a = .failed .closed) ∨
      (e = .release ∧ l.closing = some call ∧ a = l.lastWord) := by
  by_cases hrun : l.phase = .running
  · rcases step_without_turn (m := m) hrun hturn with ⟨-, hnothing⟩ | ⟨rfl, hleave⟩ | ⟨-, hnothing⟩
    · simp [hnothing] at h
    · rw [hleave, answer_mem_leave_iff] at h
      exact .inr ⟨rfl, h⟩
    · simp [hnothing] at h
  · cases e with
    | request id command =>
      simp only [step, hrun, if_false, List.mem_singleton, Effect.answer.injEq] at h
      obtain ⟨rfl, rfl⟩ := h
      exact .inl ⟨⟨command, rfl⟩, rfl⟩
    | _ => simp [step, hrun] at h

end EventLoop

end BulkDelivery
