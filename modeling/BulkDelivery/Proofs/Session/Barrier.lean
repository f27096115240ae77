import BulkDelivery.Proofs.Session.Numbering

/-!
# Flushes are barriers

A flush that succeeds tells its caller that everything is acknowledged that was restored or was
written before.  It stays true until something is written, so a checkpoint that is taken next is
empty.

## Main definitions

* `Session.IdleAt` — the loop of a writer is idle.
* `Session.Awaits` — a call waits for nobody but one loop, and success means that it is idle.

## Main results

* `EventLoop.flush_is_barrier` — **a flush that succeeds leaves nothing behind, in any run, and a
  checkpoint that is taken next is empty.**
-/

namespace BulkDelivery

namespace Session

variable {s : Session} {i j : Nat} {id : CallId} {e : Event}

/-- The loop of a writer is idle. -/
def IdleAt (i : Nat) (s : Session) : Prop :=
  ∃ loop, s.loopAt i = some loop ∧ loop.Idle

theorem IdleAt.feed (h : IdleAt i s) (he : e.isWrite = false) : IdleAt i (s.feed j e) := by
  obtain ⟨loop, hloop, hidle⟩ := h
  cases hfed : s.loopAt j with
  | none =>
    rw [feed_of_none hfed]
    exact ⟨loop, hloop, hidle⟩
  | some loop' =>
    obtain ⟨m, s₁, hfeed, hloops, -, -⟩ := feed_eq hfed e
    rw [IdleAt, hfeed]
    simp only [loopAt_carryOut, hloops]
    by_cases hij : i = j
    · subst hij
      rw [hloop, Option.some.injEq] at hfed
      subst hfed
      exact ⟨_, if_pos rfl, hidle.step he⟩
    · rw [if_neg hij]
      exact ⟨loop, hloop, hidle⟩

theorem stable_idleAt (i : Nat) : Stable (IdleAt i) where
  agrees hsame h := by
    rw [IdleAt, hsame.loops]
    exact h
  feed j he h := h.feed (Event.isWrite_eq_false he)
  receive j id outcome h := by
    obtain ⟨loop, hloop, hidle⟩ := h
    rw [IdleAt, loopAt_receive, hloop]
    refine ⟨_, rfl, ?_⟩
    split
    · rw [EventLoop.Idle, EventLoop.pipeline_receive]
      exact hidle
    · exact hidle
  fail j id error h := by
    rw [IdleAt, loopAt_keepAnswer]
    exact h

/-! ### Waiting for a flush -/

/-- A call waits at one loop only, which it does not close, and if it has succeeded, then that loop
is idle. -/
structure Awaits (i : Nat) (id : CallId) (s : Session) : Prop where
  /-- It waits nowhere else, and closes nothing. -/
  elsewhere : ∀ j loop, s.loopAt j = some loop → id ∈ loop.callers →
    j = i ∧ loop.closing ≠ some id
  /-- What it was told. -/
  told : ∀ call ∈ s.calls, call.id = id → ∀ a, call.answer = some a →
    (a = .done ∧ IdleAt i s) ∨ ∃ error, a = .failed error

theorem Awaits.feed (h : Awaits i id s)
    (he : e.call? = none ∨ j = i ∧ e = .request id .flush) : Awaits i id (s.feed j e) := by
  have hwrite : e.isWrite = false := by
    rcases he with he | ⟨-, rfl⟩
    · exact Event.isWrite_eq_false he
    · rfl
  cases hfed : s.loopAt j with
  | none =>
    rw [feed_of_none hfed]
    exact h
  | some loop =>
    obtain ⟨m, s₁, hfeed, hloops, hcalls, -⟩ := feed_eq hfed e
    have hhere : e.call? = some id ∨ id ∈ loop.callers → j = i := by
      rintro (hasked | hwaited)
      · rcases he with he | ⟨hji, -⟩
        · rw [he] at hasked
          cases hasked
        · exact hji
      · exact (h.elsewhere j loop hfed hwaited).1
    have hclosing : loop.closing ≠ some id := by
      intro hcloses
      exact (h.elsewhere j loop hfed (EventLoop.mem_callers.2 (.inr hcloses))).2 hcloses
    have hcommand : ∀ command, e = .request id command → command = .flush := by
      rintro command rfl
      rcases he with he | ⟨-, he⟩
      · cases he
      · cases he
        rfl
    constructor
    · intro k loop' hloop' hid
      rw [hfeed, loopAt_carryOut, hloops] at hloop'
      by_cases hkj : k = j
      · rw [if_pos hkj, Option.some.injEq] at hloop'
        rw [← hloop'] at hid ⊢
        rw [hkj]
        refine ⟨hhere (EventLoop.callers_step hid), fun hcloses => ?_⟩
        rcases EventLoop.closing_of_step hcloses with hrequest | hold
        · cases hcommand _ hrequest
        · exact hclosing hold
      · rw [if_neg hkj] at hloop'
        exact h.elsewhere k loop' hloop' hid
    · intro call hcall hid a ha
      rw [hfeed] at hcall
      obtain ⟨old, hold, hheard⟩ := mem_calls_carryOut hcall
      have holdid : old.id = id := hheard.id_eq.symm.trans hid
      rcases hheard.source with hkept | ⟨b, hb, hgiven⟩
      · -- it has been told before, and an idle loop stays idle
        rw [hcalls] at hold
        refine (h.told old hold holdid a (hkept ▸ ha)).imp_left ?_
        exact fun hdone => ⟨hdone.1, hdone.2.feed hwrite⟩
      · -- it is told just now, so this is the loop where it waits
        rw [ha, Option.some.injEq] at hb
        subst hb
        rw [holdid] at hgiven
        have hji := hhere (EventLoop.call_of_answer_mem_step hgiven)
        refine (EventLoop.answer_of_flush hcommand hclosing hgiven).imp_left ?_
        rintro ⟨rfl, hidle⟩
        refine ⟨rfl, _, ?_, hidle⟩
        rw [hfeed, loopAt_carryOut, hloops, if_pos hji.symm]

theorem stable_awaits (i : Nat) (id : CallId) : Stable (Awaits i id) where
  agrees hsame h := by
    refine ⟨fun j loop hloop => ?_, fun call hcall hid a ha => ?_⟩
    · rw [hsame.loops] at hloop
      exact h.elsewhere j loop hloop
    · rw [hsame.calls] at hcall
      refine (h.told call hcall hid a ha).imp_left ?_
      exact fun hdone => ⟨hdone.1, (stable_idleAt i).agrees hsame hdone.2⟩
  feed j he h := h.feed (.inl he)
  receive j batch outcome h := by
    refine ⟨fun k loop hloop => ?_, fun call hcall hid a ha => ?_⟩
    · rw [loopAt_receive] at hloop
      obtain ⟨before, hbefore, rfl⟩ := Option.map_eq_some_iff.1 hloop
      split
      · rw [EventLoop.callers_receive, (before.keeps_receive batch outcome).closing]
        exact h.elsewhere k before hbefore
      · exact h.elsewhere k before hbefore
    · refine (h.told call hcall hid a ha).imp_left ?_
      exact fun hdone => ⟨hdone.1, (stable_idleAt i).receive j batch outcome hdone.2⟩
  fail j id' error h := by
    refine ⟨fun k loop hloop => ?_, fun call hcall hid a ha => ?_⟩
    · rw [loopAt_keepAnswer] at hloop
      exact h.elsewhere k loop hloop
    · obtain ⟨old, hold, hheard⟩ := mem_calls_keepAnswer hcall
      rcases hheard.source with hkept | ⟨b, hb, -, hgiven⟩
      · refine (h.told old hold (hheard.id_eq.symm.trans hid) a (hkept ▸ ha)).imp_left ?_
        exact fun hdone => ⟨hdone.1, (stable_idleAt i).fail j id' error hdone.2⟩
      · rw [ha, Option.some.injEq] at hb
        exact .inr ⟨error, hb.trans hgiven⟩

/-- A flush that has just begun waits at its loop. -/
theorem awaits_begin (h : s.Numbered) (i : Nat) : Awaits i s.nextCall (s.begin i .flush).2 := by
  simp only [begin]
  refine Awaits.feed ?_ (.inr ⟨rfl, rfl⟩)
  refine (stable_awaits i s.nextCall).agrees (.plan _ _) ⟨?_, ?_⟩
  · intro j loop hloop hid
    exact absurd (h.callers j loop hloop s.nextCall hid) (Nat.lt_irrefl _)
  · intro call hcall hid a ha
    rcases List.mem_append.1 hcall with hold | hnew
    · exact absurd (hid ▸ h.calls call hold) (Nat.lt_irrefl _)
    · -- the new call has no answer yet
      rw [List.mem_singleton.1 hnew] at ha
      cases ha

/-- A wait ends with success only when the loop is idle. -/
theorem Awaits.waitFor (h : Awaits i id s) :
    ((s.waitFor id).1 = .done ∧ IdleAt i (s.waitFor id).2) ∨
      ∃ error, (s.waitFor id).1 = .failed error := by
  have hend : Awaits i id (advanceFor s.settle.patience id s.settle) :=
    (stable_awaits i id).enduring.advanceFor ((stable_awaits i id).enduring.settle h)
  simp only [Session.waitFor]
  cases hfind : (advanceFor s.settle.patience id s.settle).calls.find? (·.id == id) with
  | none => exact .inr ⟨_, rfl⟩
  | some call =>
    have hcall := List.mem_of_find?_eq_some hfind
    have hid : call.id = id := by simpa using List.find?_some hfind
    cases hanswer : call.answer with
    | none => exact .inr ⟨.closed, by simp [hanswer]⟩
    | some a =>
      refine (hend.told call hcall hid a hanswer).imp ?_ ?_
      · rintro ⟨rfl, hidle⟩
        exact ⟨by simp [hanswer], hidle⟩
      · rintro ⟨error, rfl⟩
        exact ⟨error, by simp [hanswer]⟩

/-- The loop of the writer is idle after a flush that succeeded. -/
theorem idleAt_flush (h : s.Numbered) (hcurrent : s.current = some i)
    (hflush : s.flush.1 = .ok ()) : IdleAt i s.flush.2 := by
  simp only [flush, hcurrent] at hflush ⊢
  apply (stable_idleAt i).enduring.settle
  have hwait : Awaits i (s.begin i .flush).1 (s.begin i .flush).2 := awaits_begin h i
  rcases hwait.waitFor with ⟨-, hidle⟩ | ⟨error, herror⟩
  · exact hidle
  · rw [herror] at hflush
    cases hflush

/-! ### The checkpoint after a flush -/

/-- An answer that does not wait is looked up by the number of its call. -/
theorem lookup_answers_carryOut {effects : List Effect} (h : ∀ a, .answer id a ∉ effects) :
    (effects.foldl (carryOut i) s).answers.lookup id = s.answers.lookup id := by
  induction effects generalizing s with
  | nil => rfl
  | cons effect rest ih =>
    rw [List.foldl_cons, ih fun a ha => h a (List.mem_cons_of_mem _ ha)]
    cases effect with
    | submit batch => rfl
    | cleanup =>
      simp only [carryOut]
      split <;> rfl
    | answer id' a =>
      have hne : (id == id') = false := by
        rw [beq_eq_false_iff_ne]
        rintro rfl
        exact h a List.mem_cons_self
      simp only [carryOut, keepAnswer, letGo]
      split
      · split <;> rfl
      · rw [List.lookup_cons, hne]

/-- A writer whose loop is idle gives an empty checkpoint, or none. -/
theorem ask_snapshot (h : s.Numbered) (hidle : IdleAt i s) :
    (s.ask i .snapshot).1 = .checkpoint { operations := [] } ∨
      (s.ask i .snapshot).1 = .failed .closed := by
  obtain ⟨loop, hloop, hidle⟩ := hidle
  have hnew : Session.loopAt { s with nextCall := s.nextCall + 1 } i = some loop := hloop
  obtain ⟨m, s₁, hfeed, -, hcalls, -⟩ := feed_eq hnew (.request s.nextCall .snapshot)
  have hnobody : ¬ s₁.isWaiting s.nextCall := by
    simp only [isWaiting, hcalls, List.any_eq_true, not_exists, not_and, Bool.and_eq_true,
      beq_iff_eq]
    intro call hcall hid
    exact absurd (hid ▸ h.calls call hcall) (Nat.lt_irrefl _)
  simp only [ask, hfeed, hidle.step_snapshot]
  by_cases hrun : loop.phase = .running
  · left
    -- the turn after the answer tells others something, but not this call
    have hothers : ∀ a, .answer s.nextCall a ∉ (loop.turn m.now).2 := by
      intro a ha
      have hcaller := (EventLoop.completion?_of_answer_mem_turn ha).2
      exact Nat.lt_irrefl _ (h.callers i loop hloop _ hcaller)
    rw [if_pos hrun, List.foldl_cons, lookup_answers_carryOut hothers, carryOut,
      keepAnswer_of_not_waiting hnobody]
    simp
  · right
    rw [if_neg hrun, List.foldl_cons, List.foldl_nil, carryOut,
      keepAnswer_of_not_waiting hnobody]
    simp

theorem snapshotOf_of_idleAt (h : s.Numbered) (hidle : IdleAt i s) :
    (s.snapshotOf i).1 = .ok { operations := [] } ∨
      (s.snapshotOf i).1 = .error (.failed .closed) := by
  have hanswer := ask_snapshot h hidle
  unfold snapshotOf
  split <;> simp_all

theorem keepCheckpoint_fst (outcome : Outcome Checkpoint) :
    (keepCheckpoint outcome).1 = outcome.1 := by
  unfold keepCheckpoint
  split <;> rfl

/-- A checkpoint that is taken after a flush is empty. -/
theorem snapshotState_of_flushOnCheckpoint (h : s.Numbered)
    (hflushes : (s.current.bind (s.stations[·]?)).any
      (·.loop.pipeline.settings.flushOnCheckpoint)) :
    s.snapshotState.1 = .ok { operations := [] } ∨
      ∃ refusal, s.snapshotState.1 = .error refusal := by
  cases hcurrent : s.current with
  | none => simp [hcurrent] at hflushes
  | some i =>
    rw [hcurrent, Option.bind_some] at hflushes
    have hidle := idleAt_flush h hcurrent
    have hflushed := lasting_numbered.flush h
    simp only [snapshotState, hcurrent, keepCheckpoint_fst, checkpointOf, if_pos hflushes]
    split
    · exact .inr ⟨_, rfl⟩
    · next s' hs' =>
      rw [hs'] at hidle hflushed
      exact (snapshotOf_of_idleAt hflushed (hidle rfl)).imp_right fun hclosed => ⟨_, hclosed⟩

end Session

namespace EventLoop

/-- **A flush that succeeds leaves nothing behind.**

In any run of a loop, when a call that asked for a flush, and for nothing else, is told that it is
done, delivery has not ended, nothing waits and nothing is in flight.  Everything that was restored
and everything whose write was answered with success is acknowledged, each by an answer with a
success at its place.  Whatever follows, until something is written a checkpoint is empty, or the
loop has ended and gives none.

So in any session a checkpoint that is taken after a flush is empty, or there is none. -/
theorem flush_is_barrier :
    (∀ (settings : Settings) (checkpoints : List Checkpoint) (openedAt startedAt : Time)
      (events : List (Moment × Event)) (m : Moment) (e : Event) (call : CallId),
      let first := opened settings checkpoints openedAt startedAt
      OnlyFlushes (events ++ [(m, e)]) call →
      .answer call .done ∈ ((first.run events).1.step m e).2 →
      let l := (first.run (events ++ [(m, e)])).1
      let moves := allMoves settings checkpoints openedAt startedAt (events ++ [(m, e)])
      let j := journal settings checkpoints openedAt startedAt (events ++ [(m, e)])
      (l.pipeline.halt = none ∧ l.pipeline.buffer.entries = [] ∧ l.pipeline.inFlight = []) ∧
      (j.Faithful ∧ j.pipeline = l.pipeline ∧
        j.arrivals.map Entry.operation =
          checkpoints.flatMap Checkpoint.operations ++ first.written (events ++ [(m, e)])) ∧
      (j.acknowledged.Perm j.arrivals.zipIdx ∧
        ∀ x ∈ j.acknowledged, ∃ earlier resolve rest, moves = earlier ++ resolve :: rest ∧
          ((Journal.opening settings checkpoints openedAt).run earlier).Acknowledges resolve x) ∧
      ∀ (later : List (Moment × Event)) (m' : Moment) (c : CallId),
        (∀ x ∈ later, x.2.isWrite = false) →
        ((l.run later).1.step m' (.request c .snapshot)).2.head? =
          some (.answer c (if (l.run later).1.phase = .running then
            .checkpoint { operations := [] } else .failed .closed))) ∧
    (∀ actions : List Session.Action,
      let s := Session.after actions
      (s.current.bind (s.stations[·]?)).any (·.loop.pipeline.settings.flushOnCheckpoint) →
      s.snapshotState.1 = .ok { operations := [] } ∨
        ∃ refusal, s.snapshotState.1 = .error refusal) := by
  refine ⟨?_, fun actions hflushes =>
    Session.snapshotState_of_flushOnCheckpoint (Session.numbered_after actions) hflushes⟩
  intro settings checkpoints openedAt startedAt events m e call first hflush hdone l moves j
  have hidle : l.Idle := by
    show ((first.run (events ++ [(m, e)])).1).Idle
    rw [run_concat]
    exact idle_of_done (callers_opened ..) hflush hdone
  have hopening := Journal.faithful_opening settings checkpoints openedAt
  have hfaithful : j.Faithful := faithful_journal settings checkpoints openedAt startedAt _
  have hpipeline : j.pipeline = l.pipeline :=
    pipeline_journal settings checkpoints openedAt startedAt _
  refine ⟨⟨hidle.1, Pipeline.isDrained_iff.1 hidle.2⟩, ⟨hfaithful, hpipeline, ?_⟩, ⟨?_, ?_⟩, ?_⟩
  · exact arrivals_journal settings checkpoints openedAt startedAt _
  · exact hfaithful.acknowledged_perm (hpipeline ▸ hidle.1) (hpipeline ▸ hidle.2)
  · intro x hx
    exact Journal.acknowledges_of_mem hopening hx List.not_mem_nil
  · intro later m' c hlater
    rw [(hidle.run hlater).step_snapshot]
    split <;> rfl

/-- A flush waits for a restored operation that is rejected at first, and then for its second
batch.  A session takes its checkpoint after the same trouble. -/
theorem flush_is_barrier_after_rejection :
    let moment (now : Time) : Moment := { now, classify := elasticsearch.classify }
    let restored : List Checkpoint := [{ operations := [.delete "a"] }]
    let events := [
      (moment 1, .request 0 (.write (.delete "b"))), (moment 1, .request 1 .flush),
      (moment 2, .post 0 (.answered
        { items := [.failed (.rejected "full"), .success], took := ⟨5⟩ })),
      (moment 3, .take), (moment 13, .wake), (moment 14, .post 1 (.answered (.success 1 ⟨5⟩)))]
    let first := opened .testing restored 0 0
    let j := journal .testing restored 0 0 (events ++ [(moment 15, .take)])
    let actions : List Session.Action := [
      .openWriter { settings := .testing, restored } none false,
      .changeStore ({ · with script := [.rejected [0]] }), .write { operation := .delete "b" }]
    let s := Session.after actions
    OnlyFlushes (events ++ [(moment 15, .take)]) 1 ∧
      .answer 1 .done ∈ ((first.run events).1.step (moment 15) .take).2 ∧
      j.acknowledged.length = 2 ∧
      (s.current.bind (s.stations[·]?)).any (·.loop.pipeline.settings.flushOnCheckpoint) ∧
      s.snapshotState.1 = .ok { operations := [] } := by
  intro moment restored events first j actions s
  have hflush : OnlyFlushes (events ++ [(moment 15, .take)]) 1 := by
    intro m command hmem
    obtain ⟨-, hcommand⟩ : m = moment 1 ∧ command = .flush := by simpa [events] using hmem
    exact hcommand
  have hdone : .answer 1 .done ∈ ((first.run events).1.step (moment 15) .take).2 := by
    decide +kernel
  have hflushes : (s.current.bind (s.stations[·]?)).any
      (·.loop.pipeline.settings.flushOnCheckpoint) := by decide +kernel
  obtain ⟨-, -, ⟨hperm, -⟩, -⟩ := flush_is_barrier.1 .testing restored 0 0 events (moment 15) .take
    1 hflush hdone
  refine ⟨hflush, hdone, ?_, hflushes, ?_⟩
  · rw [hperm.length_eq]
    decide +kernel
  · rcases flush_is_barrier.2 actions hflushes with hempty | ⟨refusal, hrefusal⟩
    · exact hempty
    · have hok : s.snapshotState.1.isOk := by decide +kernel
      rw [hrefusal] at hok
      cases hok

end EventLoop

end BulkDelivery
