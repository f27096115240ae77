import BulkDelivery.Proofs.EventLoop.Closing
import BulkDelivery.Proofs.Pipeline.Dispatching

/-!
# What forces a batch

A batch that has reached no threshold is sent early only on somebody's account: the loop was closed,
or a caller waits for a flush.  Callers who wait leave in two ways.  They are told how the work has
ended, at the end of a turn, or they give up, and then the loop notices at the beginning of its next
turn, before it sends anything.  So the flushes that a loop holds and whose callers have not given
up are just those that can be read off what has happened: a flush was taken, nobody was told
anything about it, and its caller has not given up.

## Main definitions

* `EventLoop.AsksFlush`, `EventLoop.AcceptsClose` — a running loop took a flush, or the first close.
* `EventLoop.Waits` — a caller waits for a flush, read off what has happened.

## Main results

* `EventLoop.waits_iff` — who waits is who the loop holds and who has not given up.
* `EventLoop.taken_on_account` — on whose account a batch is sent.
* `EventLoop.held_back_of_waits` — while somebody waits, only a slot or a pause holds operations
  back.
-/

namespace BulkDelivery

namespace Pipeline

/-- When a batch is taken, it is due. -/
theorem TakesAll.taken {p r : Pipeline} {now : Time} {force : Bool} {batch : Batch}
    {batches front back : List Batch} (h : TakesAll now force p batches r)
    (hbatch : batches = front ++ batch :: back) :
    ∃ q', (p.moves (List.replicate front.length (.dispatch now force))).nextBatch now force =
      some (batch, q') := by
  induction h generalizing front with
  | done => simp at hbatch
  | @next p q r first rest htaken _ ih =>
    cases front with
    | nil =>
      rw [List.nil_append, List.cons.injEq] at hbatch
      exact ⟨q, hbatch.1 ▸ htaken⟩
    | cons f front =>
      rw [List.cons_append, List.cons.injEq] at hbatch
      have hmove : p.move (.dispatch now force) = q := by simp [move, htaken]
      rw [List.length_cons, List.replicate_succ, moves_cons, hmove]
      exact ih hbatch.2

end Pipeline

namespace EventLoop

variable {l first : EventLoop} {m : Moment} {e : Event} {call : CallId} {now : Time} {a : Answer}
  {events later : List (Moment × Event)} {told : List Effect}

/-! ### What has happened -/

/-- The calls that events bring, in order. -/
def calls (events : List (Moment × Event)) : List CallId :=
  events.filterMap fun x => x.2.call?

/-- A flush was taken by a loop that ran. -/
def AsksFlush (first : EventLoop) (events : List (Moment × Event)) (call : CallId) : Prop :=
  ∃ before m after, events = before ++ (m, .request call .flush) :: after ∧
    (first.run before).1.phase = .running

/-- A loop that ran took a call that closes it, for the first time. -/
def AcceptsClose (first : EventLoop) (events : List (Moment × Event)) : Prop :=
  ∃ before m call after, events = before ++ (m, .request call .close) :: after ∧
    (first.run before).1.phase = .running ∧ (first.run before).1.closing = none

/-- A caller waits for a flush: it was taken, the caller has not been told anything and has not
given up. -/
structure Waits (first : EventLoop) (events : List (Moment × Event)) (told : List Effect)
    (call : CallId) : Prop where
  asked : first.AsksFlush events call
  untold : ∀ a, .answer call a ∉ told
  stays : ∀ m, (m, .depart call) ∉ events

theorem AsksFlush.append (h : first.AsksFlush events call) (later : List (Moment × Event)) :
    first.AsksFlush (events ++ later) call := by
  obtain ⟨before, m, after, rfl, hrun⟩ := h
  exact ⟨before, m, after ++ later, by simp, hrun⟩

theorem AcceptsClose.append (h : first.AcceptsClose events) (later : List (Moment × Event)) :
    first.AcceptsClose (events ++ later) := by
  obtain ⟨before, m, call, after, rfl, hrun, hopen⟩ := h
  exact ⟨before, m, call, after ++ later, by simp, hrun, hopen⟩

theorem AsksFlush.exists_mem (h : first.AsksFlush events call) :
    ∃ m, (m, .request call .flush) ∈ events := by
  obtain ⟨before, m, after, rfl, -⟩ := h
  exact ⟨m, List.mem_append_right _ List.mem_cons_self⟩

theorem AcceptsClose.exists_mem (h : first.AcceptsClose events) :
    ∃ m call, (m, .request call .close) ∈ events := by
  obtain ⟨before, m, call, after, rfl, -⟩ := h
  exact ⟨m, call, List.mem_append_right _ List.mem_cons_self⟩

theorem AsksFlush.mem_calls (h : first.AsksFlush events call) : call ∈ calls events := by
  obtain ⟨m, hm⟩ := h.exists_mem
  exact List.mem_filterMap.2 ⟨_, hm, rfl⟩

/-- A call that flushes does not close, since each call is brought once. -/
theorem AsksFlush.close_notMem (h : first.AsksFlush events call)
    (hdistinct : (calls events).Nodup) (m : Moment) : (m, .request call .close) ∉ events := by
  obtain ⟨before, m', after, rfl, -⟩ := h
  have hbrought : ∀ es : List (Moment × Event), (m, .request call .close) ∈ es → call ∈ calls es :=
    fun es hmem => List.mem_filterMap.2 ⟨_, hmem, rfl⟩
  have hcalls : calls (before ++ (m', .request call .flush) :: after) =
      calls before ++ call :: calls after := List.filterMap_append
  rw [hcalls, List.nodup_append, List.nodup_cons] at hdistinct
  obtain ⟨-, ⟨hafter, -⟩, hbefore⟩ := hdistinct
  intro hmem
  rcases List.mem_append.1 hmem with hearlier | hmem
  · exact hbefore call (hbrought before hearlier) call List.mem_cons_self rfl
  · rcases List.mem_cons.1 hmem with hhere | hlater
    · cases hhere
    · exact hafter (hbrought after hlater)

theorem calls_concat : calls (events ++ [(m, e)]) = calls events ++ e.call?.toList := by
  rw [calls, List.filterMap_append]
  cases h : e.call? <;> simp [calls, h]

theorem nodup_calls_of_concat (hdistinct : (calls (events ++ [(m, e)])).Nodup) :
    (calls events).Nodup := by
  rw [calls_concat] at hdistinct
  exact (List.nodup_append.1 hdistinct).1

/-- Each call is brought once. -/
theorem notMem_calls (hdistinct : (calls (events ++ [(m, e)])).Nodup) (he : e.call? = some call) :
    call ∉ calls events := by
  rw [calls_concat, he, List.nodup_append] at hdistinct
  intro hmem
  exact hdistinct.2.2 call hmem call List.mem_cons_self rfl

/-! ### Who gave up -/

theorem departed_receive (id : BatchId) (outcome : Outcome) :
    (l.receive id outcome).departed = l.departed := by
  unfold receive
  split
  · split <;> rfl
  · rfl

/-- Only a caller who gives up is added to those who gave up. -/
theorem mem_departed_step :
    call ∈ (l.step m e).1.departed ↔ call ∈ l.departed ∨ e = .depart call := by
  by_cases hturn : l.turnsOn e
  · have hnot : e ≠ .depart call := by
      rintro rfl
      simp [turnsOn] at hturn
    rw [step_of_turnsOn hturn, andTurn, departed_turn, departed_react, or_iff_left hnot]
  · by_cases hrun : l.phase = .running
    · simp only [turnsOn, hrun, decide_true, Bool.true_and] at hturn
      cases e with
      | request id command => exact absurd rfl hturn
      | wake => exact absurd rfl hturn
      | take =>
        have hinbox : l.inbox = [] := by simpa using hturn
        simp [step, hrun, takeOutcome, hinbox]
      | post id outcome => simp [step, departed_receive]
      | depart id => simp [step, or_comm, eq_comm]
      | release => simp [step, hrun, leave]
      | stop => simp [step, hrun]
    · cases e with
      | post id outcome => simp [step, departed_receive]
      | depart id => simp [step, or_comm, eq_comm]
      | _ => simp [step, hrun]

/-- Who gave up is read off the events. -/
theorem mem_departed_run (hfirst : first.departed = []) :
    call ∈ (first.run events).1.departed ↔ ∃ m, (m, .depart call) ∈ events := by
  induction events using List.reverseRecOn with
  | nil => simp [run, hfirst]
  | append_singleton events x ih =>
    obtain ⟨m, e⟩ := x
    rw [run_concat, mem_departed_step, ih]
    constructor
    · rintro (⟨m', hm'⟩ | rfl)
      · exact ⟨m', List.mem_append_left _ hm'⟩
      · exact ⟨m, List.mem_append_right _ List.mem_cons_self⟩
    · rintro ⟨m', hm'⟩
      rcases List.mem_append.1 hm' with hold | hnew
      · exact .inl ⟨m', hold⟩
      · exact .inr (Prod.mk.inj (List.mem_singleton.1 hnew)).2.symm

/-! ### Who was told -/

/-- Only calls that were brought are answered. -/
theorem mem_calls_of_answer (hfirst : first.callers = []) :
    (∀ a, .answer call a ∈ (first.run events).2 → call ∈ calls events) ∧
      (call ∈ (first.run events).1.callers → call ∈ calls events) := by
  induction events using List.reverseRecOn with
  | nil => simp [run, hfirst]
  | append_singleton events x ih =>
    obtain ⟨m, e⟩ := x
    obtain ⟨hanswered, hwaiting⟩ := ih
    have hbrought : e.call? = some call ∨ call ∈ (first.run events).1.callers →
        call ∈ calls (events ++ [(m, e)]) := by
      rw [calls_concat, List.mem_append]
      rintro (hnow | hold)
      · exact .inr (by simp [hnow])
      · exact .inl (hwaiting hold)
    constructor
    · intro a ha
      rw [effects_run_concat, List.mem_append] at ha
      rcases ha with hold | hnew
      · rw [calls_concat]
        exact List.mem_append_left _ (hanswered a hold)
      · exact hbrought (call_of_answer_mem_step hnew)
    · intro hcaller
      rw [run_concat] at hcaller
      exact hbrought (callers_step hcaller)

/-- A turn after which somebody waits has told nobody anything. -/
theorem answer_notMem_turn (h : call ∈ (l.turn now).1.flushes) (id : CallId) :
    .answer id a ∉ (l.turn now).2 := by
  intro hanswer
  rw [flushes_turn, (completion?_of_answer_mem_turn hanswer).1] at h
  exact absurd h List.not_mem_nil

/-! ### Who waits -/

/-- Only a flush joins those that the loop holds. -/
theorem mem_flushes_react_iff :
    call ∈ (l.react m e).1.flushes ↔ call ∈ l.flushes ∨ e = .request call .flush := by
  cases e with
  | request id command =>
    rw [react, handle_eq]
    by_cases hflush : command = .flush
    · simp [hflush, eq_comm]
    · simp [hflush]
  | take =>
    rw [react]
    cases l.inbox <;> simp
  | _ => simp [react]

/-- Whom the loop holds before it turns was asked for and was told nothing. -/
theorem pending_react (hfirst : first.callers = [])
    (hdistinct : (calls (events ++ [(m, e)])).Nodup)
    (hturn : (first.run events).1.turnsOn e)
    (hheld : call ∈ (first.run events).1.flushes →
      first.AsksFlush events call ∧ ∀ a, .answer call a ∉ (first.run events).2)
    (h : call ∈ ((first.run events).1.react m e).1.flushes) :
    first.AsksFlush (events ++ [(m, e)]) call ∧
      ∀ a, .answer call a ∉ (first.run events).2 ++ ((first.run events).1.react m e).2 := by
  rcases mem_flushes_react_iff.1 h with hold | rfl
  · obtain ⟨hasked, huntold⟩ := hheld hold
    refine ⟨hasked.append _, fun a ha => ?_⟩
    rcases List.mem_append.1 ha with hbefore | hnow
    · exact huntold a hbefore
    · -- the same call would be brought again
      obtain ⟨command, rfl, -⟩ := answer_mem_react hnow
      exact notMem_calls hdistinct rfl hasked.mem_calls
  · refine ⟨⟨events, m, [], rfl, running_of_turnsOn hturn⟩, fun a ha => ?_⟩
    rcases List.mem_append.1 ha with hbefore | hnow
    · exact notMem_calls hdistinct rfl ((mem_calls_of_answer hfirst).1 a hbefore)
    · obtain ⟨command, hcommand, hanswer⟩ := answer_mem_react hnow
      exact (answer_mem_handle hanswer).2.1 (Event.request.inj hcommand).2.symm

/-- Whom the loop holds was asked for and was told nothing. -/
theorem pending_run (hfirst : first.callers = []) (hdistinct : (calls events).Nodup)
    (h : call ∈ (first.run events).1.flushes) :
    first.AsksFlush events call ∧ ∀ a, .answer call a ∉ (first.run events).2 := by
  have hopen := closing_of_callers hfirst
  induction events using List.reverseRecOn with
  | nil =>
    have hnobody : first.flushes = [] := (List.append_eq_nil_iff.1 hfirst).1
    rw [run, hnobody] at h
    exact absurd h List.not_mem_nil
  | append_singleton events x ih =>
    obtain ⟨m, e⟩ := x
    have hbefore := nodup_calls_of_concat hdistinct
    rw [run_concat] at h
    rw [effects_run_concat]
    by_cases hturn : (first.run events).1.turnsOn e
    · rw [step_of_turnsOn hturn] at h ⊢
      have hheld : call ∈ ((first.run events).1.react m e).1.flushes := by
        have hmem := h
        rw [andTurn, flushes_turn] at hmem
        split at hmem
        · exact absurd hmem List.not_mem_nil
        · exact List.mem_of_mem_filter hmem
      obtain ⟨hasked, huntold⟩ := pending_react hfirst hdistinct hturn (ih hbefore) hheld
      refine ⟨hasked, fun a ha => ?_⟩
      rw [andTurn, ← List.append_assoc, List.mem_append] at ha
      exact ha.elim (huntold a) (answer_notMem_turn h call)
    · rw [(keeps_step hturn).flushes] at h
      obtain ⟨hasked, huntold⟩ := ih hbefore h
      refine ⟨hasked.append _, fun a ha => ?_⟩
      rcases List.mem_append.1 ha with hold | hnew
      · exact huntold a hold
      · rcases answer_without_turn hturn hnew with ⟨⟨command, rfl⟩, -⟩ | ⟨-, hclosing, -⟩
        · exact notMem_calls hdistinct rfl hasked.mem_calls
        · -- who closed the loop did not flush it
          obtain ⟨m', hm'⟩ := mem_of_closing_run hopen hclosing
          exact hasked.close_notMem hbefore m' hm'

/-- Who waits is held by the loop. -/
theorem Waits.mem_flushes (hdeparted : first.departed = [])
    (h : first.Waits events (first.run events).2 call) : call ∈ (first.run events).1.flushes := by
  obtain ⟨⟨before, m, after, rfl, hrun⟩, huntold, hstays⟩ := h
  rw [run_append]
  rw [effects_run_append] at huntold
  rcases remembers_run hrun m call after with hgone | hheld | ⟨a, ha, -⟩
  · rw [← run_append, mem_departed_run hdeparted] at hgone
    obtain ⟨m', hm'⟩ := hgone
    exact absurd hm' (hstays m')
  · exact hheld
  · exact absurd (List.mem_append_right _ ha) (huntold a)

/-- **Who waits is whom the loop holds and who has not given up.** -/
theorem waits_iff (hfirst : first.callers = []) (hdeparted : first.departed = [])
    (hdistinct : (calls events).Nodup) :
    first.Waits events (first.run events).2 call ↔
      call ∈ (first.run events).1.flushes ∧ call ∉ (first.run events).1.departed := by
  constructor
  · intro h
    refine ⟨h.mem_flushes hdeparted, ?_⟩
    rw [mem_departed_run hdeparted, not_exists]
    exact h.stays
  · rintro ⟨hheld, hstays⟩
    rw [mem_departed_run hdeparted, not_exists] at hstays
    obtain ⟨hasked, huntold⟩ := pending_run hfirst hdistinct hheld
    exact ⟨hasked, huntold, hstays⟩

/-! ### Who closed the loop -/

/-- A loop that is closed before it turns has accepted a close. -/
theorem acceptsClose_react {c : CallId} (hturn : (first.run events).1.turnsOn e)
    (hbefore : ∀ c, (first.run events).1.closing = some c → first.AcceptsClose events)
    (h : ((first.run events).1.react m e).1.closing = some c) :
    first.AcceptsClose (events ++ [(m, e)]) := by
  cases hclosing : (first.run events).1.closing with
  | some c' => exact (hbefore c' hclosing).append _
  | none =>
    rcases closing_of_react h with rfl | hold
    · exact ⟨events, m, c, [], rfl, running_of_turnsOn hturn, hclosing⟩
    · cases hclosing.symm.trans hold

theorem acceptsClose_run {c : CallId} (hopen : first.closing = none)
    (h : (first.run events).1.closing = some c) : first.AcceptsClose events := by
  induction events using List.reverseRecOn generalizing c with
  | nil => cases hopen.symm.trans h
  | append_singleton events x ih =>
    obtain ⟨m, e⟩ := x
    rw [run_concat] at h
    by_cases hturn : (first.run events).1.turnsOn e
    · rw [step_of_turnsOn hturn, andTurn, closing_turn] at h
      exact acceptsClose_react hturn (fun c hc => ih hc) h
    · rw [(keeps_step hturn).closing] at h
      exact (ih h).append _

/-! ### One event -/

/-- Before it turns a loop submits nothing. -/
theorem submissions_react (l : EventLoop) (m : Moment) (e : Event) :
    submissions (l.react m e).2 = [] := by
  cases e with
  | request id command => exact submissions_handle l m.now id command
  | take =>
    rw [react]
    cases l.inbox <;> rfl
  | _ => rfl

/-- An event submits what the turn after it takes. -/
theorem submissions_of_turnsOn (hturn : l.turnsOn e) :
    submissions (l.step m e).2 =
      ((l.react m e).1.pipeline.dispatchAll m.now (l.react m e).1.dropDeparted.isForced).1 := by
  rw [step_of_turnsOn hturn, andTurn, submissions_append, submissions_react, List.nil_append,
    submissions_turn, turnMoves, ← Pipeline.dispatchUpTo_eq_batches]
  rfl

theorem submissions_without_turn (hturn : ¬l.turnsOn e) : submissions (l.step m e).2 = [] := by
  by_cases hrun : l.phase = .running
  · rcases step_without_turn (m := m) hrun hturn with ⟨-, hnothing⟩ | ⟨-, hleave⟩ | ⟨-, hnothing⟩
    · rw [hnothing]
      rfl
    · rw [hleave, submissions_leave]
    · rw [hnothing]
      rfl
  · rw [submissions, List.filterMap_eq_nil_iff]
    intro x hx
    obtain ⟨call, rfl⟩ := (rests_step hrun).2 x hx
    rfl

/-- Sending is forced by a close or by somebody who waits. -/
theorem isForced_iff : l.isForced ↔ (∃ c, l.closing = some c) ∨ ∃ call, call ∈ l.flushes := by
  rw [isForced, Bool.or_eq_true, Option.isSome_iff_exists, Bool.not_eq_true',
    List.isEmpty_eq_false_iff_exists_mem]

/-- While somebody waits after a turn, only a slot or a pause holds operations back. -/
theorem held_back_of_mem_flushes (h : call ∈ (l.turn now).1.flushes) :
    let p := (l.turn now).1.pipeline
    p.buffer.entries = [] ∨ p.settings.maxInFlight ≤ p.inFlight.length ∨
      ∃ t, p.pausedUntil = some t ∧ now < t := by
  intro p
  rw [flushes_turn] at h
  split at h
  · exact absurd h List.not_mem_nil
  · next hsilent =>
    have hforced : l.dropDeparted.isForced = true := isForced_iff.2 (.inr ⟨call, h⟩)
    have hnone : p.nextBatch now true = none := by
      show (l.turn now).1.pipeline.nextBatch now true = none
      rw [pipeline_turn, ← hforced]
      exact Pipeline.nextBatch_dispatchAll
    have hrun : p.halt = none :=
      (completion?_eq_none_iff.1 (Option.not_isSome_iff_eq_none.1 hsilent)).2
    rcases Pipeline.nextBatch_eq_none_cases hnone with
      hhalt | hempty | hfull | hpause | ⟨hunforced, -⟩
    · exact absurd hrun hhalt
    · exact .inl hempty
    · exact .inr (.inl hfull)
    · exact .inr (.inr hpause)
    · cases hunforced

/-! ### Runs -/

/-- Nobody has given up waiting for a loop that has just been opened. -/
theorem departed_opened (settings : Settings) (checkpoints : List Checkpoint)
    (openedAt startedAt : Time) :
    (opened settings checkpoints openedAt startedAt).departed = [] := by
  rw [opened, start, departed_turn]

/-- The batches of the first turn have all reached a threshold. -/
theorem taken_at_start {p : Pipeline} {front back : List Batch} {batch : Batch}
    (h : submissions (start p now).2 = front ++ batch :: back) :
    ∃ q', (p.moves (List.replicate front.length (.dispatch now false))).nextBatch now false =
      some (batch, q') := by
  have hbatches : (p.dispatchAll now false).1 = front ++ batch :: back := by
    rw [← h, start, submissions_turn, turnMoves, ← Pipeline.dispatchUpTo_eq_batches]
    rfl
  exact (p.takesAll_dispatchAll now false).taken hbatches

/-- Whom the loop holds when it sends, waits. -/
theorem waits_of_mem_dropDeparted (hfirst : first.callers = []) (hdeparted : first.departed = [])
    (hdistinct : (calls (events ++ [(m, e)])).Nodup) (hturn : (first.run events).1.turnsOn e)
    (h : call ∈ ((first.run events).1.react m e).1.dropDeparted.flushes) :
    first.Waits (events ++ [(m, e)])
      ((first.run events).2 ++ ((first.run events).1.react m e).2) call := by
  have hbefore := nodup_calls_of_concat hdistinct
  obtain ⟨hheld, hstays⟩ : call ∈ ((first.run events).1.react m e).1.flushes ∧
      call ∉ (first.run events).1.departed := by
    simpa [dropDeparted, departed_react] using h
  obtain ⟨hasked, huntold⟩ := pending_react hfirst hdistinct hturn
    (pending_run hfirst hbefore) hheld
  refine ⟨hasked, huntold, fun m' hm' => ?_⟩
  rcases List.mem_append.1 hm' with hold | hnow
  · exact hstays ((mem_departed_run hdeparted).2 ⟨m', hold⟩)
  · -- giving up makes no turn
    obtain ⟨-, rfl⟩ := Prod.mk.inj (List.mem_singleton.1 hnow)
    simp [turnsOn] at hturn

/-- A batch is sent when a threshold is reached, or on account of a close or of somebody who
waits. -/
theorem taken_on_account (hfirst : first.callers = []) (hdeparted : first.departed = [])
    (hdistinct : (calls (events ++ [(m, e)])).Nodup) {front back : List Batch} {batch : Batch}
    (h : submissions ((first.run events).1.step m e).2 = front ++ batch :: back) :
    ∃ force q q', q = ((first.run events).1.react m e).1.pipeline.moves
        (List.replicate front.length (.dispatch m.now force)) ∧
      q.nextBatch m.now force = some (batch, q') ∧
      (q.thresholdReached m.now ∨ first.AcceptsClose (events ++ [(m, e)]) ∨
        ∃ call, first.Waits (events ++ [(m, e)])
          ((first.run events).2 ++ ((first.run events).1.react m e).2) call) := by
  have hopen := closing_of_callers hfirst
  by_cases hturn : (first.run events).1.turnsOn e
  · obtain ⟨l, hl⟩ : ∃ k, k = ((first.run events).1.react m e).1 := ⟨_, rfl⟩
    rw [submissions_of_turnsOn hturn, ← hl] at h
    obtain ⟨q', hq'⟩ := (l.pipeline.takesAll_dispatchAll m.now l.dropDeparted.isForced).taken h
    refine ⟨_, _, q', rfl, hl ▸ hq', ?_⟩
    cases hforced : l.dropDeparted.isForced with
    | false =>
      left
      rw [hforced] at hq'
      rw [← hl, hforced]
      simpa using (Pipeline.nextBatch_eq_some_iff.1 hq').2.1
    | true =>
      right
      rcases isForced_iff.1 hforced with ⟨c, hclosing⟩ | ⟨call, hcall⟩
      · left
        exact acceptsClose_react hturn (fun c hc => acceptsClose_run hopen hc) (hl ▸ hclosing)
      · exact .inr ⟨call, waits_of_mem_dropDeparted hfirst hdeparted hdistinct hturn (hl ▸ hcall)⟩
  · rw [submissions_without_turn hturn] at h
    simp at h

/-- While somebody waits when the loop has turned, only a slot or a pause holds operations back. -/
theorem held_back_of_waits (hdeparted : first.departed = [])
    (hturn : (first.run events).1.turnsOn e)
    (h : first.Waits (events ++ [(m, e)]) (first.run (events ++ [(m, e)])).2 call) :
    let p := (first.run (events ++ [(m, e)])).1.pipeline
    p.buffer.entries = [] ∨ p.settings.maxInFlight ≤ p.inFlight.length ∨
      ∃ t, p.pausedUntil = some t ∧ m.now < t := by
  have hheld := h.mem_flushes hdeparted
  rw [run_concat, step_of_turnsOn hturn, andTurn] at hheld ⊢
  exact held_back_of_mem_flushes hheld

end EventLoop

end BulkDelivery
