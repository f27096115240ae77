import BulkDelivery.Proofs.Session.Chronicle

/-!
# Only callers who wait force a batch

Every run of a loop is told by a chronicle, so what forces a batch can be read off there, and what a
chronicle says about a flush is what the caller in the session knows.

## Main results

* `EventLoop.only_live_callers_force` — **a batch is sent early only on account of a close or of a
  flush that has not returned.**
-/

namespace BulkDelivery

namespace EventLoop

namespace Chronicle

variable {c : Chronicle} {m : Moment} {e : Event} {call : CallId}

/-- Who waits has asked and has not returned. -/
theorem waits_iff_not_returned : c.first.Waits c.events c.told call ↔
    c.first.AsksFlush c.events call ∧ ¬c.Returned call := by
  rw [Returned, not_or, not_exists, Departed, not_exists]
  exact ⟨fun h => ⟨h.asked, h.untold, h.stays⟩, fun h => ⟨h.1, h.2.1, h.2.2⟩⟩

end Chronicle

/-- **Only a flush that has not returned, or a close, makes a loop send early.**

Take any chronicle of a loop, in which each call has its own number, and any event after it.  When
a batch is sent, a threshold is reached then, or a close was accepted, or the caller of a flush that
was taken has neither been told anything nor given up.  As long as there is such a caller when the
loop has turned, operations stay in the buffer only because no slot is free or because of a pause.
The batches of the first turn have all reached a threshold.

In any session every loop has such a chronicle.  A flush of the session that a running loop took
waits there exactly as long as it has no answer: once it has returned, with success, because
delivery has ended or because its time was up, it is none of those that force anything. -/
theorem only_live_callers_force :
    (∀ (c : Chronicle) (m : Moment) (e : Event), (c.snoc m e).calls.Nodup →
      let next := c.snoc m e
      (∀ (front back : List Batch) (batch : Batch),
        submissions (c.loop.step m e).2 = front ++ batch :: back →
        ∃ force q q', q = (c.loop.react m e).1.pipeline.moves
            (List.replicate front.length (.dispatch m.now force)) ∧
          q.nextBatch m.now force = some (batch, q') ∧
          (q.thresholdReached m.now ∨ c.first.AcceptsClose next.events ∨
            ∃ call, c.first.Waits next.events (c.told ++ (c.loop.react m e).2) call)) ∧
      (c.loop.turnsOn e → ∀ call, c.first.Waits next.events next.told call →
        let p := next.loop.pipeline
        p.buffer.entries = [] ∨ p.settings.maxInFlight ≤ p.inFlight.length ∨
          ∃ t, p.pausedUntil = some t ∧ m.now < t)) ∧
    (∀ (c : Chronicle) (front back : List Batch) (batch : Batch),
      let p := Pipeline.restore { settings := c.settings } c.checkpoints c.openedAt
      submissions (start p c.startedAt).2 = front ++ batch :: back →
      ∃ q q', q = p.moves (List.replicate front.length (.dispatch c.startedAt false)) ∧
        q.nextBatch c.startedAt false = some (batch, q') ∧ q.thresholdReached c.startedAt) ∧
    (∀ (actions : List Session.Action) (i : Nat) (l : EventLoop),
      let s := Session.after actions
      s.loopAt i = some l → ∃ c : Chronicle, l = c.loop ∧ c.calls.Nodup ∧
        ∀ call ∈ s.calls, call.waiting = .flush →
          (c.first.Waits c.events c.told call.id ↔
            c.first.AsksFlush c.events call.id ∧ call.answer = none)) := by
  refine ⟨?_, ?_, ?_⟩
  · intro c m e hdistinct next
    constructor
    · intro front back batch hbatch
      exact taken_on_account (callers_opened ..) (departed_opened ..) hdistinct hbatch
    · intro hturn call hwaits
      exact held_back_of_waits (departed_opened ..) hturn hwaits
  · intro c front back batch p hbatch
    obtain ⟨q', hq'⟩ := taken_at_start hbatch
    exact ⟨_, q', rfl, hq', by simpa using (Pipeline.nextBatch_eq_some_iff.1 hq').2.1⟩
  · intro actions i l s hl
    obtain ⟨c, hc, hattests⟩ := (Session.chronicled_after actions).attested i l hl
    refine ⟨c, hc, hattests.distinct, fun call hcall hflush => ?_⟩
    rw [Chronicle.waits_iff_not_returned]
    refine and_congr_right fun hasked => ?_
    rw [← (hattests.known call hcall hasked.mem_calls).2 hflush, Option.isSome_iff_ne_none, not_not]

/-- What was restored is old enough to be sent at once.  A flush gives up while the only slot is
taken, and then it forces nothing.  The next flush forces a batch, and while it waits, a later write
is held back because the slot is taken again.  In a session a flush in the background waits after
another one has given up. -/
theorem only_live_callers_force_after_timeout :
    let moment (now : Time) : Moment := { now, classify := elasticsearch.classify }
    let c : Chronicle := {
      settings := { Settings.testing with maxInFlight := 1 }
      checkpoints := [{ operations := [.delete "r"] }], openedAt := 0, startedAt := 100
      events := [
        (moment 101, .request 0 (.write (.delete "a"))), (moment 101, .request 1 .flush),
        (moment 102, .depart 1), (moment 103, .post 0 (.answered (.success 1 ⟨5⟩))),
        (moment 103, .take)] }
    let again : Event := .request 2 .flush
    let next := c.snoc (moment 104) again
    let more : Event := .request 3 (.write (.delete "b"))
    let later := next.snoc (moment 105) more
    let p := Pipeline.restore { settings := c.settings } c.checkpoints c.openedAt
    let actions : List Session.Action := [
      .openWriter { settings := .testing } none false, .changeStore ({ · with latency := 60000 }),
      .write { operation := .delete "a" }, .flush, .write { operation := .delete "b" },
      .flushInBackground "again"]
    p.thresholdReached 100 ∧
      c.loop.pipeline.buffer.entries.length = 1 ∧ c.loop.pipeline.inFlight = [] ∧
      c.first.Waits next.events (c.told ++ (c.loop.react (moment 104) again).2) 2 ∧
      later.loop.pipeline.buffer.entries.length = 1 ∧
      later.loop.pipeline.settings.maxInFlight ≤ later.loop.pipeline.inFlight.length ∧
      ∃ c' : Chronicle, (Session.after actions).loopAt 0 = some c'.loop ∧
        c'.first.Waits c'.events c'.told 3 := by
  intro moment c again next more later p actions
  refine ⟨?_, by decide +kernel, by decide +kernel, ?_, by decide +kernel, ?_, ?_⟩
  · have hsent : (submissions (start p 100).2).length = 1 := by decide +kernel
    obtain ⟨batch, hbatch⟩ := List.length_eq_one_iff.1 hsent
    obtain ⟨q, -, hq, -, hreached⟩ := only_live_callers_force.2.1 c [] [] batch hbatch
    rw [hq, List.length_nil, List.replicate_zero, Pipeline.moves_nil] at hreached
    exact hreached
  · have hsent : (submissions (c.loop.step (moment 104) again).2).length = 1 := by decide +kernel
    obtain ⟨batch, hbatch⟩ := List.length_eq_one_iff.1 hsent
    have haccount := (only_live_callers_force.1 c (moment 104) again (by decide +kernel)).1
      [] [] batch hbatch
    obtain ⟨force, q, -, hq, -, hreached | hclosed | ⟨call, hcall⟩⟩ := haccount
    · have hunreached : ¬(c.loop.react (moment 104) again).1.pipeline.thresholdReached 104 := by
        decide +kernel
      rw [hq, List.length_nil, List.replicate_zero, Pipeline.moves_nil] at hreached
      exact absurd hreached hunreached
    · obtain ⟨m, id, hid⟩ := hclosed.exists_mem
      simp [Chronicle.snoc, c, again] at hid
    · obtain ⟨m, hm⟩ := hcall.asked.exists_mem
      have hcases : m = moment 101 ∧ call = 1 ∨ m = moment 104 ∧ call = 2 := by
        simpa [Chronicle.snoc, c, again] using hm
      rcases hcases with ⟨-, rfl⟩ | ⟨-, rfl⟩
      · exact absurd (by simp [Chronicle.snoc, c]) (hcall.stays (moment 102))
      · exact hcall
  · have hdistinct : later.calls.Nodup := by decide +kernel
    have hwaits : next.first.Waits later.events later.told 2 :=
      (waits_iff (callers_opened ..) (departed_opened ..) hdistinct).2
        ⟨by decide +kernel, by decide +kernel⟩
    have hback := (only_live_callers_force.1 next (moment 105) more hdistinct).2
      (by decide +kernel) 2 hwaits
    have hlater : next.snoc (moment 105) more = later := rfl
    have hheld : later.loop.pipeline.buffer.entries ≠ [] := by decide +kernel
    have hnone : later.loop.pipeline.pausedUntil = none := by decide +kernel
    rw [hlater] at hback
    refine (hback.resolve_left hheld).resolve_right ?_
    rintro ⟨t, ht, -⟩
    cases hnone.symm.trans ht
  · obtain ⟨l, hl⟩ : ∃ l, (Session.after actions).loopAt 0 = some l :=
      Option.isSome_iff_exists.1 (by decide +kernel)
    obtain ⟨call, hcall, hid, hflush, hanswer⟩ : ∃ call ∈ (Session.after actions).calls,
        call.id = 3 ∧ call.waiting = .flush ∧ call.answer = none := by decide +kernel
    have hheld : ((Session.after actions).loopAt 0).any (·.flushes.contains call.id) := by
      rw [hid]
      decide +kernel
    have hchronicle := only_live_callers_force.2.2 actions 0 l hl
    obtain ⟨c', rfl, hdistinct, hknown⟩ := hchronicle
    rw [hl, Option.any_some, List.contains_iff_mem] at hheld
    rw [← hid]
    refine ⟨c', hl, (hknown call hcall hflush).2 ⟨?_, hanswer⟩⟩
    exact (pending_run (callers_opened ..) hdistinct hheld).1

end EventLoop

end BulkDelivery
