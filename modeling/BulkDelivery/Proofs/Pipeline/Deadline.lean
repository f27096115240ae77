import BulkDelivery.Proofs.Pipeline.Due

/-!
# The deadline

Whether a batch is due and when to look again are computed apart from each other.  One looks at the
limits, at the age of the operation at the front and at the pause; the other adds the longest time
that an operation may wait to the time at which the front was admitted, or takes the end of the
pause.  They agree on the moment: until the deadline nothing becomes due, and at the deadline
something does.  That holds even if the operation at the front is admitted only later than now.

## Main definitions

* `Pipeline.AwaitsTime` — nothing but time keeps the operations back.

## Main results

* `Pipeline.awaitsTime_or_never` — if something else keeps the operations back, then there is no
  deadline and nothing becomes due as time goes by.
* `Pipeline.AwaitsTime.nextDeadline` — the deadline is the end of the pause, or the time at which
  the front has waited long enough.
* `Pipeline.nextBatch_of_aged_front` — what has waited too long at the front is sent.
* `Pipeline.nextDeadline_of_nextBatch_eq_none` — what could be sent and is not due has a deadline
  that lies ahead.
* `Pipeline.deadline_is_the_first_moment` — **nothing becomes due before the deadline, and at the
  deadline something does.**
-/

namespace BulkDelivery

namespace Pipeline

/-- Nothing but time keeps the operations back of which `e` is the first. -/
structure AwaitsTime (p : Pipeline) (e : Entry) : Prop where
  running : p.halt = none
  hasFreeSlot : p.hasFreeSlot
  front : p.buffer.entries.head? = some e

variable {p : Pipeline} {now t : Time} {force : Bool} {e : Entry}

/-- After a halt, if nothing waits and if no slot is free, there is no deadline, and nothing becomes
due as time goes by. -/
theorem awaitsTime_or_never (p : Pipeline) :
    (∃ e, p.AwaitsTime e) ∨
      ∀ t, p.nextDeadline t = none ∧ ∀ force, p.nextBatch t force = none := by
  by_cases hhalt : p.halt = none
  · by_cases hslot : p.hasFreeSlot
    · cases hentries : p.buffer.entries with
      | nil =>
        refine .inr fun t => ⟨?_, fun force => ?_⟩
        · simp [nextDeadline, Buffer.isEmpty, hentries]
        · simp [nextBatch, canDispatch, Buffer.isEmpty, hentries]
      | cons e rest => exact .inl ⟨e, hhalt, hslot, by rw [hentries]; rfl⟩
    · refine .inr fun t => ⟨by simp [nextDeadline, hslot], fun force => ?_⟩
      simp [nextBatch, canDispatch, hslot]
  · obtain ⟨halt, hstopped⟩ := Option.ne_none_iff_exists'.1 hhalt
    refine .inr fun t => ⟨by simp [nextDeadline, hstopped], fun force => ?_⟩
    simp [nextBatch, canDispatch, hstopped]

namespace AwaitsTime

theorem entries_ne_nil (h : p.AwaitsTime e) : p.buffer.entries ≠ [] := by
  intro hnil
  have hfront := h.front
  rw [hnil] at hfront
  cases hfront

/-- What is awaited is the end of the pause and, if sending is not forced, a threshold. -/
theorem nextBatch_isSome_iff (h : p.AwaitsTime e) :
    (p.nextBatch t force).isSome ↔ p.pauseOver t ∧ (force ∨ p.thresholdReached t) := by
  rw [Option.isSome_iff_ne_none, ne_eq, nextBatch_eq_none_iff, not_not, canDispatch_iff]
  constructor
  · rintro ⟨⟨-, -, -, hover⟩, hreached⟩
    exact ⟨hover, hreached⟩
  · rintro ⟨hover, hreached⟩
    exact ⟨⟨h.running, h.entries_ne_nil, hasFreeSlot_iff.1 h.hasFreeSlot, hover⟩, hreached⟩

/-- Of the thresholds only the age changes with time. -/
theorem thresholdReached_iff (h : p.AwaitsTime e) :
    p.thresholdReached t ↔ p.settings.maxBatchSize ≤ p.buffer.length ∨
      p.settings.maxBatchBytes ≤ p.buffer.byteTotal ∨
        p.settings.maxTimeInBuffer ≤ t - e.admittedAt := by
  simp [thresholdReached, Buffer.frontAdmittedAt?, h.front, or_assoc]

/-- The deadline is the end of the pause, or if the pause is over the time at which the front has
waited long enough. -/
theorem nextDeadline (h : p.AwaitsTime e) (now : Time) :
    (∃ u, p.pausedUntil = some u ∧ now < u ∧ p.nextDeadline now = some u) ∨
      (p.pauseOver now ∧
        p.nextDeadline now = some (e.admittedAt + p.settings.maxTimeInBuffer)) := by
  have hopen : (p.halt.isSome || p.buffer.isEmpty || !p.hasFreeSlot) = false := by
    simpa [h.running, h.hasFreeSlot, Buffer.isEmpty] using h.entries_ne_nil
  have haged : p.buffer.frontAdmittedAt?.map (· + p.settings.maxTimeInBuffer) =
      some (e.admittedAt + p.settings.maxTimeInBuffer) := by
    rw [Buffer.frontAdmittedAt?, h.front]
    rfl
  simp only [Pipeline.nextDeadline, hopen, haged, Bool.false_eq_true, if_false]
  cases hpause : p.pausedUntil with
  | none => exact .inr ⟨by simp [pauseOver, hpause], rfl⟩
  | some u =>
    by_cases hlt : now < u
    · exact .inl ⟨u, rfl, hlt, if_pos hlt⟩
    · exact .inr ⟨by simpa [pauseOver, hpause] using hlt, if_neg hlt⟩

/-- What has waited for less than a limit does so until the limit is reached, even if it begins to
wait only later than now. -/
theorem sub_lt_iff_lt_add {limit start t : Nat} (hpos : 0 < limit) :
    t - start < limit ↔ t < start + limit := by
  omega

/-- At the latest when the front has waited long enough a batch is due, unless there is a pause. -/
theorem nextBatch_isSome_of_aged (h : p.AwaitsTime e) (hover : p.pauseOver t)
    (haged : p.settings.maxTimeInBuffer ≤ t - e.admittedAt) : (p.nextBatch t false).isSome := by
  refine h.nextBatch_isSome_iff.2 ⟨hover, .inr ?_⟩
  rw [h.thresholdReached_iff]
  exact .inr (.inr haged)

/-- If only a threshold is missing, it is missing until the front has waited long enough. -/
theorem nextBatch_eq_none_of_young (h : p.AwaitsTime e) (hnone : p.nextBatch now force = none)
    (hover : p.pauseOver now) :
    now < e.admittedAt + p.settings.maxTimeInBuffer ∧
      ∀ t < e.admittedAt + p.settings.maxTimeInBuffer, p.nextBatch t force = none := by
  have hmissing : ¬(force ∨ p.thresholdReached now) := by
    intro hreached
    have hsome := h.nextBatch_isSome_iff.2 ⟨hover, hreached⟩
    rw [hnone] at hsome
    cases hsome
  simp only [h.thresholdReached_iff, not_or, Nat.not_le] at hmissing
  obtain ⟨hfree, hcount, hbytes, hyoung⟩ := hmissing
  have hlimit : 0 < p.settings.maxTimeInBuffer := Nat.zero_lt_of_lt hyoung
  refine ⟨(sub_lt_iff_lt_add hlimit).1 hyoung, ?_⟩
  intro t ht
  rw [← Option.not_isSome_iff_eq_none, h.nextBatch_isSome_iff, h.thresholdReached_iff]
  rintro ⟨-, hforced | hfull | hheavy | hold⟩
  · exact hfree hforced
  · exact Nat.not_le.2 hcount hfull
  · exact Nat.not_le.2 hbytes hheavy
  · exact Nat.not_le.2 ((sub_lt_iff_lt_add hlimit).2 ht) hold

end AwaitsTime

/-- What has waited too long at the front is sent as soon as a slot is free and no pause holds. -/
theorem nextBatch_of_aged_front {rest : List Entry} (hrun : p.halt = none) (hslot : p.hasFreeSlot)
    (hpause : p.pauseOver now) (hfront : p.buffer.entries = e :: rest)
    (haged : p.settings.maxTimeInBuffer ≤ now - e.admittedAt) :
    (p.nextBatch now false).isSome := by
  have hawaits : p.AwaitsTime e := ⟨hrun, hslot, by rw [hfront]; rfl⟩
  exact hawaits.nextBatch_isSome_of_aged hpause haged

/-- What could be sent and is not due has a deadline that lies ahead, be sending forced or not. -/
theorem nextDeadline_of_nextBatch_eq_none (hnone : p.nextBatch now force = none)
    (hrun : p.halt = none) (hwaits : p.buffer.isEmpty = false) (hfree : p.hasFreeSlot) :
    ∃ d, p.nextDeadline now = some d ∧ now < d := by
  obtain ⟨e, rest, hfront⟩ : ∃ e rest, p.buffer.entries = e :: rest :=
    List.exists_cons_of_ne_nil (by simpa [Buffer.isEmpty] using hwaits)
  have hawaits : p.AwaitsTime e := ⟨hrun, hfree, by rw [hfront]; rfl⟩
  rcases hawaits.nextDeadline now with ⟨u, -, hlt, hdeadline⟩ | ⟨hover, hdeadline⟩
  · exact ⟨u, hdeadline, hlt⟩
  · exact ⟨_, hdeadline, (hawaits.nextBatch_eq_none_of_young hnone hover).1⟩

/-- **Nothing becomes due before the deadline, and at the deadline something does.**

Whatever a pipeline holds, let no batch be due now, be sending forced or not.  There is no deadline
if and only if nothing ever becomes due while the pipeline stays as it is, forced or not.  If there
is one, then it lies ahead, and from now until the deadline nothing is due.  At the deadline a batch
is due if there is no pause now; and if there is one, then a batch is due if sending is forced. -/
theorem deadline_is_the_first_moment (p : Pipeline) (now : Time) (force : Bool)
    (hnone : p.nextBatch now force = none) :
    (p.nextDeadline now = none ↔ ∀ t force', p.nextBatch t force' = none) ∧
    ∀ d, p.nextDeadline now = some d →
      now < d ∧ (∀ t, now ≤ t → t < d → p.nextBatch t force = none) ∧
      ((∀ u, p.pausedUntil = some u → u ≤ now) → (p.nextBatch d false).isSome) ∧
      ((∃ u, p.pausedUntil = some u ∧ now < u) → (p.nextBatch d true).isSome) := by
  rcases p.awaitsTime_or_never with ⟨e, hawaits⟩ | hnever
  · rcases hawaits.nextDeadline now with ⟨u, hpause, hlt, hdeadline⟩ | ⟨hover, hdeadline⟩
    · -- the pause holds everything back until its end
      have hforced : (p.nextBatch u true).isSome := by
        refine hawaits.nextBatch_isSome_iff.2 ⟨?_, .inl rfl⟩
        by_contra hstill
        exact Nat.lt_irrefl u ((not_pauseOver hpause).1 hstill)
      rw [hdeadline]
      refine ⟨iff_of_false (Option.some_ne_none u) ?_, ?_⟩
      · intro hnever
        exact Option.isSome_iff_ne_none.1 hforced (hnever u true)
      · rintro d ⟨⟩
        refine ⟨hlt, ?_, ?_, fun _ => hforced⟩
        · intro t _ ht
          exact nextBatch_eq_none_of_paused ((not_pauseOver hpause).2 ht)
        · intro hends
          exact absurd hlt (Nat.not_lt.2 (hends u hpause))
    · -- no threshold is reached, and time only changes the age of the front
      obtain ⟨hlt, hbefore⟩ := hawaits.nextBatch_eq_none_of_young hnone hover
      have hstill : p.pauseOver (e.admittedAt + p.settings.maxTimeInBuffer) :=
        pauseOver_of_le hover (Nat.le_of_lt hlt)
      have haged := hawaits.nextBatch_isSome_of_aged hstill (Nat.le_sub_of_add_le' (Nat.le_refl _))
      rw [hdeadline]
      refine ⟨iff_of_false (Option.some_ne_none _) ?_, ?_⟩
      · intro hnever
        exact Option.isSome_iff_ne_none.1 haged (hnever _ false)
      · rintro d ⟨⟩
        refine ⟨hlt, fun t _ => hbefore t, fun _ => haged, ?_⟩
        rintro ⟨u, hpause, hahead⟩
        exact absurd hover ((not_pauseOver hpause).2 hahead)
  · refine ⟨iff_of_true (hnever now).1 fun t => (hnever t).2, ?_⟩
    intro d hdeadline
    rw [(hnever now).1] at hdeadline
    cases hdeadline

/-- An operation is admitted at 60, its request fails, and it is put back.  At 65 there is a pause,
and forced or not nothing is sent before 70.  Another pipeline is looked at before its operation is
admitted, and the operation is sent when it has waited for 100. -/
theorem deadline_is_the_first_moment_paused_and_early :
    let slow : TransportFailure := { kind := .timeout, message := "slow" }
    let start := restore { settings := .testing } [] 0
    let early := start.moves [.accept (.delete "a") 60]
    let paused := early.moves [
      .dispatch 60 true, .resolve 0 (.failed slow) 60 elasticsearch.classify]
    (paused.nextBatch 65 true = none ∧ paused.nextDeadline 65 = some 70 ∧
      (∀ t, 65 ≤ t → t < 70 → paused.nextBatch t true = none) ∧
      (paused.nextBatch 70 true).isSome ∧ paused.nextBatch 70 false = none) ∧
    (early.nextBatch 5 false = none ∧ early.nextDeadline 5 = some 160 ∧
      (∀ t, 5 ≤ t → t < 160 → early.nextBatch t false = none) ∧
      (early.nextBatch 160 false).isSome) := by
  intro slow start early paused
  have hpaused : paused.nextBatch 65 true = none := by decide +kernel
  have hearly : early.nextBatch 5 false = none := by decide +kernel
  have hend : paused.nextDeadline 65 = some 70 := by decide +kernel
  have haged : early.nextDeadline 5 = some 160 := by decide +kernel
  obtain ⟨-, hbefore, -, hforced⟩ := (deadline_is_the_first_moment paused 65 true hpaused).2 70 hend
  obtain ⟨-, hyoung, hold, -⟩ := (deadline_is_the_first_moment early 5 false hearly).2 160 haged
  have hpause : ∃ u, paused.pausedUntil = some u ∧ 65 < u := ⟨70, by decide +kernel, by decide⟩
  have hnever : ∀ u, early.pausedUntil = some u → u ≤ 5 := by
    intro u hu
    cases hu
  exact ⟨⟨hpaused, hend, hbefore, hforced hpause, by decide +kernel⟩,
    hearly, haged, hyoung, hold hnever⟩

end Pipeline

end BulkDelivery
