import BulkDelivery.Proofs.Pipeline.Deadline
import BulkDelivery.Proofs.Pipeline.Overtaking
import BulkDelivery.Proofs.Pipeline.SingleSlot

/-!
# Operations that have waited too long

A batch is due when the operation at the front has waited for the longest time that is allowed.  An
older one further back does not count.  There hardly ever is one: the front is younger only if it
has overtaken.  Then the older one waits on, but no longer than until the front has waited long
enough itself.

## Main results

* `Journal.Faithful.snd_lt_of_admittedAt_lt` — what was admitted later has a larger number.
* `Journal.aged_is_due_unless_overtaken` — **what has waited too long is sent, unless a younger one
  has overtaken it and stands at the front.**
-/

namespace BulkDelivery

namespace Journal

variable {j : Journal} {x y : Occurrence}

/-- What was admitted later has a larger number. -/
theorem Faithful.snd_lt_of_admittedAt_lt (h : j.Faithful)
    (hordered : j.arrivals.Pairwise fun e f => e.admittedAt ≤ f.admittedAt)
    (hx : x ∈ j.waiting) (hy : y ∈ j.waiting) (hlt : x.1.admittedAt < y.1.admittedAt) :
    x.2 < y.2 := by
  have hplace : ∀ z ∈ j.waiting, j.arrivals[z.2]? = some z.1 :=
    fun z hz => List.mem_zipIdx_iff_getElem?.1 (h.mem_zipIdx_of_waiting hz)
  obtain ⟨hxlen, hxat⟩ := List.getElem?_eq_some_iff.1 (hplace x hx)
  obtain ⟨hylen, hyat⟩ := List.getElem?_eq_some_iff.1 (hplace y hy)
  by_contra hnot
  rcases Nat.lt_or_eq_of_le (Nat.not_lt.1 hnot) with hbefore | hsame
  · have hle := List.pairwise_iff_getElem.1 hordered y.2 x.2 hylen hxlen hbefore
    rw [hxat, hyat] at hle
    exact absurd hlt (Nat.not_lt.2 hle)
  · have heq : y.1 = x.1 := by
      rw [← hyat, ← hxat]
      congr 1
    rw [heq] at hlt
    exact Nat.lt_irrefl _ hlt

/-- **What has waited too long is sent, unless a younger one has overtaken it and stands at the
front.**

A new pipeline takes over the operations of checkpoints, and then any calls follow in the order of
their times, with any outcomes.  Without a halt or a pause and with a free slot, an operation that
has waited for the longest time allowed, wherever it stands, makes a batch due.  There is one
exception: the operation at the front was admitted later, has not waited so long, and has overtaken
it.  Then a batch is due, at the latest, when the operation at the front has waited long enough. -/
theorem aged_is_due_unless_overtaken (settings : Settings) (checkpoints : List Checkpoint)
    (opened : Time) (ms : List Move) (now : Time)
    (htimes : (opened :: ms.map Move.now).Pairwise (· ≤ ·)) :
    let start := opening settings checkpoints opened
    let j := start.run ms
    (j.Faithful ∧ j.pipeline = start.pipeline.moves ms ∧
      j.pipeline.buffer.entries = j.waiting.map Prod.fst) ∧
    (j.pipeline.halt = none → j.pipeline.hasFreeSlot → j.pipeline.pauseOver now →
      ∀ x ∈ j.waiting, settings.maxTimeInBuffer ≤ now - x.1.admittedAt →
        (j.pipeline.nextBatch now false).isSome ∨
        ∃ y rest, j.waiting = y :: rest ∧ x ∈ rest ∧ x.1.admittedAt < y.1.admittedAt ∧
          now - y.1.admittedAt < settings.maxTimeInBuffer ∧ start.Overtakes ms y x ∧
          ∀ later, y.1.admittedAt + settings.maxTimeInBuffer ≤ later →
            (j.pipeline.nextBatch later false).isSome) := by
  intro start j
  have hj : j.Faithful := faithful_run settings checkpoints opened ms
  have hpipeline : j.pipeline = start.pipeline.moves ms := pipeline_run start ms
  refine ⟨⟨hj, hpipeline, hj.waiting.symm⟩, ?_⟩
  intro hrun hslot hpause x hx haged
  have hsettings : j.pipeline.settings = settings := by
    rw [hpipeline, Pipeline.settings_moves]
    rfl
  -- what waits has a front, and it is looked at
  obtain ⟨y, rest, hwaiting⟩ := List.exists_cons_of_ne_nil (List.ne_nil_of_mem hx)
  have hfront : j.pipeline.buffer.entries = y.1 :: rest.map Prod.fst := by
    rw [← hj.waiting, hwaiting, List.map_cons]
  have hdue : ∀ later, now ≤ later → settings.maxTimeInBuffer ≤ later - y.1.admittedAt →
      (j.pipeline.nextBatch later false).isSome := by
    intro later hle hold
    rw [← hsettings] at hold
    exact Pipeline.nextBatch_of_aged_front hrun hslot (Pipeline.pauseOver_of_le hpause hle) hfront
      hold
  by_cases hold : settings.maxTimeInBuffer ≤ now - y.1.admittedAt
  · exact .inl (hdue now (Nat.le_refl now) hold)
  · have hyounger : x.1.admittedAt < y.1.admittedAt := by
      by_contra hnot
      exact hold (Nat.le_trans haged (Nat.sub_le_sub_left (Nat.not_lt.1 hnot) now))
    have hordered := (dated_opening settings checkpoints opened).run htimes
    have hy : y ∈ j.waiting := by
      rw [hwaiting]
      exact List.mem_cons_self
    have hlt : x.2 < y.2 := hj.snd_lt_of_admittedAt_lt hordered hx hy hyounger
    have hbehind : x ∈ rest := by
      rw [hwaiting, List.mem_cons] at hx
      refine hx.resolve_left ?_
      rintro rfl
      exact Nat.lt_irrefl _ hlt
    have hpair : [y, x].Sublist j.waiting := by
      rw [hwaiting]
      exact (List.singleton_sublist.2 hbehind).cons_cons y
    have hovertakes : start.Overtakes ms y x :=
      (explained_run settings checkpoints opened hlt ms).waiting hpair
    refine .inr ⟨y, rest, hwaiting, hbehind, hyounger, Nat.not_le.1 hold, hovertakes, ?_⟩
    intro later hlater
    have hnow : now ≤ y.1.admittedAt + settings.maxTimeInBuffer :=
      Nat.sub_le_iff_le_add'.1 (Nat.le_of_not_le hold)
    exact hdue later (Nat.le_trans hnow hlater) (Nat.le_sub_of_add_le' hlater)

/-- Two batches with one operation each fail, the older one first.  The older operation has waited
long enough and the younger one at the front has not, so nothing is due. -/
theorem aged_behind_younger :
    let slow : TransportFailure := { kind := .timeout, message := "slow" }
    let moves : List Move := [
      .accept (.delete "a") 0, .dispatch 0 true, .accept (.delete "b") 60, .dispatch 60 true,
      .resolve 0 (.failed slow) 70 elasticsearch.classify,
      .resolve 1 (.failed slow) 71 elasticsearch.classify]
    let p := (Pipeline.restore { settings := .testing } [] 0).moves moves
    Settings.testing.validate = .ok () ∧ (0 :: moves.map Move.now ++ [100]).Pairwise (· ≤ ·) ∧
      p.halt = none ∧ p.hasFreeSlot ∧ p.pauseOver 100 ∧
      (∃ e ∈ p.buffer.entries, (∀ f ∈ p.buffer.entries, e.admittedAt ≤ f.admittedAt) ∧
        Settings.testing.maxTimeInBuffer ≤ 100 - e.admittedAt) ∧
      p.nextBatch 100 false = none := by
  decide +kernel

/-- Both batches fail, in either order.  If the younger one fails first, then the older operation is
sent when it has waited long enough; otherwise it is sent when the younger one has. -/
theorem aged_is_due_unless_overtaken_after_two_failures :
    let slow : TransportFailure := { kind := .timeout, message := "slow" }
    let moves (first second : BatchId) : List Move := [
      .accept (.delete "a") 0, .dispatch 0 true, .accept (.delete "b") 60, .dispatch 60 true,
      .resolve first (.failed slow) 70 elasticsearch.classify,
      .resolve second (.failed slow) 71 elasticsearch.classify]
    let start := opening .testing [] 0
    let older : Occurrence := (Entry.of (.delete "a") 0, 0)
    let younger : Occurrence := (Entry.of (.delete "b") 60, 1)
    let p := (start.run (moves 1 0)).pipeline
    let q := (start.run (moves 0 1)).pipeline
    ((0 :: (moves 1 0).map Move.now).Pairwise (· ≤ ·) ∧
      (0 :: (moves 0 1).map Move.now).Pairwise (· ≤ ·)) ∧
    (p.buffer.operations = [.delete "a", .delete "b"] ∧ (p.nextBatch 100 false).isSome) ∧
    (q.buffer.operations = [.delete "b", .delete "a"] ∧ q.nextBatch 100 false = none ∧
      start.Overtakes (moves 0 1) younger older ∧ (q.nextBatch 160 false).isSome) := by
  intro slow moves start older younger p q
  have hinner : (0 :: (moves 1 0).map Move.now).Pairwise (· ≤ ·) := by decide
  have houter : (0 :: (moves 0 1).map Move.now).Pairwise (· ≤ ·) := by decide
  have hp : (start.run (moves 1 0)).waiting = [older, younger] := by decide +kernel
  have hq : (start.run (moves 0 1)).waiting = [younger, older] := by decide +kernel
  have hnone : q.nextBatch 100 false = none := by decide +kernel
  obtain ⟨-, hdue⟩ := aged_is_due_unless_overtaken .testing [] 0 (moves 1 0) 100 hinner
  obtain ⟨-, hwait⟩ := aged_is_due_unless_overtaken .testing [] 0 (moves 0 1) 100 houter
  refine ⟨⟨hinner, houter⟩, ⟨by decide +kernel, ?_⟩, by decide +kernel, hnone, ?_⟩
  · rcases hdue (by decide +kernel) (by decide +kernel) (by decide +kernel) older
      (hp ▸ List.mem_cons_self) (by decide) with hsome | ⟨y, rest, hfront, -, hyounger, -⟩
    · exact hsome
    · -- the front is the older one
      obtain ⟨rfl, -⟩ := List.cons.inj (hp.symm.trans hfront)
      exact absurd hyounger (Nat.lt_irrefl _)
  · rcases hwait (by decide +kernel) (by decide +kernel) (by decide +kernel) older
      (hq ▸ List.mem_cons_of_mem _ List.mem_cons_self) (by decide) with
      hsome | ⟨y, rest, hfront, -, -, -, hovertakes, hlater⟩
    · rw [hnone] at hsome
      cases hsome
    · obtain ⟨rfl, -⟩ := List.cons.inj (hq.symm.trans hfront)
      exact ⟨hovertakes, hlater 160 (by decide)⟩

end Journal

end BulkDelivery
