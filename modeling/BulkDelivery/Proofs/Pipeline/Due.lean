import BulkDelivery.Proofs.Pipeline.Journal

/-!
# Batches that are due

A pipeline that is asked for batches until it has none to give leaves nothing that is due.  What
waits then waits for something: for a free slot, for the end of the pause, or, if sending is not
forced, for a threshold.

## Main definitions

* `Pipeline.TakesAll` — batches are taken until none is due.

## Main results

* `Pipeline.settings_moves` — the limits stay as they are.
* `Pipeline.nextBatch_eq_none_iff`, `Pipeline.canDispatch_iff` — when no batch is due.
* `Pipeline.takesAll_dispatchAll` — taking batches until none is due comes to an end.
* `Pipeline.nextBatch_dispatchAll` — taking every batch that is due leaves none.
-/

namespace BulkDelivery

namespace Pipeline

variable {p r : Pipeline} {now later : Time} {force : Bool} {batches : List Batch}

/-! ### The limits stay as they are -/

theorem settings_move (p : Pipeline) (m : Move) : (p.move m).settings = p.settings := by
  cases m with
  | accept o now =>
    rw [move]
    cases haccept : p.accept o now with
    | error e => rfl
    | ok q =>
      obtain ⟨-, -, -, rfl⟩ := accept_eq_ok_iff.1 haccept
      rfl
  | dispatch now force =>
    rw [move]
    cases hnext : p.nextBatch now force with
    | none => rfl
    | some taken =>
      obtain ⟨-, -, entries, buffer, -, -, hq⟩ := nextBatch_eq_some_iff.1 hnext
      rw [Option.map_some, Option.getD_some, hq]
  | resolve id outcome now classify => exact resolve_keeps.1

theorem settings_moves (p : Pipeline) (ms : List Move) : (p.moves ms).settings = p.settings := by
  induction ms generalizing p with
  | nil => rfl
  | cons m ms ih => rw [moves_cons, ih, settings_move]

/-! ### When a batch is sent -/

theorem nextBatch_eq_none_iff :
    p.nextBatch now force = none ↔ ¬(p.canDispatch now ∧ (force ∨ p.thresholdReached now)) := by
  rw [nextBatch]
  by_cases h : p.canDispatch now ∧ (force ∨ p.thresholdReached now)
  · simp [h]
  · simp [h]

theorem hasFreeSlot_iff : p.hasFreeSlot ↔ p.inFlight.length < p.settings.maxInFlight := by
  simp [hasFreeSlot]

/-- A batch may be sent if there is no halt, something waits, a slot is free and there is no
pause. -/
theorem canDispatch_iff :
    p.canDispatch now ↔ p.halt = none ∧ p.buffer.entries ≠ [] ∧
      p.inFlight.length < p.settings.maxInFlight ∧ p.pauseOver now := by
  simp [canDispatch, Buffer.isEmpty, hasFreeSlot, and_assoc]

theorem pauseOver_iff : p.pauseOver now ↔ ∀ t, p.pausedUntil = some t → t ≤ now := by
  cases hpause : p.pausedUntil with
  | none => simp [pauseOver, hpause]
  | some u => simp [pauseOver, hpause]

/-- A pause that is over stays over. -/
theorem pauseOver_of_le (h : p.pauseOver now) (hle : now ≤ later) : p.pauseOver later :=
  pauseOver_iff.2 fun t ht => Nat.le_trans (pauseOver_iff.1 h t ht) hle

theorem not_pauseOver {t : Time} (h : p.pausedUntil = some t) : ¬p.pauseOver now ↔ now < t := by
  simp [pauseOver, h]

theorem nextBatch_eq_none_of_paused (h : ¬p.pauseOver now) : p.nextBatch now force = none := by
  rw [nextBatch_eq_none_iff]
  rintro ⟨hcan, -⟩
  exact h (canDispatch_iff.1 hcan).2.2.2

theorem nextBatch_eq_none_of_full (h : p.settings.maxInFlight ≤ p.inFlight.length) :
    p.nextBatch now force = none := by
  rw [nextBatch_eq_none_iff, canDispatch]
  have hfull : p.hasFreeSlot = false := by simpa [hasFreeSlot] using h
  simp [hfull]

/-! ### Sending until nothing is due -/

/-- Batches are taken one after the other until none is due. -/
inductive TakesAll (now : Time) (force : Bool) : Pipeline → List Batch → Pipeline → Prop
  /-- No batch is due. -/
  | done {p : Pipeline} (hnone : p.nextBatch now force = none) : TakesAll now force p [] p
  /-- A batch is taken, and then further ones. -/
  | next {p q r : Pipeline} {batch : Batch} {batches : List Batch}
    (htaken : p.nextBatch now force = some (batch, q)) (hrest : TakesAll now force q batches r) :
    TakesAll now force p (batch :: batches) r

/-- Which batches are taken is determined. -/
theorem TakesAll.unique {batches' : List Batch} {r' : Pipeline}
    (h : TakesAll now force p batches r) (h' : TakesAll now force p batches' r') :
    batches' = batches ∧ r' = r := by
  induction h generalizing batches' with
  | done hnone =>
    cases h' with
    | done => exact ⟨rfl, rfl⟩
    | next htaken => simp [hnone] at htaken
  | next htaken _ ih =>
    cases h' with
    | done hnone => simp [hnone] at htaken
    | next htaken' hrest' =>
      rw [htaken, Option.some.injEq, Prod.mk.injEq] at htaken'
      obtain ⟨rfl, rfl⟩ := htaken'
      obtain ⟨rfl, rfl⟩ := ih hrest'
      exact ⟨rfl, rfl⟩

theorem TakesAll.nextBatch_eq_none (h : TakesAll now force p batches r) :
    r.nextBatch now force = none := by
  induction h with
  | done hnone => exact hnone
  | next _ _ ih => exact ih

/-- Every batch takes a slot, so with fuel for every free slot the end is reached. -/
theorem takesAll_dispatchUpTo {n : Nat}
    (hslots : p.settings.maxInFlight ≤ p.inFlight.length + n) :
    TakesAll now force p (dispatchUpTo n p now force).1 (dispatchUpTo n p now force).2 := by
  induction n generalizing p with
  | zero => exact .done (nextBatch_eq_none_of_full hslots)
  | succ n ih =>
    rw [dispatchUpTo]
    cases hnext : p.nextBatch now force with
    | none => exact .done hnext
    | some taken =>
      obtain ⟨batch, q⟩ := taken
      -- every batch takes a slot, so one fewer is left
      obtain ⟨-, -, entries, buffer, -, -, hq⟩ := nextBatch_eq_some_iff.1 hnext
      have hlimits : q.settings = p.settings := by rw [hq]
      have hlength : q.inFlight.length = p.inFlight.length + 1 := by
        rw [hq, List.length_append, List.length_singleton]
      refine .next hnext (ih ?_)
      rw [hlimits, hlength]
      omega

/-- Taking batches until none is due comes to an end. -/
theorem takesAll_dispatchAll (p : Pipeline) (now : Time) (force : Bool) :
    TakesAll now force p (p.dispatchAll now force).1 (p.dispatchAll now force).2 := by
  refine takesAll_dispatchUpTo ?_
  omega

/-- **Taking every batch that is due leaves none that is due.** -/
theorem nextBatch_dispatchAll : (p.dispatchAll now force).2.nextBatch now force = none :=
  (p.takesAll_dispatchAll now force).nextBatch_eq_none

end Pipeline

end BulkDelivery
