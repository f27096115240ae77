import BulkDelivery.Proofs.Pipeline.Limits
import Mathlib.Data.List.Induction

/-!
# The pause after a failure

One time stands for the pauses of all batches that came back: whatever puts operations back sets
it anew, and taking a batch clears it.  Still no pause is cut short, because a batch is taken only
when the pause is over, and if time does not run backwards the earlier pauses are over then as
well.  And no pause is drawn out: only putting operations back sets the time, always equally far
ahead.

## Main definitions

* `Pipeline.PutsBack`, `Pipeline.PutsNothingBack` — a move puts operations back, and none of
  several moves does.
* `Pipeline.PausedTo` — a pause reaches to some time at least.

## Main results

* `Pipeline.pausedUntil_move` — what a move does to the pause.
* `Pipeline.PausedTo.moves` — moves at later times do not cut a pause short.
* `Pipeline.exists_putsBack_of_paused` — a pause goes back to the last move that put operations
  back.
* `Pipeline.pause_is_honoured` — **after operations were put back nothing is sent for a while, and
  for no longer.**
-/

namespace BulkDelivery

/-- A request that failed as a whole acknowledges nothing, so all of its batch returns. -/
theorem Outcome.returned_of_failsWhole {α : Type} {o : Outcome} {batch : List α}
    (h : o.failsWhole batch.length) : o.returned batch = batch := by
  have hnone : o.results? batch.length = none := Option.isNone_iff_eq_none.1 h
  simp only [returned, hnone]

namespace Pipeline

/-- A move settles a batch and puts some of its operations back. -/
def PutsBack (p : Pipeline) : Move → Prop
  | .resolve id outcome now classify => ∃ acknowledged requeued,
      (p.resolve id outcome now classify).1 = .settled acknowledged requeued ∧ 0 < requeued
  | _ => False

/-- None of several moves puts operations back. -/
def PutsNothingBack : Pipeline → List Move → Prop
  | _, [] => True
  | p, m :: ms => ¬p.PutsBack m ∧ PutsNothingBack (p.move m) ms

theorem putsNothingBack_concat {p : Pipeline} {ms : List Move} {m : Move} :
    p.PutsNothingBack (ms ++ [m]) ↔ p.PutsNothingBack ms ∧ ¬(p.moves ms).PutsBack m := by
  induction ms generalizing p with
  | nil => simp [PutsNothingBack]
  | cons m' ms ih => simp [PutsNothingBack, ih, and_assoc]

/-! ### One move -/

section OneMove

variable {p : Pipeline} {now t : Time} {force : Bool}

/-- A batch that comes back sets the pause if some of it returns. -/
theorem pausedUntil_resolve (p : Pipeline) (id : BatchId) (outcome : Outcome) (now : Time)
    (classify : TransportFailure → Verdict) :
    ((p.resolve id outcome now classify).2.pausedUntil = some (now + p.settings.retryBackoff) ∧
      ((∀ b ∈ p.inFlight, b.2 ≠ []) → p.PutsBack (.resolve id outcome now classify))) ∨
    ((p.resolve id outcome now classify).2.pausedUntil = p.pausedUntil ∧
      ¬p.PutsBack (.resolve id outcome now classify)) := by
  rcases p.ignored_or_inFlight id with hnone | ⟨hrun, entries, hbatch⟩
  · have hignored : p.resolve id outcome now classify = (.ignored, p) := resolve_eq_ignored hnone
    exact .inr ⟨by rw [hignored], by simp [PutsBack, hignored]⟩
  cases hdemand : outcome.halt? classify entries.length with
  | some halt =>
    have hhalted : p.resolve id outcome now classify = _ := resolve_eq_halted hrun hbatch hdemand
    exact .inr ⟨by rw [hhalted], by simp [PutsBack, hhalted]⟩
  | none =>
    have hsettled : p.resolve id outcome now classify = _ := resolve_eq_settled hrun hbatch hdemand
    by_cases hback : outcome.failsWhole entries.length ∨ outcome.returned entries ≠ []
    · refine .inl ⟨by rw [hsettled]; exact if_pos hback, ?_⟩
      intro hfilled
      -- only of an empty batch does a failed request return nothing
      have hreturned : outcome.returned entries ≠ [] := by
        rcases hback with hfails | hreturned
        · rw [Outcome.returned_of_failsWhole hfails]
          exact hfilled _ (Journal.mem_of_lookup hbatch)
        · exact hreturned
      exact ⟨_, _, by rw [hsettled], List.length_pos_of_ne_nil hreturned⟩
    · have hnothing : outcome.returned entries = [] := by
        by_contra hreturned
        exact hback (.inr hreturned)
      exact .inr ⟨by rw [hsettled]; exact if_neg hback, by simp [PutsBack, hsettled, hnothing]⟩

/-- A move sets the pause, and if no batch is empty it puts operations back; or it leaves the pause
alone; or it clears one that is over. -/
theorem pausedUntil_move (p : Pipeline) (m : Move) :
    ((p.move m).pausedUntil = some (m.now + p.settings.retryBackoff) ∧
      ((∀ b ∈ p.inFlight, b.2 ≠ []) → p.PutsBack m)) ∨
    (((p.move m).pausedUntil = p.pausedUntil ∨
      (p.pauseOver m.now ∧ (p.move m).pausedUntil = none)) ∧ ¬p.PutsBack m) := by
  cases m with
  | accept o now =>
    refine .inr ⟨.inl ?_, id⟩
    rw [move]
    cases haccept : p.accept o now with
    | error e => rfl
    | ok q =>
      obtain ⟨-, -, -, rfl⟩ := accept_eq_ok_iff.1 haccept
      rfl
  | dispatch now force =>
    refine .inr ⟨?_, id⟩
    rw [move]
    cases hnext : p.nextBatch now force with
    | none => exact .inl rfl
    | some taken =>
      obtain ⟨hcan, -, entries, buffer, -, -, hq⟩ := nextBatch_eq_some_iff.1 hnext
      refine .inr ⟨(canDispatch_iff.1 hcan).2.2.2, ?_⟩
      rw [Option.map_some, Option.getD_some, hq]
  | resolve id outcome now classify =>
    exact (p.pausedUntil_resolve id outcome now classify).imp_right fun h => ⟨.inl h.1, h.2⟩

/-- From `now` on a pause reaches at least to `t`, and it does not reach further than a pause that
begins now. -/
structure PausedTo (p : Pipeline) (now t : Time) : Prop where
  paused : ∀ s, now ≤ s → s < t → ¬p.pauseOver s
  le : t ≤ now + p.settings.retryBackoff

theorem pausedTo_of_putsBack {m : Move} (h : p.PutsBack m) :
    (p.move m).PausedTo m.now (m.now + p.settings.retryBackoff) := by
  rcases p.pausedUntil_move m with ⟨hset, -⟩ | ⟨-, hnot⟩
  · exact ⟨fun s _ hs => (not_pauseOver hset).2 hs, by rw [settings_move]⟩
  · exact absurd h hnot

/-- A later move does not cut a pause short: what it sets reaches further, and what it clears is
over. -/
theorem PausedTo.move (h : p.PausedTo now t) {m : Move} (hnow : now ≤ m.now) :
    (p.move m).PausedTo m.now t := by
  have hle : t ≤ m.now + p.settings.retryBackoff := h.le.trans (Nat.add_le_add_right hnow _)
  refine ⟨?_, by rw [settings_move]; exact hle⟩
  intro s hs hlt
  have hpaused : ¬p.pauseOver s := h.paused s (hnow.trans hs) hlt
  rcases p.pausedUntil_move m with ⟨hset, -⟩ | ⟨hkept | ⟨hover, -⟩, -⟩
  · exact (not_pauseOver hset).2 (hlt.trans_le hle)
  · rw [pauseOver, hkept]
    exact hpaused
  · exact absurd hover (h.paused m.now hnow (hs.trans_lt hlt))

end OneMove

/-! ### Many moves -/

theorem PausedTo.moves {p : Pipeline} {now t : Time} (h : p.PausedTo now t) {ms : List Move}
    (htimes : (now :: ms.map Move.now).Pairwise (· ≤ ·)) {s : Time} (hs : now ≤ s)
    (hlast : ∀ m ∈ ms, m.now ≤ s) (hlt : s < t) : ¬(p.moves ms).pauseOver s := by
  induction ms generalizing p now with
  | nil => exact h.paused s hs hlt
  | cons m ms ih =>
    rw [List.map_cons, List.pairwise_cons] at htimes
    obtain ⟨hfirst, hrest⟩ := List.forall_mem_cons.1 hlast
    exact ih (h.move (htimes.1 m.now List.mem_cons_self)) htimes.2 hfirst hrest

section Opened

variable (settings : Settings) (checkpoints : List Checkpoint) (opened : Time)

theorem settings_restore_moves (ms : List Move) :
    ((restore { settings } checkpoints opened).moves ms).settings = settings := by
  rw [settings_moves, restore_eq]

/-- No batch in flight is empty. -/
theorem inFlight_ne_nil_moves (hpos : 0 < settings.maxBatchSize) (ms : List Move) :
    ∀ b ∈ ((restore { settings } checkpoints opened).moves ms).inFlight, b.2 ≠ [] := by
  have hlimited := Journal.limited_run settings checkpoints opened hpos ms
  have hfilled := hlimited.inFlight_ne_nil (Journal.faithful_run settings checkpoints opened ms)
  rw [Journal.pipeline_run] at hfilled
  exact hfilled

/-- A pause goes back to the last move that put operations back. -/
theorem exists_putsBack_of_paused (hpos : 0 < settings.maxBatchSize) {ms : List Move} {t : Time}
    (h : ((restore { settings } checkpoints opened).moves ms).pausedUntil = some t) :
    ∃ earlier m later, ms = earlier ++ m :: later ∧
      ((restore { settings } checkpoints opened).moves earlier).PutsBack m ∧
      (((restore { settings } checkpoints opened).moves earlier).move m).PutsNothingBack later ∧
      t = m.now + settings.retryBackoff := by
  induction ms using List.reverseRecOn with
  | nil => simp [restore_eq] at h
  | append_singleton ms m ih =>
    rw [moves_append, moves_cons, moves_nil] at h
    rcases pausedUntil_move ((restore { settings } checkpoints opened).moves ms) m with
      ⟨hset, hback⟩ | ⟨hkept | ⟨-, hclear⟩, hnot⟩
    · -- this move is the last one
      rw [settings_restore_moves] at hset
      exact ⟨ms, m, [], rfl, hback (inFlight_ne_nil_moves settings checkpoints opened hpos ms),
        trivial, Option.some.inj (h.symm.trans hset)⟩
    · obtain ⟨earlier, m', later, rfl, hputs, hquiet, ht⟩ := ih (hkept.symm.trans h)
      refine ⟨earlier, m', later ++ [m], by simp, hputs, putsNothingBack_concat.2 ⟨hquiet, ?_⟩, ht⟩
      rwa [moves_append, moves_cons] at hnot
    · rw [hclear] at h
      cases h

end Opened

/-- **After operations were put back nothing is sent for a while, and for no longer.**

A new pipeline with valid settings takes over the operations of checkpoints, and then any calls
follow at times that do not decrease, with any outcomes.  Once a batch was settled and some of its
operations were put back, no call hands out a batch, forced or not, until the pause after that time
is over, whatever else is admitted, sent or settled in between.  And whenever the pipeline pauses,
operations were put back, and the pause after the last time this happened is not over. -/
theorem pause_is_honoured (settings : Settings) (hvalid : settings.validate = .ok ())
    (checkpoints : List Checkpoint) (opened : Time) (ms : List Move)
    (htimes : (ms.map Move.now).Pairwise (· ≤ ·)) :
    let start := restore { settings } checkpoints opened
    let p := start.moves ms
    (∀ earlier m later, ms = earlier ++ m :: later → (start.moves earlier).PutsBack m →
      ∀ t force, (∀ m' ∈ ms, m'.now ≤ t) → t < m.now + settings.retryBackoff →
        p.nextBatch t force = none) ∧
    ∀ t, ¬p.pauseOver t → ∃ earlier m later, ms = earlier ++ m :: later ∧
      (start.moves earlier).PutsBack m ∧
      ((start.moves earlier).move m).PutsNothingBack later ∧
      t < m.now + settings.retryBackoff := by
  intro start p
  have hpos : 0 < settings.maxBatchSize :=
    ((Settings.validate_eq_ok_iff settings).1 hvalid).maxBatchSize_pos
  constructor
  · intro earlier m later hms hback t force hlast ht
    have hsplit : p = ((start.moves earlier).move m).moves later := by
      show start.moves ms = _
      rw [hms, moves_append, moves_cons]
    have hpaused := pausedTo_of_putsBack hback
    rw [settings_restore_moves settings checkpoints opened earlier] at hpaused
    rw [hms, List.map_append, List.map_cons, List.pairwise_append] at htimes
    rw [hms] at hlast
    rw [hsplit]
    refine nextBatch_eq_none_of_paused (hpaused.moves htimes.2.1 ?_ ?_ ht)
    · exact hlast m (by simp)
    · intro m' hm'
      exact hlast m' (by simp [hm'])
  · intro t ht
    cases hpause : p.pausedUntil with
    | none => simp [pauseOver, hpause] at ht
    | some limit =>
      obtain ⟨earlier, m, later, hms, hback, hquiet, hlimit⟩ :=
        exists_putsBack_of_paused settings checkpoints opened hpos hpause
      exact ⟨earlier, m, later, hms, hback, hquiet, hlimit ▸ (not_pauseOver hpause).1 ht⟩

/-- Two batches are in flight.  The first one fails, and then the other one succeeds and something
is admitted: nothing is sent until the pause is over, not even by force. -/
theorem pause_is_honoured_after_success :
    let slow : TransportFailure := { kind := .timeout, message := "slow" }
    let earlier : List Move := [
      .accept (.delete "a") 0, .dispatch 0 true, .accept (.delete "b") 1, .dispatch 1 true]
    let failure : Move := .resolve 0 (.failed slow) 3 elasticsearch.classify
    let later : List Move := [
      .resolve 1 (.answered (.success 1 ⟨5⟩)) 5 elasticsearch.classify, .accept (.delete "c") 6]
    let moves := earlier ++ failure :: later
    let p := (restore { settings := .testing } [] 0).moves moves
    Settings.testing.validate = .ok () ∧ (moves.map Move.now).Pairwise (· ≤ ·) ∧
      ((restore { settings := .testing } [] 0).moves earlier).PutsBack failure ∧
      p.nextBatch 12 true = none ∧ (p.nextBatch 13 true).isSome ∧
      ∃ before m after, moves = before ++ m :: after ∧
        ((restore { settings := .testing } [] 0).moves before).PutsBack m ∧ 12 < m.now + 10 := by
  intro slow earlier failure later moves p
  have hvalid : Settings.testing.validate = .ok () := by decide
  have htimes : (moves.map Move.now).Pairwise (· ≤ ·) := by decide
  have hback : ((restore { settings := .testing } [] 0).moves earlier).PutsBack failure :=
    ⟨0, 1, by decide +kernel, Nat.one_pos⟩
  obtain ⟨hnone, hpause⟩ := pause_is_honoured .testing hvalid [] 0 moves htimes
  obtain ⟨before, m, after, hmoves, hputs, -, hlimit⟩ := hpause 12 (by decide +kernel)
  exact ⟨hvalid, htimes, hback,
    hnone earlier failure later rfl hback 12 true (by decide) (by decide),
    by decide +kernel, before, m, after, hmoves, hputs, hlimit⟩

end Pipeline

end BulkDelivery
