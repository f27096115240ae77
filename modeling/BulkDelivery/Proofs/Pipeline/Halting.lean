import BulkDelivery.Proofs.Pipeline.Journal

/-!
# Halting

A pipeline halts when it settles a batch with a fatal outcome: the request as a whole failed
fatally, or the answer has a result for every operation of the batch and one of them is a fatal
failure.  Results are looked at in order and the first fatal one ends it, but what was seen before
it leaves no trace: the batch goes and everything else stays.  From then on every call is refused
with the same halt, and nothing changes any more.

## Main definitions

* `Outcome.IsFatal` — an outcome is fatal for a batch.
* `Outcome.FirstFatal` — the halt that the first fatal failure of an outcome demands.
* `Pipeline.Stopped` — every call is refused.
* `Pipeline.KeepsAllBut` — all but one batch is as it was.

## Main results

* `Outcome.halt?_isSome_iff`, `Outcome.halt?_eq_some_iff` — when an outcome leads to a halt, and to
  which one.
* `Pipeline.moves_of_halt` — after a halt no run changes anything.
* `Pipeline.resolve_halts_for_good` — **a fatal failure halts atomically and for good.**
-/

namespace BulkDelivery

variable {classify : TransportFailure → Verdict} {halt : Halt} {n : Nat}

theorem Verdict.halt?_eq_some_iff {v : Verdict} : v.halt? = some halt ↔ v = .fatal halt := by
  cases v <;> simp

theorem Verdict.halt?_isSome (v : Verdict) : v.halt?.isSome = v.isFatal := by
  cases v <;> rfl

theorem Verdict.halt?_eq_none_iff {v : Verdict} : v.halt? = none ↔ v = .retry := by
  cases v <;> simp

/-! ### Fatal outcomes -/

namespace Outcome

/-- The request failed fatally, or there is a result for each of `n` operations and one of them is
a fatal failure. -/
def IsFatal (classify : TransportFailure → Verdict) (n : Nat) (o : Outcome) : Prop :=
  (∃ failure, o = .failed failure ∧ (classify failure).isFatal) ∨
    ∃ response, o = .answered response ∧ response.items.length = n ∧
      ∃ failure, .failed failure ∈ response.items ∧ (classify failure).isFatal

/-- The request failed with this halt, or there is a result for each of `n` operations and the
first fatal failure among them is one with this halt. -/
def FirstFatal (classify : TransportFailure → Verdict) (n : Nat) (halt : Halt) (o : Outcome) :
    Prop :=
  (∃ failure, o = .failed failure ∧ classify failure = .fatal halt) ∨
    ∃ response before failure after, o = .answered response ∧ response.items.length = n ∧
      response.items = before ++ .failed failure :: after ∧ classify failure = .fatal halt ∧
      ∀ earlier, .failed earlier ∈ before → classify earlier = .retry

theorem halt?_isSome_iff {o : Outcome} : (o.halt? classify n).isSome ↔ o.IsFatal classify n := by
  cases o with
  | failed failure => simp [halt?, IsFatal, Verdict.halt?_isSome]
  | answered response =>
    by_cases hlen : response.items.length = n
    · simp only [halt?, hlen, if_true, IsFatal, List.findSome?_isSome_iff]
      constructor
      · rintro ⟨result, hmem, hdemand⟩
        cases result with
        | success => simp at hdemand
        | failed failure =>
          rw [ItemResult.halt?_failed, Verdict.halt?_isSome] at hdemand
          exact .inr ⟨response, rfl, hlen, failure, hmem, hdemand⟩
      · rintro (⟨failure, hfailed, -⟩ | ⟨_, hanswered, -, failure, hmem, hfatal⟩)
        · cases hfailed
        · obtain rfl := Outcome.answered.inj hanswered
          refine ⟨.failed failure, hmem, ?_⟩
          rw [ItemResult.halt?_failed, Verdict.halt?_isSome]
          exact hfatal
    · simp [halt?, hlen, IsFatal]

theorem halt?_eq_some_iff {o : Outcome} :
    o.halt? classify n = some halt ↔ o.FirstFatal classify n halt := by
  cases o with
  | failed failure => simp [halt?, FirstFatal, Verdict.halt?_eq_some_iff]
  | answered response =>
    by_cases hlen : response.items.length = n
    · simp only [halt?, hlen, if_true, FirstFatal, List.findSome?_eq_some_iff]
      constructor
      · rintro ⟨before, result, after, hitems, hdemand, hnone⟩
        cases result with
        | success => simp at hdemand
        | failed failure =>
          rw [ItemResult.halt?_failed, Verdict.halt?_eq_some_iff] at hdemand
          refine .inr ⟨response, before, failure, after, rfl, hlen, hitems, hdemand, ?_⟩
          intro earlier hearlier
          have hretry := hnone _ hearlier
          rw [ItemResult.halt?_failed, Verdict.halt?_eq_none_iff] at hretry
          exact hretry
      · rintro (⟨failure, hfailed, -⟩ |
          ⟨_, before, failure, after, hanswered, -, hitems, hfatal, hretry⟩)
        · cases hfailed
        · obtain rfl := Outcome.answered.inj hanswered
          refine ⟨before, .failed failure, after, hitems, ?_, ?_⟩
          · rw [ItemResult.halt?_failed, Verdict.halt?_eq_some_iff]
            exact hfatal
          · intro result hresult
            cases result with
            | success => rfl
            | failed earlier =>
              rw [ItemResult.halt?_failed, Verdict.halt?_eq_none_iff]
              exact hretry earlier hresult
    · simp [halt?, hlen, FirstFatal]

end Outcome

namespace Pipeline

variable {p : Pipeline}

/-! ### After a halt -/

/-- Every call is refused with this halt. -/
structure Stopped (p : Pipeline) (halt : Halt) : Prop where
  accept : ∀ o now, p.accept o now = .error (.halted halt)
  nextBatch : ∀ now force, p.nextBatch now force = none
  resolve : ∀ id outcome now classify, p.resolve id outcome now classify = (.ignored, p)
  snapshot : p.snapshot = .error (.halted halt)
  nextDeadline : ∀ now, p.nextDeadline now = none

theorem stopped_of_halt (h : p.halt = some halt) : p.Stopped halt where
  accept o now := by rw [Pipeline.accept, h]
  nextBatch now force := by simp [Pipeline.nextBatch, canDispatch, h]
  resolve id outcome now classify := resolve_eq_ignored (.inl (by rw [h]; rfl))
  snapshot := by rw [Pipeline.snapshot, h]
  nextDeadline now := by simp [Pipeline.nextDeadline, h]

theorem Stopped.move (h : p.Stopped halt) (m : Move) : p.move m = p := by
  cases m with
  | accept o now => rw [Pipeline.move, h.accept]; rfl
  | dispatch now force => rw [Pipeline.move, h.nextBatch]; rfl
  | resolve id outcome now classify => rw [Pipeline.move, h.resolve]

/-- After a halt no run changes anything. -/
theorem moves_of_halt (h : p.halt.isSome) (ms : List Move) : p.moves ms = p := by
  obtain ⟨halt, hhalt⟩ := Option.isSome_iff_exists.1 h
  have hstopped : p.Stopped halt := stopped_of_halt hhalt
  induction ms with
  | nil => rfl
  | cons m ms ih => rw [moves_cons, hstopped.move, ih]

/-! ### Settling with a fatal outcome -/

theorem lookup_filter_of_ne {α : Type} {id other : BatchId} (hne : other ≠ id)
    (batches : List (BatchId × α)) :
    (batches.filter (·.1 != id)).lookup other = batches.lookup other := by
  induction batches with
  | nil => rfl
  | cons b rest ih =>
    by_cases hid : b.1 = id
    · have hother : (other == b.1) = false := by rw [hid]; simpa using hne
      rw [List.filter_cons_of_neg (by simpa using hid), List.lookup_cons, hother, ih]
    · rw [List.filter_cons_of_pos (by simpa using hid), List.lookup_cons, List.lookup_cons, ih]

/-- What waits, the other batches in flight, the pause and the counts of settled operations are
what they were. -/
structure KeepsAllBut (p q : Pipeline) (id : BatchId) : Prop where
  buffer : q.buffer = p.buffer
  inFlight : q.inFlight = p.inFlight.filter (·.1 != id)
  others : ∀ other, other ≠ id → q.inFlight.lookup other = p.inFlight.lookup other
  pausedUntil : q.pausedUntil = p.pausedUntil
  acknowledged : q.tally.acknowledged = p.tally.acknowledged
  requeued : q.tally.requeued = p.tally.requeued

/-- **A fatal failure halts atomically and for good.**

Whatever a pipeline that has not halted holds, settling a batch in flight halts it if and only if
the outcome is fatal for the batch, and the halt is that of the first fatal failure.  The buffer,
the other batches in flight, the pause and the counts of what was acknowledged and requeued are then
as they were before.  From there on, whatever calls follow, the pipeline stays as it is and refuses
every one of them with this halt. -/
theorem resolve_halts_for_good (p : Pipeline) (id : BatchId) (entries : List Entry)
    (outcome : Outcome) (now : Time) (classify : TransportFailure → Verdict)
    (hrun : p.halt = none) (hbatch : p.inFlight.lookup id = some entries) :
    let resolution := (p.resolve id outcome now classify).1
    let q := (p.resolve id outcome now classify).2
    (resolution = .halted ↔ outcome.IsFatal classify entries.length) ∧
    (q.halt.isSome ↔ resolution = .halted) ∧
    ∀ halt, q.halt = some halt →
      outcome.FirstFatal classify entries.length halt ∧ p.KeepsAllBut q id ∧
      ∀ later : List Move, q.moves later = q ∧ (q.moves later).Stopped halt := by
  intro resolution q
  cases hdemand : outcome.halt? classify entries.length with
  | none =>
    have hresolution : resolution ≠ .halted := by
      show (p.resolve id outcome now classify).1 ≠ .halted
      rw [resolve_eq_settled hrun hbatch hdemand]
      simp
    have hq : q.halt = none := by
      show (p.resolve id outcome now classify).2.halt = none
      rw [resolve_eq_settled hrun hbatch hdemand]
      exact hrun
    have hharmless : ¬outcome.IsFatal classify entries.length := by
      rw [← Outcome.halt?_isSome_iff, hdemand]
      simp
    refine ⟨iff_of_false hresolution hharmless, iff_of_false (by simp [hq]) hresolution, ?_⟩
    intro halt hhalt
    rw [hq] at hhalt
    cases hhalt
  | some first =>
    have hresolution : resolution = .halted := by
      show (p.resolve id outcome now classify).1 = .halted
      rw [resolve_eq_halted hrun hbatch hdemand]
    have hq : q.halt = some first := by
      show (p.resolve id outcome now classify).2.halt = some first
      rw [resolve_eq_halted hrun hbatch hdemand]
    have hfatal : outcome.IsFatal classify entries.length := by
      rw [← Outcome.halt?_isSome_iff, hdemand]
      rfl
    have hkept : p.KeepsAllBut q id := by
      show p.KeepsAllBut (p.resolve id outcome now classify).2 id
      rw [resolve_eq_halted hrun hbatch hdemand]
      exact ⟨rfl, rfl, fun other hne => lookup_filter_of_ne hne p.inFlight, rfl, rfl, rfl⟩
    refine ⟨iff_of_true hresolution hfatal, iff_of_true (by simp [hq]) hresolution, ?_⟩
    intro halt hhalt
    obtain rfl : first = halt := Option.some.inj (hq.symm.trans hhalt)
    refine ⟨Outcome.halt?_eq_some_iff.1 hdemand, hkept, ?_⟩
    intro later
    have hsame : q.moves later = q := moves_of_halt (by rw [hq]; rfl) later
    refine ⟨hsame, ?_⟩
    rw [hsame]
    exact stopped_of_halt hq

/-- Three batches are in flight and one of them has come back, so there is a pause.  Then the answer
to another one has a success, a failure worth another try and two fatal ones. -/
theorem resolve_halts_for_good_halfway :
    let moves : List Move := [
      .accept (.delete "a") 0, .accept (.delete "b") 0, .accept (.delete "c") 0,
      .accept (.delete "d") 0, .dispatch 0 true, .accept (.delete "e") 1, .dispatch 1 true,
      .accept (.delete "f") 2, .dispatch 2 true,
      .resolve 2 (.failed { kind := .timeout, message := "slow" }) 3 elasticsearch.classify]
    let denied : TransportFailure := { kind := .unauthorized, message := "key" }
    let gone : TransportFailure := { kind := .connectionRefused, message := "gone" }
    let outcome : Outcome := .answered
      { items := [.success, .failed (.rejected "b"), .failed denied, .failed gone], took := ⟨5⟩ }
    let p := (restore { settings := { Settings.testing with maxInFlight := 3 } } [] 0).moves moves
    let q := (p.resolve 0 outcome 4 elasticsearch.classify).2
    p.halt = none ∧ p.pausedUntil = some 13 ∧ (∃ entries, p.inFlight.lookup 0 = some entries) ∧
      q.halt = some { reason := credentialsReason, cause := denied } ∧ p.KeepsAllBut q 0 ∧
      ∀ later : List Move, q.moves later = q ∧
        (q.moves later).Stopped { reason := credentialsReason, cause := denied } := by
  intro moves denied gone outcome p q
  have hrun : p.halt = none := by decide +kernel
  have hpause : p.pausedUntil = some 13 := by decide +kernel
  have hhalt : q.halt = some { reason := credentialsReason, cause := denied } := by decide +kernel
  obtain ⟨entries, hbatch⟩ : ∃ entries, p.inFlight.lookup 0 = some entries :=
    Option.isSome_iff_exists.1 (by decide +kernel)
  obtain ⟨-, -, hlast⟩ := resolve_halts_for_good p 0 entries outcome 4 elasticsearch.classify
    hrun hbatch
  obtain ⟨-, hkept, hlater⟩ := hlast _ hhalt
  exact ⟨hrun, hpause, ⟨entries, hbatch⟩, hhalt, hkept, hlater⟩

end Pipeline

end BulkDelivery
