import BulkDelivery.Proofs.Buffer.LongestPrefix
import BulkDelivery.Proofs.Pipeline.Due
import BulkDelivery.Proofs.Pipeline.Limits

/-!
# Taking every batch that is due

Batches are taken one after the other until none is due.  This comes to an end: every batch takes a
free slot, and with valid settings every batch holds something, so there are no more batches than
free slots and no more than operations that wait.  The batches cut the buffer from the front, each
as long as the limits allow when its turn comes.  What still waits then waits for something else
than the next attempt to send it: for an answer that makes a slot free, for the end of the pause or,
if sending is not forced, for a threshold.

## Main definitions

* `Pipeline.BelowThresholds` — neither the number of operations nor that of their octets nor the
  age of the one at the front makes a batch due.
* `Pipeline.Cuts` — what the batches come to: they cut the buffer from the front.

## Main results

* `Pipeline.TakesAll.cuts`, `Pipeline.TakesAll.length_le` — what is taken, and how much.
* `Pipeline.nextBatch_eq_none_cases` — why no batch is due.
* `Pipeline.dispatching_leaves_nothing_due` — **taking batches comes to an end, cuts the buffer into
  longest batches, and leaves nothing that is due.**
-/

namespace BulkDelivery

namespace Pipeline

variable {p q r : Pipeline} {now : Time} {force : Bool} {batch : Batch} {batches : List Batch}
  {groups : List (List Entry)}

/-! ### What is taken -/

/-- A batch takes a free slot and a part of the buffer, and nothing else is taken. -/
theorem nextBatch_takes (h : p.nextBatch now force = some (batch, q)) :
    p.inFlight.length < p.settings.maxInFlight ∧ q.settings = p.settings ∧
    ∃ group, batch.operations = group.map Entry.operation ∧
      q.inFlight = p.inFlight ++ [(batch.id, group)] ∧
      group ++ q.buffer.entries = p.buffer.entries ∧
      LongestWithin p.settings.maxBatchSize p.settings.maxBatchBytes p.buffer.entries group := by
  obtain ⟨hcan, -, entries, buffer, hdrain, rfl, rfl⟩ := nextBatch_eq_some_iff.1 h
  have happend := p.buffer.drain_append p.settings.maxBatchSize p.settings.maxBatchBytes
  have hlongest := longestWithin_take p.settings.maxBatchSize p.settings.maxBatchBytes
    p.buffer.entries
  have htake : p.buffer.entries.take _ = entries := congrArg Prod.fst hdrain
  rw [hdrain] at happend
  rw [htake] at hlongest
  exact ⟨(canDispatch_iff.1 hcan).2.2.1, rfl, entries, rfl, rfl, happend, hlongest⟩

/-- Batches cut the buffer from the front into groups, and each group is the longest beginning of
what waits when its turn comes that may be sent together. -/
structure Cuts (p : Pipeline) (batches : List Batch) (groups : List (List Entry)) (q : Pipeline) :
    Prop where
  settings : q.settings = p.settings
  operations : batches.map Batch.operations = groups.map (List.map Entry.operation)
  flight : q.inFlight = p.inFlight ++ (batches.map Batch.id).zip groups
  buffer : groups.flatten ++ q.buffer.entries = p.buffer.entries
  longest : ∀ front group back, groups = front ++ group :: back →
    LongestWithin p.settings.maxBatchSize p.settings.maxBatchBytes
      (group ++ back.flatten ++ q.buffer.entries) group

theorem cuts_nil (p : Pipeline) : p.Cuts [] [] p where
  settings := rfl
  operations := rfl
  flight := (List.append_nil _).symm
  buffer := rfl
  longest := by simp

theorem Cuts.cons (hnext : p.nextBatch now force = some (batch, q))
    (h : q.Cuts batches groups r) :
    ∃ group, p.Cuts (batch :: batches) (group :: groups) r := by
  obtain ⟨-, hsettings, group, hoperations, hflight, hbuffer, hlongest⟩ := nextBatch_takes hnext
  have hwhole : group ++ groups.flatten ++ r.buffer.entries = p.buffer.entries := by
    rw [List.append_assoc, h.buffer, hbuffer]
  refine ⟨group, ?_⟩
  constructor
  · rw [h.settings, hsettings]
  · rw [List.map_cons, List.map_cons, hoperations, h.operations]
  · rw [h.flight, hflight, List.append_assoc]
    rfl
  · rw [List.flatten_cons, hwhole]
  · -- the first group is cut off before the others are
    intro front group' back hgroups
    cases front with
    | nil =>
      rw [List.nil_append, List.cons.injEq] at hgroups
      obtain ⟨rfl, rfl⟩ := hgroups
      rw [hwhole]
      exact hlongest
    | cons first front =>
      rw [List.cons_append, List.cons.injEq] at hgroups
      rw [← hsettings]
      exact h.longest front group' back hgroups.2

theorem TakesAll.cuts (h : TakesAll now force p batches q) : ∃ groups, p.Cuts batches groups q := by
  induction h with
  | done => exact ⟨[], cuts_nil _⟩
  | next htaken _ ih =>
    obtain ⟨groups, hcuts⟩ := ih
    obtain ⟨group, hcuts'⟩ := hcuts.cons htaken
    exact ⟨group :: groups, hcuts'⟩

/-- Every batch takes a slot, and if a batch may hold something at all then every batch takes an
operation. -/
theorem TakesAll.length_le (h : TakesAll now force p batches q)
    (hsize : 0 < p.settings.maxBatchSize) :
    batches.length ≤ p.settings.maxInFlight - p.inFlight.length ∧
      batches.length ≤ p.buffer.entries.length := by
  induction h with
  | done => exact ⟨Nat.zero_le _, Nat.zero_le _⟩
  | @next p q r batch batches htaken _ ih =>
    obtain ⟨hslot, hsettings, group, hoperations, hflight, hbuffer, -⟩ := nextBatch_takes htaken
    obtain ⟨entries, _, -, hoperations', hne, -⟩ := withinLimits_of_nextBatch hsize htaken
    have hgroup : 0 < group.length := by
      have hlength := congrArg List.length (hoperations.symm.trans hoperations')
      rw [List.length_map, List.length_map] at hlength
      rw [hlength]
      exact List.length_pos_of_ne_nil hne
    rw [hsettings, hflight, List.length_append, List.length_singleton] at ih
    obtain ⟨hslots, hwaiting⟩ := ih hsize
    rw [List.length_cons, ← hbuffer, List.length_append]
    omega

/-! ### What is left -/

/-- Neither the number of operations nor that of their octets nor the age of the one at the front
makes a batch due. -/
structure BelowThresholds (p : Pipeline) (now : Time) : Prop where
  count : p.buffer.length < p.settings.maxBatchSize
  bytes : p.buffer.byteTotal < p.settings.maxBatchBytes
  age : ∀ e, p.buffer.entries.head? = some e → now - e.admittedAt < p.settings.maxTimeInBuffer

theorem not_thresholdReached_iff : ¬p.thresholdReached now ↔ p.BelowThresholds now := by
  have hage :
      (p.buffer.frontAdmittedAt?.any fun t => p.settings.maxTimeInBuffer ≤ now - t) = false ↔
      ∀ e, p.buffer.entries.head? = some e →
        now - e.admittedAt < p.settings.maxTimeInBuffer := by
    rw [Buffer.frontAdmittedAt?]
    cases p.buffer.entries.head? with
    | none => simp
    | some e => simp
  simp only [thresholdReached, Bool.or_eq_true, decide_eq_true_eq, not_or, Nat.not_le,
    Bool.not_eq_true, hage]
  constructor
  · rintro ⟨⟨hcount, hbytes⟩, hyoung⟩
    exact ⟨hcount, hbytes, hyoung⟩
  · rintro ⟨hcount, hbytes, hyoung⟩
    exact ⟨⟨hcount, hbytes⟩, hyoung⟩

/-- If no batch is due, this has a reason. -/
theorem nextBatch_eq_none_cases (h : p.nextBatch now force = none) :
    p.halt ≠ none ∨ p.buffer.entries = [] ∨ p.settings.maxInFlight ≤ p.inFlight.length ∨
      (∃ t, p.pausedUntil = some t ∧ now < t) ∨ force = false ∧ p.BelowThresholds now := by
  by_contra hreason
  simp only [not_or, not_not, Nat.not_le, not_exists, not_and] at hreason
  obtain ⟨hrun, hwaits, hslot, hpause, hmissing⟩ := hreason
  rw [nextBatch_eq_none_iff] at h
  refine h ⟨canDispatch_iff.2 ⟨hrun, hwaits, hslot, ?_⟩, ?_⟩
  · exact pauseOver_iff.2 fun t ht => Nat.not_lt.1 (hpause t ht)
  · cases force with
    | true => exact .inl rfl
    | false =>
      refine .inr ?_
      by_contra hbelow
      exact hmissing rfl (not_thresholdReached_iff.1 hbelow)

/-- **Taking batches comes to an end, cuts the buffer into longest batches, and leaves nothing that
is due.**

Whatever a pipeline with valid settings holds, at any time and whether or not sending is forced,
batches are taken one after the other until none is due, and which ones is determined.  There are no
more of them than free slots and no more than operations that wait.  In their order they hold the
beginning of the buffer, the rest of which is left, and each of them is the longest beginning within
the limits of what waits when its turn comes.  In the end the pipeline has halted, or nothing waits,
or no slot is free, or there is a pause, or, only if sending is not forced, no threshold is
reached. -/
theorem dispatching_leaves_nothing_due (p : Pipeline) (hvalid : p.settings.validate = .ok ())
    (now : Time) (force : Bool) :
    ∃ batches q, TakesAll now force p batches q ∧ p.dispatchAll now force = (batches, q) ∧
      (∀ batches' q', TakesAll now force p batches' q' → batches' = batches ∧ q' = q) ∧
      batches.length ≤ min (p.settings.maxInFlight - p.inFlight.length) p.buffer.length ∧
      (∃ groups, p.Cuts batches groups q) ∧
      (q.halt ≠ none ∨ q.buffer.entries = [] ∨ q.settings.maxInFlight ≤ q.inFlight.length ∨
        (∃ t, q.pausedUntil = some t ∧ now < t) ∨ force = false ∧ q.BelowThresholds now) := by
  have htakes := p.takesAll_dispatchAll now force
  have hsize := ((Settings.validate_eq_ok_iff p.settings).1 hvalid).maxBatchSize_pos
  obtain ⟨hslots, hwaiting⟩ := htakes.length_le hsize
  refine ⟨_, _, htakes, rfl, ?_, Nat.le_min.2 ⟨hslots, hwaiting⟩, htakes.cuts, ?_⟩
  · intro batches' q' htakes'
    exact htakes.unique htakes'
  · exact nextBatch_eq_none_cases htakes.nextBatch_eq_none

/-- Of five operations two batches of two are full, and the fifth operation waits for a threshold.
If sending is forced, it is sent as well and takes the third and last slot. -/
theorem dispatching_leaves_nothing_due_of_five :
    let settings : Settings := { Settings.testing with maxBatchSize := 2, maxInFlight := 3 }
    let p := (restore { settings } [] 0).moves [
      .accept (.delete "a") 0, .accept (.delete "b") 0, .accept (.delete "c") 0,
      .accept (.delete "d") 0, .accept (.delete "e") 0]
    p.settings.validate = .ok () ∧
    (∃ batches q, TakesAll 7 false p batches q ∧ batches.length ≤ min 3 5 ∧
      batches.map Batch.operations = [[.delete "a", .delete "b"], [.delete "c", .delete "d"]] ∧
      q.buffer.operations = [.delete "e"] ∧ q.BelowThresholds 7) ∧
    (∃ batches q, TakesAll 7 true p batches q ∧ batches.length ≤ min 3 5 ∧
      batches.map Batch.operations =
        [[.delete "a", .delete "b"], [.delete "c", .delete "d"], [.delete "e"]] ∧
      q.isDrained = false ∧ q.hasFreeSlot = false) := by
  intro settings p
  have hvalid : p.settings.validate = .ok () := by decide +kernel
  have hbound : min (p.settings.maxInFlight - p.inFlight.length) p.buffer.length = min 3 5 := by
    decide +kernel
  obtain ⟨batches, q, htakes, heq, -, hle, -, hreason⟩ :=
    dispatching_leaves_nothing_due p hvalid 7 false
  obtain ⟨batches', q', htakes', heq', -, hle', -, -⟩ :=
    dispatching_leaves_nothing_due p hvalid 7 true
  have hbatches : batches = (p.dispatchAll 7 false).1 := by rw [heq]
  have hleft : q = (p.dispatchAll 7 false).2 := by rw [heq]
  have hbatches' : batches' = (p.dispatchAll 7 true).1 := by rw [heq']
  have hleft' : q' = (p.dispatchAll 7 true).2 := by rw [heq']
  rw [hbound] at hle hle'
  refine ⟨hvalid, ⟨batches, q, htakes, hle, ?_, ?_, ?_⟩, batches', q', htakes', hle', ?_, ?_, ?_⟩
  · rw [hbatches]
    decide +kernel
  · rw [hleft]
    decide +kernel
  · -- of the reasons why no batch is due only one is left
    rcases hreason with hhalt | hnothing | hfull | ⟨t, hpause, -⟩ | ⟨-, hbelow⟩
    · rw [hleft] at hhalt
      exact absurd (by decide +kernel) hhalt
    · rw [hleft] at hnothing
      exact absurd hnothing (by decide +kernel)
    · rw [hleft] at hfull
      exact absurd hfull (by decide +kernel)
    · have hnever : (p.dispatchAll 7 false).2.pausedUntil = none := by decide +kernel
      rw [hleft, hnever] at hpause
      cases hpause
    · exact hbelow
  · rw [hbatches']
    decide +kernel
  · rw [hleft']
    decide +kernel
  · rw [hleft']
    decide +kernel

end Pipeline

end BulkDelivery
