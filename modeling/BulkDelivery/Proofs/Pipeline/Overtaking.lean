import BulkDelivery.Proofs.Pipeline.Precedence
import Mathlib.Data.List.Induction

/-!
# Overtaking

What a batch returns goes to the front of the buffer, in front of everything that waits.  Mostly
this is where it belongs: what waits was taken in later, or it was never sent.  But two batches may
be in flight at once and both come back.  What the second one returns then stands in front of what
the first one returned, even if it was taken in later.  Nothing else turns the order of arrival
around: batches are taken from the front, so whatever stands in order is sent in order.

## Main definitions

* `Journal.Returns`, `Journal.IsSent` — a move puts an occurrence back, and an occurrence is in
  flight.
* `Journal.Passes`, `Journal.Overtakes` — one occurrence came back while another was in flight, and
  then the other came back while the one was waiting.
* `Journal.Explained` — whatever is out of order has overtaken.

## Main results

* `Journal.explained_run` — in every run, whatever is out of order has overtaken.
* `Journal.in_order_unless_overtaken` — **the buffer and the batches are in the order of arrival,
  but for what has overtaken.**
-/

namespace BulkDelivery

/-! ### Pairs in order -/

section Pairs

variable {α : Type} {a b : α} {xs ys : List α}

theorem pair_sublist_append_iff :
    [a, b].Sublist (xs ++ ys) ↔
      [a, b].Sublist xs ∨ (a ∈ xs ∧ b ∈ ys) ∨ [a, b].Sublist ys := by
  rw [List.sublist_append_iff]
  constructor
  · rintro ⟨front, back, hsplit, hfront, hback⟩
    rcases front with _ | ⟨c, _ | ⟨d, rest⟩⟩
    · exact .inr (.inr (hsplit ▸ hback))
    · obtain ⟨rfl, rfl⟩ := List.cons.inj hsplit
      exact .inr (.inl ⟨List.singleton_sublist.1 hfront, List.singleton_sublist.1 hback⟩)
    · obtain ⟨rfl, hrest⟩ := List.cons.inj hsplit
      obtain ⟨rfl, hnil⟩ := List.cons.inj hrest
      rw [(List.append_eq_nil_iff.1 hnil.symm).1] at hfront
      exact .inl hfront
  · rintro (hfront | ⟨ha, hb⟩ | hback)
    · exact ⟨[a, b], [], rfl, hfront, List.nil_sublist ys⟩
    · exact ⟨[a], [b], rfl, List.singleton_sublist.2 ha, List.singleton_sublist.2 hb⟩
    · exact ⟨[], [a, b], rfl, List.nil_sublist xs, hback⟩

/-- Of two members one stands ahead of the other. -/
theorem pair_sublist_or (ha : a ∈ xs) (hb : b ∈ xs) (hne : a ≠ b) :
    [a, b].Sublist xs ∨ [b, a].Sublist xs := by
  obtain ⟨front, back, rfl⟩ := List.append_of_mem ha
  rw [pair_sublist_append_iff, pair_sublist_append_iff]
  rcases List.mem_append.1 hb with hfront | hrest
  · exact .inr (.inr (.inl ⟨hfront, List.mem_cons_self⟩))
  · have hback : b ∈ back := (List.mem_cons.1 hrest).resolve_left hne.symm
    exact .inl (.inr (.inr ((List.singleton_sublist.2 hback).cons_cons a)))

end Pairs

namespace Journal

/-- A move settles a batch, and an occurrence returns from it. -/
def Returns (j : Journal) (m : Move) (id : BatchId) (x : Occurrence) : Prop :=
  ∃ outcome now classify acknowledged requeued batch, m = .resolve id outcome now classify ∧
    (j.pipeline.resolve id outcome now classify).1 = .settled acknowledged requeued ∧
    j.sent.lookup id = some batch ∧ x ∈ outcome.returned batch

/-- An occurrence is in a batch in flight. -/
def IsSent (j : Journal) (id : BatchId) (x : Occurrence) : Prop :=
  ∃ batch, (id, batch) ∈ j.sent ∧ x ∈ batch

/-- On the way `x` returned from a batch while `y` was in flight in another one. -/
def Passes (start : Journal) (ms : List Move) (x : Occurrence) (id : BatchId) (y : Occurrence) :
    Prop :=
  ∃ earlier m later other, ms = earlier ++ m :: later ∧ other ≠ id ∧
    (start.run earlier).Returns m other x ∧ (start.run earlier).IsSent id y

/-- On the way `y` returned while `x` was waiting, and before that `x` had returned while `y` was
still in flight. -/
def Overtakes (start : Journal) (ms : List Move) (y x : Occurrence) : Prop :=
  ∃ earlier m later id, ms = earlier ++ m :: later ∧ (start.run earlier).Returns m id y ∧
    x ∈ (start.run earlier).waiting ∧ start.Passes earlier x id y

variable {start j : Journal} {ms : List Move} {m : Move} {x y : Occurrence} {id : BatchId}

theorem run_concat (start : Journal) (ms : List Move) (m : Move) :
    start.run (ms ++ [m]) = (start.run ms).record m := by
  rw [run_append, run_cons, run_nil]

theorem Passes.concat (h : start.Passes ms x id y) (m : Move) :
    start.Passes (ms ++ [m]) x id y := by
  obtain ⟨earlier, m', later, other, rfl, hpass⟩ := h
  exact ⟨earlier, m', later ++ [m], other, by simp, hpass⟩

theorem Overtakes.concat (h : start.Overtakes ms y x) (m : Move) :
    start.Overtakes (ms ++ [m]) y x := by
  obtain ⟨earlier, m', later, id, rfl, hovertake⟩ := h
  exact ⟨earlier, m', later ++ [m], id, by simp, hovertake⟩

/-- What returns was in the batch. -/
theorem exists_batch_of_mem_returned {outcome : Outcome}
    (hx : x ∈ outcome.returned ((j.sent.lookup id).getD [])) :
    ∃ batch, j.sent.lookup id = some batch ∧ x ∈ outcome.returned batch := by
  cases hbatch : j.sent.lookup id with
  | none =>
    rw [hbatch] at hx
    exact absurd (Outcome.mem_of_mem_returned hx) List.not_mem_nil
  | some batch =>
    rw [hbatch] at hx
    exact ⟨batch, rfl, hx⟩

/-- What is held has its number from an earlier arrival. -/
theorem Faithful.snd_lt (h : j.Faithful) (hx : x ∈ j.waiting ∨ j.IsSent id x) :
    x.2 < j.arrivals.length := by
  have hplace : x ∈ j.waiting ++ (j.sent.flatMap Prod.snd ++ (j.acknowledged ++ j.abandoned)) := by
    rcases hx with hwaits | ⟨batch, hbatch, hmem⟩
    · exact List.mem_append_left _ hwaits
    · refine List.mem_append_right _ (List.mem_append_left _ ?_)
      exact List.mem_flatMap_of_mem hbatch hmem
  have harrived : x ∈ j.arrivals.zipIdx := h.places.subset hplace
  simpa using List.snd_lt_add_of_mem_zipIdx harrived

/-! ### One move -/

/-- If `y` stands ahead of `x`, or `x` waits while `y` is in flight, then this is because batches
came back out of order. -/
structure Explained (start : Journal) (ms : List Move) (x y : Occurrence) : Prop where
  waiting : [y, x].Sublist (start.run ms).waiting → start.Overtakes ms y x
  sent : ∀ b ∈ (start.run ms).sent, [y, x].Sublist b.2 → start.Overtakes ms y x
  dispatched : ∀ b ∈ (start.run ms).dispatched, [y, x].Sublist b.2 → start.Overtakes ms y x
  apart : ∀ id, x ∈ (start.run ms).waiting → (start.run ms).IsSent id y →
    start.Passes ms x id y ∨ start.Overtakes ms y x

namespace Explained

theorem apart_concat (h : start.Explained ms x y) (hx : x ∈ (start.run ms).waiting)
    (hy : (start.run ms).IsSent id y) (m : Move) :
    start.Passes (ms ++ [m]) x id y ∨ start.Overtakes (ms ++ [m]) y x :=
  (h.apart id hx hy).imp (fun hpass => hpass.concat m) fun hovertake => hovertake.concat m

/-- A move after which nothing new waits and nothing new is in flight needs no explanation. -/
theorem of_sublist (h : start.Explained ms x y)
    (hwaiting : ((start.run ms).record m).waiting.Sublist (start.run ms).waiting)
    (hsent : ((start.run ms).record m).sent.Sublist (start.run ms).sent)
    (hdispatched : ((start.run ms).record m).dispatched = (start.run ms).dispatched) :
    start.Explained (ms ++ [m]) x y := by
  constructor
  · rw [run_concat]
    intro hpair
    exact (h.waiting (hpair.trans hwaiting)).concat m
  · rw [run_concat]
    intro b hb hpair
    exact (h.sent b (hsent.subset hb) hpair).concat m
  · rw [run_concat, hdispatched]
    intro b hb hpair
    exact (h.dispatched b hb hpair).concat m
  · rw [run_concat]
    rintro id hx ⟨batch, hbatch, hy⟩
    exact h.apart_concat (hwaiting.subset hx) ⟨batch, hsent.subset hbatch, hy⟩ m

/-- The newcomer has the largest number, so it is behind everybody as it should be. -/
theorem accept (h : start.Explained ms x y) (hlt : x.2 < y.2) (hj : (start.run ms).Faithful)
    (o : Operation) (now : Time) : start.Explained (ms ++ [.accept o now]) x y := by
  cases haccept : (start.run ms).pipeline.accept o now with
  | error e =>
    have hsame : (start.run ms).record (.accept o now) = start.run ms := by simp [record, haccept]
    exact h.of_sublist (by rw [hsame]) (by rw [hsame]) (by rw [hsame])
  | ok p =>
    have hnew : x = (Entry.of o now, (start.run ms).arrivals.length) →
        ∀ id, ¬(y ∈ (start.run ms).waiting ∨ (start.run ms).IsSent id y) := by
      rintro rfl id hy
      exact Nat.lt_asymm hlt (hj.snd_lt hy)
    constructor
    · rw [run_concat]
      simp only [record, haccept]
      intro hpair
      rcases pair_sublist_append_iff.1 hpair with hold | ⟨hy, hx⟩ | hboth
      · exact (h.waiting hold).concat _
      · exact absurd (.inl hy) (hnew (List.mem_singleton.1 hx) 0)
      · exact absurd hboth.length_le (by simp)
    · rw [run_concat]
      simp only [record, haccept]
      intro b hb hpair
      exact (h.sent b hb hpair).concat _
    · rw [run_concat]
      simp only [record, haccept]
      intro b hb hpair
      exact (h.dispatched b hb hpair).concat _
    · rw [run_concat]
      simp only [record, haccept]
      intro id hx hy
      rcases List.mem_append.1 hx with hold | hlast
      · exact h.apart_concat hold hy _
      · exact absurd (.inr hy) (hnew (List.mem_singleton.1 hlast) id)

/-- A batch is a beginning of what waits, so it takes along whatever stands ahead. -/
theorem dispatch (h : start.Explained ms x y) (now : Time) (force : Bool) :
    start.Explained (ms ++ [.dispatch now force]) x y := by
  cases hnext : (start.run ms).pipeline.nextBatch now force with
  | none =>
    have hsame : (start.run ms).record (.dispatch now force) = start.run ms := by
      simp [record, hnext]
    exact h.of_sublist (by rw [hsame]) (by rw [hsame]) (by rw [hsame])
  | some next =>
    obtain ⟨batch, p⟩ := next
    let n := batch.operations.length
    have htaken : [y, x].Sublist ((start.run ms).waiting.take n) →
        start.Overtakes (ms ++ [.dispatch now force]) y x :=
      fun hpair => (h.waiting (hpair.trans (List.take_sublist n _))).concat _
    constructor
    · rw [run_concat]
      simp only [record, hnext]
      intro hpair
      exact (h.waiting (hpair.trans (List.drop_sublist n _))).concat _
    · rw [run_concat]
      simp only [record, hnext]
      intro b hb hpair
      rcases List.mem_append.1 hb with hold | hnew
      · exact (h.sent b hold hpair).concat _
      · rw [List.mem_singleton.1 hnew] at hpair
        exact htaken hpair
    · rw [run_concat]
      simp only [record, hnext]
      intro b hb hpair
      rcases List.mem_append.1 hb with hold | hnew
      · exact (h.dispatched b hold hpair).concat _
      · rw [List.mem_singleton.1 hnew] at hpair
        exact htaken hpair
    · rw [run_concat]
      simp only [record, hnext]
      rintro id hx ⟨b, hb, hy⟩
      have hwaits : x ∈ (start.run ms).waiting := List.mem_of_mem_drop hx
      rcases List.mem_append.1 hb with hold | hnew
      · exact h.apart_concat hwaits ⟨b, hold, hy⟩ _
      · -- it was taken and the other was left behind, so it stood ahead
        obtain ⟨-, rfl⟩ := Prod.mk.inj (List.mem_singleton.1 hnew)
        have hpair : [y, x].Sublist ((start.run ms).waiting.take n ++
            (start.run ms).waiting.drop n) := pair_sublist_append_iff.2 (.inr (.inl ⟨hy, hx⟩))
        rw [List.take_append_drop] at hpair
        exact .inr ((h.waiting hpair).concat _)

/-- What returns passes whatever is still in flight, and overtakes what it was passed by. -/
theorem resolve (h : start.Explained ms x y) (id : BatchId) (outcome : Outcome) (now : Time)
    (classify : TransportFailure → Verdict) :
    start.Explained (ms ++ [.resolve id outcome now classify]) x y := by
  have hsent := (start.run ms).sent_resolve_sublist id outcome now classify
  have hdispatched := (start.run ms).dispatched_resolve id outcome now classify
  cases hresolve : ((start.run ms).pipeline.resolve id outcome now classify).1 with
  | ignored => exact h.of_sublist (by simp only [record, hresolve]; exact .refl _) hsent hdispatched
  | halted => exact h.of_sublist (by simp only [record, hresolve]; exact .refl _) hsent hdispatched
  | settled acknowledged requeued =>
    have hreturns : ∀ z ∈ outcome.returned (((start.run ms).sent.lookup id).getD []),
        (start.run ms).Returns (.resolve id outcome now classify) id z := by
      intro z hz
      obtain ⟨batch, hbatch, hreturned⟩ := exists_batch_of_mem_returned hz
      exact ⟨outcome, now, classify, acknowledged, requeued, batch, rfl, hresolve, hbatch, hreturned⟩
    constructor
    · rw [run_concat]
      simp only [record, hresolve, settle]
      intro hpair
      rcases pair_sublist_append_iff.1 hpair with hback | ⟨hy, hx⟩ | hold
      · -- they return from one batch, in its order
        obtain ⟨batch, hbatch, -⟩ := exists_batch_of_mem_returned (hback.subset List.mem_cons_self)
        rw [hbatch, Option.getD_some] at hback
        have hpair : [y, x].Sublist batch := hback.trans (outcome.returned_sublist batch)
        exact (h.sent _ (mem_of_lookup hbatch) hpair).concat _
      · obtain ⟨batch, hbatch, hreturned⟩ := exists_batch_of_mem_returned hy
        have hflies : (start.run ms).IsSent id y :=
          ⟨batch, mem_of_lookup hbatch, Outcome.mem_of_mem_returned hreturned⟩
        rcases h.apart id hx hflies with hpass | hover
        · exact ⟨ms, _, [], id, rfl, hreturns y hy, hx, hpass⟩
        · exact hover.concat _
      · exact (h.waiting hold).concat _
    · rw [run_concat]
      intro b hb hpair
      exact (h.sent b (hsent.subset hb) hpair).concat _
    · rw [run_concat, hdispatched]
      intro b hb hpair
      exact (h.dispatched b hb hpair).concat _
    · rw [run_concat]
      simp only [record, hresolve, settle]
      rintro other hx ⟨batch, hbatch, hy⟩
      obtain ⟨hbefore, hne⟩ := List.mem_filter.1 hbatch
      have hflies : (start.run ms).IsSent other y := ⟨batch, hbefore, hy⟩
      rcases List.mem_append.1 hx with hback | hold
      · have hother : id ≠ other := by
          rintro rfl
          simp at hne
        exact .inl ⟨ms, _, [], id, rfl, hother, hreturns x hback, hflies⟩
      · exact h.apart_concat hold hflies _

end Explained

/-! ### Many moves -/

theorem explained_opening (settings : Settings) (checkpoints : List Checkpoint) (now : Time)
    (hlt : x.2 < y.2) : (opening settings checkpoints now).Explained [] x y where
  waiting := by
    intro hpair
    -- restored operations wait in the order of their numbers
    have hnumbers := hpair.map Prod.snd
    rw [run_nil, opening, List.zipIdx_map_snd] at hnumbers
    have hordered : [y.2, x.2].Pairwise (· < ·) :=
      (List.pairwise_lt_range' 1).sublist hnumbers
    rw [List.pairwise_pair] at hordered
    exact absurd hlt (Nat.lt_asymm hordered)
  sent := by simp [opening]
  dispatched := by simp [opening]
  apart := by simp [opening, IsSent]

/-- In every run, whatever is out of order has overtaken. -/
theorem explained_run (settings : Settings) (checkpoints : List Checkpoint) (now : Time)
    (hlt : x.2 < y.2) (ms : List Move) :
    (opening settings checkpoints now).Explained ms x y := by
  induction ms using List.reverseRecOn with
  | nil => exact explained_opening settings checkpoints now hlt
  | append_singleton ms m ih =>
    cases m with
    | accept o t => exact ih.accept hlt (faithful_run settings checkpoints now ms) o t
    | dispatch t force => exact ih.dispatch t force
    | resolve id outcome t classify => exact ih.resolve id outcome t classify

/-- What returns stands ahead of everything that waits. -/
theorem Returns.ahead (h : j.Returns m id y) (hx : x ∈ j.waiting) :
    [y, x].Sublist (j.record m).waiting := by
  obtain ⟨outcome, now, classify, acknowledged, requeued, batch, rfl, hresolve, hbatch, hy⟩ := h
  simp only [record, hresolve, settle, hbatch, Option.getD_some]
  exact pair_sublist_append_iff.2 (.inr (.inl ⟨hy, hx⟩))

/-- **The buffer and the batches are in the order of arrival, but for what has overtaken.**

A new pipeline takes over the operations of checkpoints, and then any calls follow, with any
outcomes.  Of two operations that wait, the one that arrived first stands ahead, and so it does in
every batch that was handed out and in the part of a checkpoint that holds the buffer.  There is one
exception: it came back from one batch while the other was in flight in another one, and then the
other came back as well while it was waiting.  What comes back stands ahead of all that waits,
whichever of them arrived first. -/
theorem in_order_unless_overtaken (settings : Settings) (checkpoints : List Checkpoint)
    (opened : Time) (ms : List Move) :
    let start := opening settings checkpoints opened
    let j := start.run ms
    (j.Faithful ∧ j.pipeline = start.pipeline.moves ms ∧
      j.dispatched.map Prod.fst = start.pipeline.batches ms ∧
      operationsOf j.arrivals.zipIdx =
        checkpoints.flatMap Checkpoint.operations ++ start.pipeline.admitted ms) ∧
    (∀ x ∈ j.waiting, ∀ y ∈ j.waiting, x.2 < y.2 → ¬start.Overtakes ms y x →
      [x, y].Sublist j.waiting) ∧
    (∀ b ∈ j.dispatched, ∀ x ∈ b.2, ∀ y ∈ b.2, x.2 < y.2 → ¬start.Overtakes ms y x →
      [x, y].Sublist b.2) ∧
    (j.pipeline.buffer.operations = operationsOf j.waiting ∧
      (∀ b ∈ j.dispatched, b.1.operations = operationsOf b.2) ∧
      (j.pipeline.halt = none → j.pipeline.snapshot = .ok
        { operations := operationsOf (j.sent.flatMap Prod.snd) ++ operationsOf j.waiting })) ∧
    ∀ m id x y, j.Returns m id y → x ∈ j.waiting → [y, x].Sublist (j.record m).waiting := by
  intro start j
  have hj : j.Faithful := faithful_run settings checkpoints opened ms
  refine ⟨⟨hj, pipeline_run start ms, batches_run start ms, ?_⟩, ?_, ?_,
    ⟨hj.buffer_eq, fun b hb => (hj.dispatched b hb).symm, ?_⟩, fun m id x y h hx => h.ahead hx⟩
  · rw [operationsOf_zipIdx, arrivals_run, arrivals_opening]
  · intro x hx y hy hlt hnot
    have hne : x ≠ y := fun heq => Nat.lt_irrefl _ (heq ▸ hlt)
    refine (pair_sublist_or hx hy hne).resolve_right ?_
    intro hpair
    exact hnot ((explained_run settings checkpoints opened hlt ms).waiting hpair)
  · intro b hb x hx y hy hlt hnot
    have hne : x ≠ y := fun heq => Nat.lt_irrefl _ (heq ▸ hlt)
    refine (pair_sublist_or hx hy hne).resolve_right ?_
    intro hpair
    exact hnot ((explained_run settings checkpoints opened hlt ms).dispatched b hb hpair)
  · intro hrun
    rw [Pipeline.snapshot, hrun, hj.pending_eq, operationsOf, List.map_append]
    rfl

/-- Two operations on one target are in flight in two batches, and both batches fail, the older one
first.  The newer operation is then ahead: in the buffer, in a checkpoint and in the next batch. -/
theorem newer_ahead_after_two_failures :
    let older : Operation := .index "a" [1]
    let newer : Operation := .index "a" [2]
    let slow : TransportFailure := { kind := .timeout, message := "slow" }
    let moves : List Move := [
      .accept older 0, .dispatch 0 true, .accept newer 1, .dispatch 1 true,
      .resolve 0 (.failed slow) 2 elasticsearch.classify,
      .resolve 1 (.failed slow) 3 elasticsearch.classify]
    let j := (opening .testing [] 0).run moves
    Settings.testing.validate = .ok () ∧ (moves.map Move.now).Pairwise (· ≤ ·) ∧
      j.pipeline.halt = none ∧ j.arrivals.map Entry.operation = [older, newer] ∧
      ¬(j.waiting.Pairwise fun x y => x.2 < y.2) ∧
      j.pipeline.buffer.operations = [newer, older] ∧ j.pipeline.pending = [newer, older] ∧
      (j.pipeline.nextBatch 20 true).map (fun next => next.1.operations) = some [newer, older] := by
  decide +kernel

end Journal

end BulkDelivery
