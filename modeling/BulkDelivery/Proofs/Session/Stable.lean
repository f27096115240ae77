import BulkDelivery.Proofs.EventLoop.Turn
import BulkDelivery.Session.Calls

/-!
# What the clock of a session may change

While time passes, a session does what is on its agenda.  However long that takes, only three
things happen to the loops and to the calls: a loop takes what there is for it, an outcome is posted
to a loop, and a caller gives up; everything else leaves both as they are.  So what survives these
survives any wait.

A caller who gives up does two things: the loop learns of it, and the call fails.  Most properties
survive each of the two by itself.

## Main definitions

* `Session.loopAt` — the loop of a writer.
* `Session.Agrees` — two sessions have the same loops and calls.
* `Session.Hears` — what becomes of a call that may be told something.
* `Session.Enduring` — a property survives everything that a session does by itself.
* `Session.Stable` — a property survives the four things that happen while time passes.

## Main results

* `Session.feed_eq` — letting a loop take an event, and carrying out what it does.
* `Session.mem_calls_carryOut` — a call is told what is answered to it.
* `Session.Enduring.settle`, `Session.Enduring.advanceFor`, `Session.Enduring.sleep` — **what
  endures survives any wait.**
* `Session.Stable.enduring` — what is stable endures.
-/

namespace BulkDelivery

namespace Session

variable {s s' : Session} {i : Nat} {id : CallId} {a : Answer} {e : Event}

/-- The loop of a writer. -/
def loopAt (s : Session) (i : Nat) : Option EventLoop :=
  s.stations[i]?.map Station.loop

/-- The second session has the loops and the calls of the first. -/
structure Agrees (s s' : Session) : Prop where
  loops : ∀ i, s'.loopAt i = s.loopAt i
  calls : s'.calls = s.calls
  nextCall : s'.nextCall = s.nextCall

namespace Agrees

theorem refl (s : Session) : s.Agrees s :=
  ⟨fun _ => rfl, rfl, rfl⟩

theorem trans {s'' : Session} (h : s.Agrees s') (h' : s'.Agrees s'') : s.Agrees s'' where
  loops i := (h'.loops i).trans (h.loops i)
  calls := h'.calls.trans h.calls
  nextCall := h'.nextCall.trans h.nextCall

theorem plan (s : Session) (change : Agenda Task → Agenda Task) : s.Agrees (s.plan change) :=
  ⟨fun _ => rfl, rfl, rfl⟩

theorem foldl_plan {α : Type} (change : α → Agenda Task → Agenda Task) (xs : List α) :
    ∀ s : Session, s.Agrees (xs.foldl (fun s x => s.plan (change x)) s) := by
  induction xs with
  | nil => exact refl
  | cons x xs ih => exact fun s => (plan s (change x)).trans (ih _)

theorem setStore (s : Session) (i : Nat) (store : ScriptedStore) :
    s.Agrees (s.setStore i store) :=
  ⟨fun _ => rfl, rfl, rfl⟩

theorem letGo (s : Session) (i : Nat) : s.Agrees (s.letGo i) := by
  unfold Session.letGo
  split
  · exact refl s
  · exact plan s _

end Agrees

theorem loopAt_changeStation (s : Session) (i : Nat) (change : Station → Station) (j : Nat) :
    (s.changeStation i change).loopAt j =
      if j = i then s.stations[i]?.map fun station => (change station).loop else s.loopAt j := by
  simp only [loopAt, changeStation, List.getElem?_modify]
  by_cases hj : j = i
  · subst hj
    simp [Function.comp_def]
  · have hi : i ≠ j := Ne.symm hj
    simp [hi, hj]

theorem loopAt_receive (s : Session) (i : Nat) (id : BatchId) (outcome : BulkDelivery.Outcome)
    (j : Nat) :
    (s.changeStation i fun station =>
      { station with loop := station.loop.receive id outcome }).loopAt j =
      (s.loopAt j).map fun loop => if j = i then loop.receive id outcome else loop := by
  rw [loopAt_changeStation]
  split
  · next hj =>
    subst hj
    simp [loopAt, Function.comp_def]
  · simp

namespace Agrees

theorem changeStation (s : Session) (i : Nat) {change : Station → Station}
    (h : ∀ station, (change station).loop = station.loop) :
    s.Agrees (s.changeStation i change) := by
  refine ⟨fun j => ?_, rfl, rfl⟩
  rw [loopAt_changeStation]
  split
  · next hj =>
    subst hj
    simp [h, loopAt]
  · rfl

theorem planWake (s : Session) (i : Nat) (t : Option Time) : s.Agrees (s.planWake i t) := by
  cases t with
  | none =>
    rw [Session.planWake]
    refine trans ?_ (plan _ _)
    exact changeStation s i fun _ => rfl
  | some t =>
    rw [Session.planWake]
    refine trans ?_ (plan _ _)
    exact changeStation s i fun _ => rfl

theorem release (s : Session) (i : Nat) : s.Agrees (s.release i) := by
  refine trans ?_ (letGo _ i)
  exact changeStation s i fun _ => rfl

end Agrees

/-! ### Carrying out effects -/

/-- An answer to a call that waits is kept with the call. -/
theorem keepAnswer_of_waiting (h : s.isWaiting id) :
    Agrees { s with calls := s.calls.map fun call =>
      if call.id = id then { call with answer := some a } else call } (s.keepAnswer i id a) := by
  rw [keepAnswer, if_pos h]
  exact (Agrees.plan _ _).trans (Agrees.letGo _ i)

theorem keepAnswer_of_not_waiting (h : ¬ s.isWaiting id) :
    s.keepAnswer i id a = { s with answers := (id, a) :: s.answers } := by
  rw [keepAnswer, if_neg h]

theorem loopAt_keepAnswer (s : Session) (i : Nat) (id : CallId) (a : Answer) (j : Nat) :
    (s.keepAnswer i id a).loopAt j = s.loopAt j := by
  by_cases h : s.isWaiting id
  · exact (keepAnswer_of_waiting h).loops j
  · rw [keepAnswer_of_not_waiting h]
    rfl

theorem nextCall_keepAnswer (s : Session) (i : Nat) (id : CallId) (a : Answer) :
    (s.keepAnswer i id a).nextCall = s.nextCall := by
  by_cases h : s.isWaiting id
  · exact (keepAnswer_of_waiting h).nextCall
  · rw [keepAnswer_of_not_waiting h]

/-- After a call may have been told something it is the same call.  It has the answer that it had or
one of those that it was told, and it has one as soon as it is told any. -/
structure Hears (told : Answer → Prop) (old new : Call) : Prop where
  same : new = { old with answer := new.answer }
  source : new.answer = old.answer ∨ ∃ a, new.answer = some a ∧ told a
  isSome_iff : new.answer.isSome ↔ old.answer.isSome ∨ ∃ a, told a

namespace Hears

variable {told told' : Answer → Prop} {old new : Call}

theorem silence (call : Call) (h : ∀ a, ¬told a) : Hears told call call where
  same := rfl
  source := .inl rfl
  isSome_iff := by simp [h]

theorem id_eq (h : Hears told old new) : new.id = old.id := by
  rw [h.same]

theorem station_eq (h : Hears told old new) : new.station = old.station := by
  rw [h.same]

theorem waiting_eq (h : Hears told old new) : new.waiting = old.waiting := by
  rw [h.same]

theorem congr (h : Hears told old new) (htold : ∀ a, told' a ↔ told a) : Hears told' old new := by
  rwa [show told' = told from funext fun a => propext (htold a)]

theorem trans {mid : Call} (h : Hears told old mid) (h' : Hears told' mid new) :
    Hears (fun a => told a ∨ told' a) old new where
  same := by rw [h'.same, h.same]
  source := by
    rcases h'.source with hkept | ⟨a, ha, hgiven⟩
    · rw [hkept]
      exact h.source.imp_right fun ⟨a, ha, hgiven⟩ => ⟨a, ha, .inl hgiven⟩
    · exact .inr ⟨a, ha, .inr hgiven⟩
  isSome_iff := by rw [h'.isSome_iff, h.isSome_iff, or_assoc, exists_or]

end Hears

/-- A call is told what is said to it. -/
theorem mem_calls_keepAnswer {call : Call} (h : call ∈ (s.keepAnswer i id a).calls) :
    ∃ old ∈ s.calls, Hears (fun b => old.id = id ∧ b = a) old call := by
  by_cases hwaiting : s.isWaiting id
  · rw [(keepAnswer_of_waiting hwaiting).calls] at h
    obtain ⟨old, hold, rfl⟩ := List.mem_map.1 h
    refine ⟨old, hold, ?_⟩
    by_cases hid : old.id = id
    · rw [if_pos hid]
      exact ⟨rfl, .inr ⟨a, rfl, hid, rfl⟩, by simp [hid]⟩
    · rw [if_neg hid]
      exact .silence old fun b hb => hid hb.1
  · rw [keepAnswer_of_not_waiting hwaiting] at h
    refine ⟨call, h, rfl, .inl rfl, ?_⟩
    -- a call of this number that does not wait has its answer
    simp only [isWaiting, List.any_eq_true, not_exists, not_and, Bool.and_eq_true,
      beq_iff_eq, Call.isWaiting, Option.isNone_iff_eq_none] at hwaiting
    simpa [Option.isSome_iff_ne_none] using hwaiting call h

/-- Whoever is told something, the calls keep their numbers. -/
theorem map_id_keepAnswer (s : Session) (i : Nat) (id : CallId) (a : Answer) :
    (s.keepAnswer i id a).calls.map Call.id = s.calls.map Call.id := by
  by_cases hwaiting : s.isWaiting id
  · rw [(keepAnswer_of_waiting hwaiting).calls, List.map_map]
    refine List.map_congr_left fun call _ => ?_
    rw [Function.comp_apply]
    split <;> rfl
  · rw [keepAnswer_of_not_waiting hwaiting]

/-- Only an answer changes the calls. -/
theorem agrees_carryOut {effect : Effect} (h : ∀ id a, effect ≠ .answer id a) :
    s.Agrees (carryOut i s effect) := by
  cases effect with
  | submit batch =>
    rw [carryOut]
    exact .plan s _
  | answer id a => exact absurd rfl (h id a)
  | cleanup =>
    simp only [carryOut]
    split
    · exact .refl s
    · exact .setStore s _ _

variable {effects : List Effect}

theorem loopAt_carryOut (j : Nat) : (effects.foldl (carryOut i) s).loopAt j = s.loopAt j := by
  induction effects generalizing s with
  | nil => rfl
  | cons effect rest ih =>
    rw [List.foldl_cons, ih]
    cases effect with
    | answer id a => exact loopAt_keepAnswer s i id a j
    | submit batch => rfl
    | cleanup => exact (agrees_carryOut (by simp)).loops j

theorem nextCall_carryOut : (effects.foldl (carryOut i) s).nextCall = s.nextCall := by
  induction effects generalizing s with
  | nil => rfl
  | cons effect rest ih =>
    rw [List.foldl_cons, ih]
    cases effect with
    | answer id a => exact nextCall_keepAnswer s i id a
    | submit batch => rfl
    | cleanup => exact (agrees_carryOut (by simp)).nextCall

/-- A call is told what is answered to it. -/
theorem mem_calls_carryOut {call : Call} (h : call ∈ (effects.foldl (carryOut i) s).calls) :
    ∃ old ∈ s.calls, Hears (fun a => .answer old.id a ∈ effects) old call := by
  induction effects generalizing s with
  | nil => exact ⟨call, h, .silence call fun _ => List.not_mem_nil⟩
  | cons effect rest ih =>
    obtain ⟨later, hlater, hrest⟩ := ih h
    -- the call as it is after the first effect
    have hfirst : ∃ old ∈ s.calls, Hears (fun a => .answer old.id a = effect) old later := by
      cases effect with
      | answer id a =>
        obtain ⟨old, hold, hkept⟩ := mem_calls_keepAnswer hlater
        exact ⟨old, hold, hkept.congr fun b => by rw [Effect.answer.injEq]⟩
      | submit batch => exact ⟨later, hlater, .silence later fun _ => by simp⟩
      | cleanup =>
        rw [(agrees_carryOut (by simp)).calls] at hlater
        exact ⟨later, hlater, .silence later fun _ => by simp⟩
    obtain ⟨old, hold, hkept⟩ := hfirst
    exact ⟨old, hold, (hkept.trans hrest).congr fun a => by rw [List.mem_cons, hkept.id_eq]⟩

theorem map_id_carryOut :
    (effects.foldl (carryOut i) s).calls.map Call.id = s.calls.map Call.id := by
  induction effects generalizing s with
  | nil => rfl
  | cons effect rest ih =>
    rw [List.foldl_cons, ih]
    cases effect with
    | answer id a => exact map_id_keepAnswer s i id a
    | submit batch => rfl
    | cleanup => rw [(agrees_carryOut (by simp)).calls]

/-! ### Events -/

theorem feed_of_none (h : s.loopAt i = none) (e : Event) : s.feed i e = s := by
  rw [loopAt, Option.map_eq_none_iff] at h
  rw [feed, h]

/-- A loop takes an event, and what it does is carried out. -/
theorem feed_eq {loop : EventLoop} (h : s.loopAt i = some loop) (e : Event) :
    ∃ m s₁, s.feed i e = (loop.step m e).2.foldl (carryOut i) s₁ ∧
      (∀ j, s₁.loopAt j = if j = i then some (loop.step m e).1 else s.loopAt j) ∧
      s₁.calls = s.calls ∧ s₁.nextCall = s.nextCall := by
  obtain ⟨station, hstation, rfl⟩ := Option.map_eq_some_iff.1 h
  rw [feed, hstation]
  refine ⟨_, _, rfl, fun j => ?_, ?_, ?_⟩
  · split
    · rw [(Agrees.planWake _ i _).loops, loopAt_changeStation, hstation]
      rfl
    · rw [loopAt_changeStation, hstation]
      rfl
  · split
    · rw [(Agrees.planWake _ i _).calls]
      rfl
    · rfl
  · split
    · rw [(Agrees.planWake _ i _).nextCall]
      rfl
    · rfl

/-! ### What survives time -/

/-- What a loop takes by itself: it notices that nobody holds it, it takes an outcome, or it wakes
up. -/
theorem nextEvent?_cases (h : s.nextEvent? i = some e) : e = .release ∨ e = .take ∨ e = .wake := by
  unfold nextEvent? at h
  cases hstation : s.stations[i]? with
  | none => simp [hstation] at h
  | some station =>
    simp only [hstation, ite_not, Option.ite_none_right_eq_some] at h
    obtain ⟨-, h⟩ := h
    split at h
    · exact .inl (Option.some.inj h).symm
    · split at h
      · exact .inr (.inl (Option.some.inj h).symm)
      · exact .inr (.inr (Option.some.inj (Option.ite_none_right_eq_some.1 h).2).symm)

/-- A property survives everything that a session does by itself. -/
structure Enduring (P : Session → Prop) : Prop where
  /-- It is about the loops and the calls. -/
  agrees : ∀ {s s'}, s.Agrees s' → P s → P s'
  /-- It survives what a loop takes by itself. -/
  feed : ∀ {s e} i, e = .release ∨ e = .take ∨ e = .wake → P s → P (s.feed i e)
  /-- It survives an outcome that is posted. -/
  receive : ∀ {s} i id outcome, P s → P (s.changeStation i fun station =>
    { station with loop := station.loop.receive id outcome })
  /-- It survives a caller who gives up. -/
  giveUp : ∀ {s} id, P s → P (s.giveUp id)

namespace Enduring

variable {P : Session → Prop} (hP : Enduring P)
include hP

theorem of_agrees (hs : P s) (hsame : s.Agrees s') : P s' :=
  hP.agrees hsame hs

theorem takeTurn {fuel : Nat} (hs : P s) : P (Session.takeTurn fuel i s) := by
  induction fuel generalizing s with
  | zero => exact hs
  | succ fuel ih =>
    rw [Session.takeTurn]
    cases hnext : s.nextEvent? i with
    | none => exact hs
    | some e => exact ih (hP.feed i (nextEvent?_cases hnext) hs)

theorem comeBack {x : Submission} (hs : P s) : P (s.comeBack x) := by
  simp only [Session.comeBack, rouse]
  exact hP.agrees (.plan _ _) (hP.receive _ _ _ hs)

theorem pass {x : Submission} (hs : P s) : P (s.pass x) := by
  simp only [Session.pass]
  split
  · exact hP.comeBack hs
  · exact hP.agrees (.plan _ _) hs

theorem perform {task : Task} (hs : P s) : P (s.perform task) := by
  cases task with
  | loop i => exact hP.takeTurn hs
  | arrival ticket operations =>
    have hstored := hP.agrees (.setStore s (s.storeOf ticket.writer)
      ((s.storeAt (s.storeOf ticket.writer)).arrive ticket operations).2) hs
    simp only [Session.perform]
    split
    · exact hstored
    · exact hP.pass hstored
  | passage x => exact hP.pass hs
  | reply x => exact hP.comeBack hs
  | giveUp id => exact hP.giveUp id hs

theorem performAll {fuel : Nat} (hs : P s) : P (Session.performAll fuel s) := by
  induction fuel generalizing s with
  | zero => exact hs
  | succ fuel ih =>
    rw [Session.performAll]
    cases s.agenda.take? with
    | none => exact hs
    | some taken =>
      -- taking a task off the agenda touches nothing else
      have hsame : s.Agrees { s with agenda := taken.2 } := ⟨fun _ => rfl, rfl, rfl⟩
      exact ih (hP.perform (hP.agrees hsame hs))

theorem settle (hs : P s) : P s.settle :=
  hP.performAll hs

theorem tick {t : Time} (hs : P s) : P (s.tick t) :=
  hP.settle (hP.agrees (.plan _ _) hs)

theorem advanceFor {fuel : Nat} (hs : P s) : P (Session.advanceFor fuel id s) := by
  induction fuel generalizing s with
  | zero => exact hs
  | succ fuel ih =>
    rw [Session.advanceFor]
    split
    · cases s.agenda.nextTime? with
      | none => exact hs
      | some t => exact ih (hP.tick hs)
    · exact hs

theorem advanceTo {fuel : Nat} {limit : Time} (hs : P s) :
    P (Session.advanceTo fuel limit s) := by
  induction fuel generalizing s with
  | zero => exact hs
  | succ fuel ih =>
    rw [Session.advanceTo]
    cases s.agenda.nextTime? with
    | none => exact hs
    | some t =>
      simp only
      split
      · exact ih (hP.tick hs)
      · exact hs

theorem sleep {ms : Nat} (hs : P s) : P (s.sleep ms) :=
  hP.tick (hP.advanceTo (hP.settle hs))

end Enduring

/-! ### Stable properties -/

/-- A property survives the four things that happen while time passes. -/
structure Stable (P : Session → Prop) : Prop where
  /-- It is about the loops and the calls. -/
  agrees : ∀ {s s'}, s.Agrees s' → P s → P s'
  /-- It survives an event that is not a request. -/
  feed : ∀ {s e} i, e.call? = none → P s → P (s.feed i e)
  /-- It survives an outcome that is posted. -/
  receive : ∀ {s} i id outcome, P s → P (s.changeStation i fun station =>
    { station with loop := station.loop.receive id outcome })
  /-- It survives a call that fails. -/
  fail : ∀ {s} i id error, P s → P (s.keepAnswer i id (.failed error))

/-- What survives each of the two things that happen when a caller gives up, survives both. -/
theorem Stable.enduring {P : Session → Prop} (hP : Stable P) : Enduring P where
  agrees := hP.agrees
  feed i he hs := hP.feed i (by rcases he with rfl | rfl | rfl <;> rfl) hs
  receive := hP.receive
  giveUp {s} id hs := by
    unfold Session.giveUp
    split
    · exact hs
    · next call _ =>
      apply hP.fail
      cases call.waiting with
      | flush => exact hP.feed _ rfl hs
      | close => exact hP.feed _ rfl hs

end Session

end BulkDelivery
