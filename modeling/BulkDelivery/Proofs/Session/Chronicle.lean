import BulkDelivery.Proofs.EventLoop.Forcing
import BulkDelivery.Proofs.Session.Lasting

/-!
# The chronicles of a session

Every writer of a session has a loop that was opened at some time and has taken one event after the
other since.  The session numbers its calls, so no call is brought to a loop twice.  What a caller
in the session knows about a flush is what is in the chronicle of the loop: the call has its answer
when the loop has given one, or when the caller has given up and the loop could notice.

## Main definitions

* `EventLoop.Chronicle` — how a loop was opened, and what has happened to it since.
* `Session.Attests`, `Session.Chronicled` — a chronicle agrees with what the session knows, and
  every loop has such a chronicle.

## Main results

* `Session.Chronicled.step` — one more event, whatever its caller is told besides.
* `Session.chronicled_after` — **in every session every loop has a chronicle.**
-/

namespace BulkDelivery

namespace EventLoop

/-- How a loop was opened, and what has happened to it since. -/
structure Chronicle where
  /-- The limits. -/
  settings : Settings
  /-- What was restored. -/
  checkpoints : List Checkpoint
  /-- When it was restored. -/
  openedAt : Time
  /-- When the loop turned for the first time. -/
  startedAt : Time
  /-- The events since then. -/
  events : List (Moment × Event)

namespace Chronicle

/-- The loop after its first turn. -/
def first (c : Chronicle) : EventLoop :=
  opened c.settings c.checkpoints c.openedAt c.startedAt

/-- The loop after all events. -/
def loop (c : Chronicle) : EventLoop :=
  (c.first.run c.events).1

/-- What the loop has done. -/
def told (c : Chronicle) : List Effect :=
  (c.first.run c.events).2

/-- One more event. -/
def snoc (c : Chronicle) (m : Moment) (e : Event) : Chronicle :=
  { c with events := c.events ++ [(m, e)] }

/-- The calls that were brought to the loop. -/
def calls (c : Chronicle) : List CallId :=
  EventLoop.calls c.events

/-- A caller has given up. -/
def Departed (c : Chronicle) (call : CallId) : Prop :=
  ∃ m, (m, .depart call) ∈ c.events

/-- A call has been answered, or its caller has given up. -/
def Returned (c : Chronicle) (call : CallId) : Prop :=
  (∃ a, .answer call a ∈ c.told) ∨ c.Departed call

variable {c : Chronicle} {m : Moment} {e : Event} {call : CallId} {a : Answer}

theorem loop_snoc : (c.snoc m e).loop = (c.loop.step m e).1 :=
  run_concat ..

theorem told_snoc : (c.snoc m e).told = c.told ++ (c.loop.step m e).2 :=
  effects_run_concat ..

theorem mem_calls_snoc : call ∈ (c.snoc m e).calls ↔ call ∈ c.calls ∨ e.call? = some call := by
  rw [calls, snoc, calls_concat, List.mem_append, Option.mem_toList]
  rfl

theorem departed_snoc : (c.snoc m e).Departed call ↔ c.Departed call ∨ e = .depart call := by
  simp [Departed, snoc, exists_or, eq_comm]

theorem returned_snoc : (c.snoc m e).Returned call ↔
    c.Returned call ∨ (∃ a, .answer call a ∈ (c.loop.step m e).2) ∨ e = .depart call := by
  simp only [Returned, departed_snoc, told_snoc, List.mem_append, exists_or]
  exact or_or_or_comm ..

/-- Only calls that were brought are answered. -/
theorem mem_calls_of_answer_mem_told (h : .answer call a ∈ c.told) : call ∈ c.calls :=
  (mem_calls_of_answer (callers_opened ..)).1 a h

end Chronicle

end EventLoop

namespace Session

open EventLoop (Chronicle)

variable {s s' s'' : Session} {i j n k : Nat} {c : Chronicle} {m : Moment} {e : Event}
  {id : CallId} {told told' : CallId → Answer → Prop}

/-! ### Telling callers something -/

/-- Callers are told something, and nothing else changes about the calls. -/
structure Tells (told : CallId → Answer → Prop) (s s' : Session) : Prop where
  calls : ∀ call ∈ s'.calls, ∃ old ∈ s.calls, Hears (told old.id) old call
  ids : s'.calls.map Call.id = s.calls.map Call.id
  nextCall : s'.nextCall = s.nextCall

namespace Tells

theorem trans (h : Tells told s s') (h' : Tells told' s' s'') :
    Tells (fun id a => told id a ∨ told' id a) s s'' where
  calls call hcall := by
    obtain ⟨mid, hmid, hlater⟩ := h'.calls call hcall
    obtain ⟨old, hold, hfirst⟩ := h.calls mid hmid
    rw [hfirst.id_eq] at hlater
    exact ⟨old, hold, hfirst.trans hlater⟩
  ids := h'.ids.trans h.ids
  nextCall := h'.nextCall.trans h.nextCall

theorem of_eq (hcalls : s'.calls = s.calls) (hnext : s'.nextCall = s.nextCall) :
    Tells (fun _ _ => False) s s' where
  calls call hcall := ⟨call, hcalls ▸ hcall, .silence call fun _ => not_false⟩
  ids := by rw [hcalls]
  nextCall := hnext

theorem keepAnswer (s : Session) (i : Nat) (id : CallId) (a : Answer) :
    Tells (fun id' b => id' = id ∧ b = a) s (s.keepAnswer i id a) where
  calls _ hcall := mem_calls_keepAnswer hcall
  ids := map_id_keepAnswer s i id a
  nextCall := nextCall_keepAnswer s i id a

theorem carryOut (s : Session) (i : Nat) (effects : List Effect) :
    Tells (fun id a => .answer id a ∈ effects) s (effects.foldl (Session.carryOut i) s) where
  calls _ hcall := mem_calls_carryOut hcall
  ids := map_id_carryOut
  nextCall := nextCall_carryOut

theorem numbered (h : Tells told s s') (hs : ∀ call ∈ s.calls, call.id < s.nextCall) :
    ∀ call ∈ s'.calls, call.id < s'.nextCall := by
  intro call hcall
  obtain ⟨old, hold, hheard⟩ := h.calls call hcall
  rw [hheard.id_eq, h.nextCall]
  exact hs old hold

end Tells

/-- When a loop takes an event, callers are told what the loop answers. -/
theorem exists_tells_feed {loop : EventLoop} (h : s.loopAt i = some loop) (e : Event) :
    ∃ m, (∀ j, (s.feed i e).loopAt j = if j = i then some (loop.step m e).1 else s.loopAt j) ∧
      Tells (fun id a => .answer id a ∈ (loop.step m e).2) s (s.feed i e) := by
  obtain ⟨m, s₁, hfeed, hloops, hcalls, hnext⟩ := feed_eq h e
  refine ⟨m, fun j => ?_, ?_⟩
  · rw [hfeed, loopAt_carryOut, hloops]
  · have htells := (Tells.of_eq hcalls hnext).trans (.carryOut s₁ i (loop.step m e).2)
    simpa only [← hfeed, false_or] using htells

theorem nextCall_feed (s : Session) (i : Nat) (e : Event) :
    (s.feed i e).nextCall = s.nextCall := by
  cases hloop : s.loopAt i with
  | none => rw [feed_of_none hloop]
  | some loop =>
    obtain ⟨m, -, htells⟩ := exists_tells_feed hloop e
    exact htells.nextCall

/-! ### Chronicles of a session -/

/-- A chronicle agrees with what the session knows.  Each call was brought once, all calls have
numbers below a bound, and a flush of the session that was brought to the loop has its answer
exactly if it has returned. -/
structure Attests (n i : Nat) (c : Chronicle) (s : Session) : Prop where
  distinct : c.calls.Nodup
  bounded : ∀ id, id ∈ c.calls ∨ c.Departed id → id < n
  known : ∀ call ∈ s.calls, call.id ∈ c.calls → call.station = i ∧
    (call.waiting = .flush → (call.answer.isSome ↔ c.Returned call.id))

/-- Every loop has a chronicle, the calls have different numbers, and the next number is new. -/
structure Chronicled (n : Nat) (s : Session) : Prop where
  numbered : ∀ call ∈ s.calls, call.id < s.nextCall
  distinct : (s.calls.map Call.id).Nodup
  attested : ∀ i loop, s.loopAt i = some loop → ∃ c : Chronicle, loop = c.loop ∧ Attests n i c s

/-- A number that is new has not returned. -/
theorem Attests.not_returned (h : Attests n i c s) (hid : n ≤ id) : ¬c.Returned id := by
  rintro (⟨a, ha⟩ | hdeparted)
  · have hbrought := Chronicle.mem_calls_of_answer_mem_told ha
    exact Nat.not_lt.2 hid (h.bounded id (.inl hbrought))
  · exact Nat.not_lt.2 hid (h.bounded id (.inr hdeparted))

/-- A chronicle stays as it is when nobody who flushed there is told anything. -/
theorem Attests.frame (h : Attests n i c s) (hk : n ≤ k) (htells : Tells told s s')
    (hsilent : ∀ old ∈ s.calls, old.id ∈ c.calls → old.waiting = .flush →
      ¬∃ a, told old.id a) : Attests k i c s' where
  distinct := h.distinct
  bounded id hid := Nat.lt_of_lt_of_le (h.bounded id hid) hk
  known call hcall hbrought := by
    obtain ⟨old, hold, hheard⟩ := htells.calls call hcall
    rw [hheard.id_eq] at hbrought ⊢
    obtain ⟨hstation, hanswer⟩ := h.known old hold hbrought
    refine ⟨hheard.station_eq.trans hstation, fun hflush => ?_⟩
    rw [hheard.waiting_eq] at hflush
    rw [hheard.isSome_iff, hanswer hflush, or_iff_left (hsilent old hold hbrought hflush)]

/-- Calls may be forgotten. -/
theorem Chronicled.of_sublist (h : Chronicled n s) (hk : n ≤ k)
    (hloops : ∀ i, s'.loopAt i = s.loopAt i) (hcalls : s'.calls.Sublist s.calls)
    (hnext : s.nextCall ≤ s'.nextCall) : Chronicled k s' where
  numbered call hcall := Nat.lt_of_lt_of_le (h.numbered call (hcalls.subset hcall)) hnext
  distinct := h.distinct.sublist (hcalls.map Call.id)
  attested i loop hloop := by
    rw [hloops] at hloop
    obtain ⟨c, hc, hattests⟩ := h.attested i loop hloop
    exact ⟨c, hc, hattests.distinct, fun id hid => Nat.lt_of_lt_of_le (hattests.bounded id hid) hk,
      fun call hcall => hattests.known call (hcalls.subset hcall)⟩

theorem Chronicled.of_agrees (h : Chronicled n s) (hsame : s.Agrees s') : Chronicled n s' :=
  h.of_sublist le_rfl hsame.loops (hsame.calls ▸ .refl _) hsame.nextCall.ge

/-! ### One event -/

/-- The caller of an event, if there is one, is new, or has made the call to this writer. -/
structure Brings (n k i : Nat) (e : Event) (s : Session) : Prop where
  /-- A call that is brought is new. -/
  brought : ∀ id, e.call? = some id → n ≤ id ∧ id < k ∧
    ∀ call ∈ s.calls, call.id = id → call.station = i ∧ call.answer = none
  /-- A call that is given up was made to this writer. -/
  departed : ∀ id, e = .depart id → id < k ∧ ∀ call ∈ s.calls, call.id = id → call.station = i

/-- The chronicle of the loop that takes an event. -/
theorem Attests.snoc (h : Attests n i c s) (hk : n ≤ k) (he : Brings n k i e s)
    (htells : Tells told s s')
    (htold : ∀ old ∈ s.calls, old.waiting = .flush → ((∃ a, told old.id a) ↔
      (∃ a, .answer old.id a ∈ (c.loop.step m e).2) ∨ e = .depart old.id)) :
    Attests k i (c.snoc m e) s' where
  distinct := by
    rw [Chronicle.calls, Chronicle.snoc, EventLoop.calls_concat]
    refine h.distinct.append (by cases e.call? <;> simp) fun id hold hnew => ?_
    -- a call that is brought now is new
    have hlater := (he.brought id (Option.mem_toList.1 hnew)).1
    exact Nat.not_lt.2 hlater (h.bounded id (.inl hold))
  bounded id hid := by
    rw [Chronicle.mem_calls_snoc, Chronicle.departed_snoc] at hid
    rcases hid with (hold | hnow) | (hold | hnow)
    · exact Nat.lt_of_lt_of_le (h.bounded id (.inl hold)) hk
    · exact (he.brought id hnow).2.1
    · exact Nat.lt_of_lt_of_le (h.bounded id (.inr hold)) hk
    · exact (he.departed id hnow).1
  known call hcall hbrought := by
    obtain ⟨old, hold, hheard⟩ := htells.calls call hcall
    rw [hheard.id_eq] at hbrought ⊢
    -- before the event the session knew the same
    have hbefore : old.station = i ∧
        (old.waiting = .flush → (old.answer.isSome ↔ c.Returned old.id)) := by
      rcases Chronicle.mem_calls_snoc.1 hbrought with hearlier | hnow
      · exact h.known old hold hearlier
      · obtain ⟨hnew, -, hfresh⟩ := he.brought old.id hnow
        obtain ⟨hstation, hanswer⟩ := hfresh old hold rfl
        refine ⟨hstation, fun _ => ?_⟩
        simp [hanswer, h.not_returned hnew]
    refine ⟨hheard.station_eq.trans hbefore.1, fun hflush => ?_⟩
    rw [hheard.waiting_eq] at hflush
    rw [hheard.isSome_iff, hbefore.2 hflush, htold old hold hflush, Chronicle.returned_snoc]

/-- **One more event.**  Callers may be told something besides what the loop answers, but of those
who flushed only one who gives up just now is. -/
theorem Chronicled.step (h : Chronicled n s) (hk : n ≤ k) (hc : Attests n i c s)
    (he : Brings n k i e s)
    (hloops : ∀ j, s'.loopAt j = if j = i then some (c.loop.step m e).1 else s.loopAt j)
    (htells : Tells told s s')
    (htold : ∀ old ∈ s.calls, old.waiting = .flush → ((∃ a, told old.id a) ↔
      (∃ a, .answer old.id a ∈ (c.loop.step m e).2) ∨ e = .depart old.id)) :
    Chronicled k s' where
  numbered := htells.numbered h.numbered
  distinct := htells.ids ▸ h.distinct
  attested j loop hloop := by
    rw [hloops] at hloop
    by_cases hj : j = i
    · rw [if_pos hj, Option.some.injEq] at hloop
      rw [hj, ← hloop]
      exact ⟨c.snoc m e, Chronicle.loop_snoc.symm, hc.snoc hk he htells htold⟩
    · rw [if_neg hj] at hloop
      obtain ⟨c', rfl, hc'⟩ := h.attested j loop hloop
      refine ⟨c', rfl, hc'.frame hk htells fun old hold hbrought hflush => ?_⟩
      have hstation := (hc'.known old hold hbrought).1
      -- whoever is told something now has made the call to the other writer
      rw [htold old hold hflush]
      rintro (⟨a, ha⟩ | hdeparts)
      · have hhere : old.id ∈ (c.snoc m e).calls := by
          apply Chronicle.mem_calls_of_answer_mem_told
          rw [Chronicle.told_snoc]
          exact List.mem_append_right _ ha
        rcases Chronicle.mem_calls_snoc.1 hhere with hearlier | hnow
        · exact hj (hstation.symm.trans (hc.known old hold hearlier).1)
        · exact Nat.not_lt.2 (he.brought old.id hnow).1 (hc'.bounded old.id (.inl hbrought))
      · exact hj (hstation.symm.trans ((he.departed old.id hdeparts).2 old hold rfl))

/-- A loop takes an event that is no caller's giving up. -/
theorem Chronicled.feed (h : Chronicled n s) (hk : n ≤ k) (he : Brings n k i e s)
    (hstays : ∀ id, e ≠ .depart id) : Chronicled k (s.feed i e) := by
  cases hloop : s.loopAt i with
  | none =>
    rw [feed_of_none hloop]
    exact h.of_sublist hk (fun _ => rfl) (.refl _) le_rfl
  | some loop =>
    obtain ⟨c, rfl, hc⟩ := h.attested i loop hloop
    obtain ⟨m, hloops, htells⟩ := exists_tells_feed hloop e
    refine h.step hk hc he hloops htells fun old _ _ => ?_
    rw [or_iff_left (hstays old.id)]

/-- An outcome is posted to a loop. -/
theorem Chronicled.receive (h : Chronicled n s) (i : Nat) (id : BatchId)
    (outcome : BulkDelivery.Outcome) :
    Chronicled n (s.changeStation i fun station =>
      { station with loop := station.loop.receive id outcome }) := by
  cases hloop : s.loopAt i with
  | none =>
    refine h.of_sublist le_rfl (fun j => ?_) (.refl _) le_rfl
    rw [loopAt_receive]
    by_cases hj : j = i
    · rw [hj, hloop, Option.map_none]
    · simp [hj]
  | some loop =>
    obtain ⟨c, rfl, hc⟩ := h.attested i loop hloop
    let m : Moment := { now := s.now, classify := elasticsearch.classify }
    have hbrings : Brings n n i (.post id outcome) s := by constructor <;> simp [Event.call?]
    refine h.step (m := m) le_rfl hc hbrings (fun j => ?_) (.of_eq rfl rfl) ?_
    · rw [loopAt_receive]
      by_cases hj : j = i
      · simp [hj, hloop, EventLoop.step]
      · simp [hj]
    · simp [EventLoop.step]

/-- Whose call fails while a loop takes an event: a caller who waits for a flush gives it up. -/
theorem Chronicled.fail (h : Chronicled n s) {call : Call} (hcall : call ∈ s.calls)
    (hn : call.id < n) (he : e.call? = none) (hdeparts : ∀ id, e = .depart id → id = call.id)
    (hflush : call.waiting = .flush → e = .depart call.id) (a : Answer) :
    Chronicled n ((s.feed call.station e).keepAnswer call.station call.id a) := by
  have hsame : ∀ old ∈ s.calls, old.id = call.id → old = call := fun old hold hid =>
    List.inj_on_of_nodup_map h.distinct hold hcall hid
  cases hloop : s.loopAt call.station with
  | none =>
    rw [feed_of_none hloop]
    have htells := Tells.keepAnswer s call.station call.id a
    refine ⟨htells.numbered h.numbered, htells.ids ▸ h.distinct, fun j loop hj => ?_⟩
    rw [loopAt_keepAnswer] at hj
    obtain ⟨c, rfl, hc⟩ := h.attested j loop hj
    refine ⟨c, rfl, hc.frame le_rfl htells ?_⟩
    -- the call was made to a writer that is not there
    rintro old hold hbrought - ⟨-, hid, -⟩
    rw [← (hc.known old hold hbrought).1, hsame old hold hid, hloop] at hj
    cases hj
  | some loop =>
    obtain ⟨c, rfl, hc⟩ := h.attested call.station loop hloop
    obtain ⟨m, hloops, htells⟩ := exists_tells_feed hloop e
    have hbrings : Brings n n call.station e s := by
      refine ⟨fun id hid => by simp [he] at hid, fun id hid => ?_⟩
      rw [hdeparts id hid]
      exact ⟨hn, fun old hold holdid => by rw [hsame old hold holdid]⟩
    refine h.step (m := m) le_rfl hc hbrings (fun j => ?_) (htells.trans (.keepAnswer ..)) ?_
    · rw [loopAt_keepAnswer, hloops]
    · intro old hold hwaiting
      rw [exists_or]
      refine or_congr Iff.rfl ⟨?_, fun hdeparted => ⟨a, hdeparts _ hdeparted, rfl⟩⟩
      rintro ⟨-, hid, -⟩
      rw [hid]
      exact hflush (hsame old hold hid ▸ hwaiting)

theorem nextCall_giveUp (s : Session) (id : CallId) : (s.giveUp id).nextCall = s.nextCall := by
  unfold Session.giveUp
  split
  · rfl
  · rw [nextCall_keepAnswer, nextCall_feed]

/-- A caller gives up. -/
theorem Chronicled.giveUp (h : Chronicled n s) (hn : s.nextCall ≤ n) (id : CallId) :
    Chronicled n (s.giveUp id) := by
  unfold Session.giveUp
  split
  · exact h
  · next call hfind =>
    have hcall := List.mem_of_find?_eq_some hfind
    have hfound := List.find?_some hfind
    simp only [Bool.and_eq_true, beq_iff_eq] at hfound
    obtain ⟨rfl, -⟩ := hfound
    have hlow := Nat.lt_of_lt_of_le (h.numbered call hcall) hn
    cases hwaiting : call.waiting with
    | flush => exact h.fail hcall hlow rfl (by simp) (fun _ => rfl) _
    | close => exact h.fail hcall hlow rfl (by simp) (by simp [hwaiting]) _

/-- A call begins that no loop has heard of yet. -/
theorem Chronicled.enlist (h : Chronicled s.nextCall s) {call : Call}
    (hid : call.id = s.nextCall) : Chronicled s.nextCall
      { s with nextCall := s.nextCall + 1, calls := s.calls ++ [call] } where
  numbered old hold := by
    rcases List.mem_append.1 hold with hearlier | hnew
    · exact Nat.lt_succ_of_lt (h.numbered old hearlier)
    · rw [List.mem_singleton.1 hnew, hid]
      exact Nat.lt_succ_self _
  distinct := by
    rw [List.map_append, List.map_singleton]
    refine h.distinct.append (List.nodup_singleton _) ?_
    rw [List.disjoint_singleton, hid]
    intro hmem
    obtain ⟨old, hold, holdid⟩ := List.mem_map.1 hmem
    exact absurd (holdid ▸ h.numbered old hold) (Nat.lt_irrefl _)
  attested i loop hloop := by
    obtain ⟨c, hc, hattests⟩ := h.attested i loop hloop
    refine ⟨c, hc, hattests.distinct, hattests.bounded, fun old hold hbrought => ?_⟩
    rcases List.mem_append.1 hold with hearlier | hnew
    · exact hattests.known old hearlier hbrought
    · rw [List.mem_singleton.1 hnew, hid] at hbrought
      exact absurd (hattests.bounded _ (.inl hbrought)) (Nat.lt_irrefl _)

/-! ### Every session -/

theorem lasting_chronicled : Lasting fun s => Chronicled s.nextCall s where
  agrees hsame h := by
    rw [hsame.nextCall]
    exact h.of_agrees hsame
  feed {s e} i he h := by
    rw [nextCall_feed]
    apply h.feed le_rfl
    · constructor <;> rcases he with rfl | rfl | rfl <;> simp [Event.call?]
    · rcases he with rfl | rfl | rfl <;> simp
  receive i id outcome h := h.receive i id outcome
  giveUp {s} id h := by
    rw [nextCall_giveUp]
    exact h.giveUp le_rfl id
  request {s} i command h := by
    rw [nextCall_feed]
    have hskipped : Chronicled s.nextCall { s with nextCall := s.nextCall + 1 } :=
      h.of_sublist le_rfl (fun _ => rfl) (.refl _) (Nat.le_succ _)
    refine hskipped.feed (Nat.le_succ _) ⟨?_, by simp⟩ (by simp)
    rintro id ⟨⟩
    refine ⟨le_rfl, Nat.lt_succ_self _, fun call hcall hid => ?_⟩
    exact absurd hid (Nat.ne_of_lt (h.numbered call hcall))
  begin {s} i waiting h := by
    simp only [Session.begin]
    rw [nextCall_feed]
    refine ((h.enlist ?_).of_agrees (.plan _ _)).feed (Nat.le_succ _) ⟨?_, by simp⟩ (by simp)
    · rfl
    · rintro id ⟨⟩
      refine ⟨le_rfl, Nat.lt_succ_self _, fun call hcall hid => ?_⟩
      rcases List.mem_append.1 hcall with hold | hnew
      · exact absurd hid (Nat.ne_of_lt (h.numbered call hold))
      · rw [List.mem_singleton.1 hnew]
        exact ⟨rfl, rfl⟩
  forget {s} id h := h.of_sublist le_rfl (fun _ => rfl) List.filter_sublist le_rfl
  join {s station} settings checkpoints openedAt startedAt hstation h := by
    refine ⟨h.numbered, h.distinct, fun i loop hloop => ?_⟩
    rcases loopAt_join hloop with hold | rfl
    · obtain ⟨c, hc, hattests⟩ := h.attested i loop hold
      exact ⟨c, hc, hattests.distinct, hattests.bounded, hattests.known⟩
    · -- nothing has happened to the new loop yet
      refine ⟨⟨settings, checkpoints, openedAt, startedAt, []⟩, hstation, ?_⟩
      constructor <;> simp [Chronicle.calls, EventLoop.calls, Chronicle.Departed]

/-- **In every session every loop has a chronicle.** -/
theorem chronicled_after (actions : List Action) :
    Chronicled (after actions).nextCall (after actions) :=
  lasting_chronicled.after ⟨by simp, by simp, by simp [loopAt]⟩ actions

end Session

end BulkDelivery
