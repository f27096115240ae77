import BulkDelivery.Proofs.EventLoop.Flush
import BulkDelivery.Proofs.Session.Lasting

/-!
# Numbers of calls

A session numbers its calls one after the other.  Every call that waits somewhere, at a loop or in
the session, has a smaller number than the next call, so the answer to a new call is never taken
for the answer to an old one.

## Main definitions

* `Session.Numbered` — every call that waits has a smaller number than the next one.

## Main results

* `Session.numbered_after` — **in every session the next number is new.**
-/

namespace BulkDelivery

namespace Session

/-- Every call that waits has a smaller number than the next one. -/
structure Numbered (s : Session) : Prop where
  /-- Calls that wait in the session. -/
  calls : ∀ call ∈ s.calls, call.id < s.nextCall
  /-- Calls that wait at a loop. -/
  callers : ∀ i loop, s.loopAt i = some loop → ∀ id ∈ loop.callers, id < s.nextCall

variable {s s' : Session} {i : Nat} {id : CallId} {e : Event}

/-! ### Time passes -/

theorem Numbered.carryOut (h : s.Numbered) (effects : List Effect) :
    (effects.foldl (Session.carryOut i) s).Numbered where
  calls call hcall := by
    obtain ⟨old, hold, hheard⟩ := mem_calls_carryOut hcall
    rw [nextCall_carryOut, hheard.id_eq]
    exact h.calls old hold
  callers j loop hloop := by
    rw [loopAt_carryOut] at hloop
    rw [nextCall_carryOut]
    exact h.callers j loop hloop

/-- A loop takes an event whose call, if there is one, has a number that was given. -/
theorem Numbered.feed (h : s.Numbered) (he : ∀ id, e.call? = some id → id < s.nextCall) :
    (s.feed i e).Numbered := by
  cases hloop : s.loopAt i with
  | none =>
    rw [feed_of_none hloop]
    exact h
  | some loop =>
    obtain ⟨m, s₁, hfeed, hloops, hcalls, hnext⟩ := feed_eq hloop e
    rw [hfeed]
    apply Numbered.carryOut
    constructor
    · rw [hcalls, hnext]
      exact h.calls
    · intro j loop' hloop' id hid
      rw [hloops] at hloop'
      rw [hnext]
      by_cases hj : j = i
      · -- at the loop that takes the event, only the caller who asks is new
        rw [if_pos hj, Option.some.injEq] at hloop'
        rw [← hloop'] at hid
        rcases EventLoop.callers_step hid with hnew | hold
        · exact he id hnew
        · exact h.callers i loop hloop id hold
      · rw [if_neg hj] at hloop'
        exact h.callers j loop' hloop' id hid

theorem stable_numbered : Stable Numbered where
  agrees hsame h := by
    refine ⟨?_, fun i loop hloop => ?_⟩
    · rw [hsame.calls, hsame.nextCall]
      exact h.calls
    · rw [hsame.loops] at hloop
      rw [hsame.nextCall]
      exact h.callers i loop hloop
  feed i he h := h.feed fun id hid => by rw [he] at hid; cases hid
  receive i id outcome h := by
    refine ⟨h.calls, fun j loop' hloop' => ?_⟩
    rw [loopAt_receive] at hloop'
    obtain ⟨loop, hloop, rfl⟩ := Option.map_eq_some_iff.1 hloop'
    -- nobody begins to wait because an outcome is posted
    have hsame : (if j = i then loop.receive id outcome else loop).callers = loop.callers := by
      split
      · exact loop.callers_receive id outcome
      · rfl
    rw [hsame]
    exact h.callers j loop hloop
  fail i id error h := by
    refine ⟨fun call hcall => ?_, fun j loop hloop => ?_⟩
    · obtain ⟨old, hold, hheard⟩ := mem_calls_keepAnswer hcall
      rw [nextCall_keepAnswer, hheard.id_eq]
      exact h.calls old hold
    · rw [loopAt_keepAnswer] at hloop
      rw [nextCall_keepAnswer]
      exact h.callers j loop hloop

/-! ### Calls -/

namespace Numbered

/-- A new call that waits in the session. -/
theorem enlist (h : s.Numbered) {call : Call} (hid : call.id = s.nextCall) :
    Numbered { s with nextCall := s.nextCall + 1, calls := s.calls ++ [call] } where
  calls c hc := by
    rcases List.mem_append.1 hc with hold | hnew
    · exact Nat.lt_succ_of_lt (h.calls c hold)
    · rw [List.mem_singleton.1 hnew, hid]
      exact Nat.lt_succ_self _
  callers i loop hloop id hid := Nat.lt_succ_of_lt (h.callers i loop hloop id hid)

/-- A call that does not wait. -/
theorem skip (h : s.Numbered) : Numbered { s with nextCall := s.nextCall + 1 } where
  calls c hc := Nat.lt_succ_of_lt (h.calls c hc)
  callers i loop hloop id hid := Nat.lt_succ_of_lt (h.callers i loop hloop id hid)

end Numbered

theorem lasting_numbered : Lasting Numbered where
  toEnduring := stable_numbered.enduring
  request {s} i command h := by
    refine h.skip.feed fun id hid => ?_
    rw [← Option.some.inj hid]
    exact Nat.lt_succ_self _
  begin {s} i waiting h := by
    simp only [Session.begin]
    refine (stable_numbered.agrees (.plan _ _) (h.enlist ?_)).feed fun id hid => ?_
    · rfl
    · rw [← Option.some.inj hid]
      exact Nat.lt_succ_self _
  forget id h := ⟨fun c hc => h.calls c (List.mem_of_mem_filter hc), h.callers⟩
  join settings checkpoints openedAt startedAt hstation h := by
    refine ⟨h.calls, fun i loop hloop id hid => ?_⟩
    rcases loopAt_join hloop with hold | rfl
    · exact h.callers i loop hold id hid
    · rw [hstation, EventLoop.callers_opened] at hid
      exact absurd hid List.not_mem_nil

/-- **In every session the next number is new.** -/
theorem numbered_after (actions : List Action) : (after actions).Numbered :=
  lasting_numbered.after ⟨by simp, by simp [loopAt]⟩ actions

end Session

end BulkDelivery
