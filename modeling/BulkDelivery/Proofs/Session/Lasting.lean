import BulkDelivery.Proofs.EventLoop.Flush
import BulkDelivery.Proofs.EventLoop.Opening
import BulkDelivery.Proofs.Session.Stable

/-!
# What the user of a session may change

Whatever the user of a session does, besides letting time pass it changes the loops and the calls in
four ways only: a request is made that is answered at once, a call begins, a call is forgotten after
its end, and a writer is opened.  So what survives these, and endures, holds in every session.

## Main definitions

* `Session.Action`, `Session.act`, `Session.after` — what the user of a session can do, and the
  session after one action and after several.
* `Session.Lasting` — a property endures and survives the four things that the user does.

## Main results

* `Session.Lasting.after` — **what lasts holds in every session.**
-/

namespace BulkDelivery

namespace Session

/-- What the user of a session can do. -/
inductive Action
  | openWriter (opening : Opening) (conflictRetries : Option Int32) (plain : Bool)
  | write (draft : Draft)
  | flush
  | snapshot
  | snapshotState
  | storeCheckpoint
  | stats
  | close
  | drop
  | flushInBackground (name : String)
  | closeInBackground (name : String)
  | poll (name : String)
  | join (name : String)
  | sleep (ms : Nat)
  | newStore
  | changeStore (change : ScriptedStore → ScriptedStore)
  | releasePermits (count : Nat)
  | report

/-- The session after an action. -/
def act (s : Session) : Action → Session
  | .openWriter o conflictRetries plain => (s.openWriter o conflictRetries plain).2
  | .write d => (s.write d).2
  | .flush => s.flush.2
  | .snapshot => s.snapshot.2
  | .snapshotState => s.snapshotState.2
  | .storeCheckpoint => s.storeCheckpoint.2
  | .stats => s.stats.2
  | .close => s.close.2
  | .drop => s.drop.2
  | .flushInBackground name => (s.flushInBackground name).2
  | .closeInBackground name => (s.closeInBackground name).2
  | .poll name => (s.poll name).2
  | .join name => (s.join name).2
  | .sleep ms => s.sleep ms
  | .newStore => s.newStore
  | .changeStore change => s.changeStore change
  | .releasePermits count => s.releasePermits count
  | .report => s.report.2

/-- A new session after several actions. -/
def after (actions : List Action) : Session :=
  actions.foldl act {}

variable {s s' : Session} {i : Nat} {id : CallId}

/-- A property survives everything that a session does by itself and everything that its user
does. -/
structure Lasting (P : Session → Prop) : Prop extends Enduring P where
  /-- It survives a request that is answered at once. -/
  request : ∀ {s} i command, P s →
    P ({ s with nextCall := s.nextCall + 1 }.feed i (.request s.nextCall command))
  /-- It survives the beginning of a call. -/
  begin : ∀ {s} i waiting, P s → P (s.begin i waiting).2
  /-- It survives when a call is forgotten. -/
  forget : ∀ {s} id, P s → P { s with calls := s.calls.filter (·.id != id) }
  /-- It survives a new writer. -/
  join : ∀ {s station} settings checkpoints openedAt startedAt,
    station.loop = EventLoop.opened settings checkpoints openedAt startedAt → P s →
    P { s with stations := s.stations ++ [station] }

/-- Who opens a writer changes nothing for those who are there. -/
theorem loopAt_join {station : Station} {loop : EventLoop} {j : Nat}
    (h : Session.loopAt { s with stations := s.stations ++ [station] } j = some loop) :
    s.loopAt j = some loop ∨ loop = station.loop := by
  rw [loopAt, List.getElem?_append] at h
  split at h
  · exact .inl h
  · obtain ⟨new, hnew, rfl⟩ := Option.map_eq_some_iff.1 h
    rw [List.mem_singleton.1 (List.mem_of_getElem? hnew)]
    exact .inr rfl

/-- As long as nobody is answered, the loops and the calls stay as they are. -/
theorem Agrees.carryOut {effects : List Effect} (h : ∀ id a, .answer id a ∉ effects) :
    s.Agrees (effects.foldl (Session.carryOut i) s) := by
  induction effects generalizing s with
  | nil => exact refl s
  | cons effect rest ih =>
    refine (agrees_carryOut fun id a => ?_).trans
      (ih fun id a ha => h id a (List.mem_cons_of_mem _ ha))
    rintro rfl
    exact h id a List.mem_cons_self

/-- Nobody is answered in the first turn. -/
theorem answer_notMem_start (p : Pipeline) (now : Time) (id : CallId) (a : Answer) :
    .answer id a ∉ (EventLoop.start p now).2 := by
  intro ha
  exact absurd (EventLoop.completion?_of_answer_mem_turn ha).2 List.not_mem_nil

namespace Lasting

variable {P : Session → Prop} (hP : Lasting P)
include hP

theorem ask (i : Nat) (command : Command) (hs : P s) : P (s.ask i command).2 :=
  hP.of_agrees (hP.request i command hs) ⟨fun _ => rfl, rfl, rfl⟩

theorem waitFor (hs : P s) : P (s.waitFor id).2 :=
  hP.forget id (hP.advanceFor (hP.settle hs))

theorem snapshotOf (hs : P s) : P (s.snapshotOf i).2 := by
  have hasked := hP.ask i .snapshot hs
  unfold Session.snapshotOf
  split
  all_goals
    next heq =>
    rw [heq] at hasked
    exact hP.settle hasked

theorem flush (hs : P s) : P s.flush.2 := by
  unfold Session.flush
  split
  · exact hs
  · exact hP.settle (hP.waitFor (hP.begin _ _ hs))

theorem checkpointOf (hs : P s) : P (s.checkpointOf i).2 := by
  simp only [Session.checkpointOf]
  split
  · have hflushed := hP.flush hs
    split
    · next heq =>
      rw [heq] at hflushed
      exact hflushed
    · next heq =>
      rw [heq] at hflushed
      exact hP.snapshotOf hflushed
  · exact hP.snapshotOf hs

theorem keepCheckpoint {outcome : Outcome Checkpoint} (h : P outcome.2) :
    P (Session.keepCheckpoint outcome).2 := by
  unfold Session.keepCheckpoint
  split
  · exact hP.of_agrees h ⟨fun _ => rfl, rfl, rfl⟩
  · exact h

theorem openWriter {o : Opening} {conflictRetries : Option Int32} {plain : Bool} (hs : P s) :
    P (s.openWriter o conflictRetries plain).2 := by
  simp only [Session.openWriter]
  split
  · exact hP.settle (hP.agrees (.setStore _ _ _) hs)
  · next pipeline store hopened =>
    -- the loop starts over what the opening restored
    obtain ⟨checkpoints, -, rfl⟩ := Opening.exists_restore_of_begin hopened
    apply hP.settle
    refine hP.agrees (.carryOut (answer_notMem_start _ _)) ?_
    have hjoined : ∀ station : Station, station.loop = (EventLoop.start
        (Pipeline.restore { settings := o.settings } (o.restored ++ checkpoints) s.now) s.now).1 →
        P { s.setStore s.presentStore store with
          stations := (s.setStore s.presentStore store).stations ++ [station] } :=
      fun station hstation => hP.join o.settings (o.restored ++ checkpoints) s.now s.now hstation
        (hP.agrees (.setStore _ _ _) hs)
    -- the writer that was open before is let go, if there was one
    cases (s.setStore s.presentStore store).current with
    | none =>
      refine hP.agrees (.planWake _ _ _) ?_
      exact hP.of_agrees (hjoined _ rfl) ⟨fun _ => rfl, rfl, rfl⟩
    | some previous =>
      refine hP.agrees (.release _ previous) (hP.agrees (.planWake _ _ _) ?_)
      exact hP.of_agrees (hjoined _ rfl) ⟨fun _ => rfl, rfl, rfl⟩

theorem takeWriter? (htaken : s.takeWriter? = some (i, s')) (hs : P s) : P s' := by
  unfold Session.takeWriter? at htaken
  split at htaken
  · cases htaken
  · split at htaken
    · cases htaken
    · cases htaken
      exact hP.of_agrees hs ⟨fun _ => rfl, rfl, rfl⟩

theorem beginClose (hs : P s) : P (s.beginClose i).2 :=
  hP.agrees (.release _ _) (hP.begin i .close hs)

/-- **What lasts survives every action.** -/
theorem act {action : Action} (hs : P s) : P (s.act action) := by
  cases action with
  | openWriter o conflictRetries plain => exact hP.openWriter hs
  | write d =>
    simp only [Session.act, Session.write]
    split
    · exact hs
    · exact hP.settle (hP.ask _ _ (hP.of_agrees hs ⟨fun _ => rfl, rfl, rfl⟩))
  | flush => exact hP.flush hs
  | snapshot =>
    simp only [Session.act, Session.snapshot]
    split
    · exact hs
    · exact hP.keepCheckpoint (hP.snapshotOf hs)
  | snapshotState =>
    simp only [Session.act, Session.snapshotState]
    split
    · exact hs
    · exact hP.keepCheckpoint (hP.checkpointOf hs)
  | storeCheckpoint =>
    simp only [Session.act, Session.storeCheckpoint]
    split
    · exact hs
    · next i _ =>
      have htaken := hP.checkpointOf (i := i) hs
      split
      · next heq =>
        rw [heq] at htaken
        exact hP.of_agrees htaken ⟨fun _ => rfl, rfl, rfl⟩
      · next heq =>
        rw [heq] at htaken
        exact htaken
  | stats =>
    simp only [Session.act, Session.stats]
    split
    · exact hs
    · next i _ =>
      have hasked := hP.ask i .stats hs
      split
      all_goals
        next heq =>
        rw [heq] at hasked
        exact hP.settle hasked
  | close =>
    simp only [Session.act, Session.close]
    split
    · exact hs
    · next htaken =>
      exact hP.settle (hP.waitFor (hP.beginClose (hP.takeWriter? htaken hs)))
  | drop =>
    simp only [Session.act, Session.drop]
    split
    · exact hs
    · next htaken => exact hP.settle (hP.agrees (.release _ _) (hP.takeWriter? htaken hs))
  | flushInBackground name =>
    simp only [Session.act, Session.flushInBackground]
    split
    · exact hs
    · exact hP.settle (hP.of_agrees (hP.begin _ .flush hs) ⟨fun _ => rfl, rfl, rfl⟩)
  | closeInBackground name =>
    simp only [Session.act, Session.closeInBackground]
    split
    · exact hs
    · next htaken =>
      apply hP.settle
      exact hP.of_agrees (hP.beginClose (hP.takeWriter? htaken hs)) ⟨fun _ => rfl, rfl, rfl⟩
  | poll name =>
    simp only [Session.act, Session.poll]
    split <;> exact hs
  | join name =>
    simp only [Session.act, Session.join]
    split
    · exact hs
    · exact hP.settle (hP.of_agrees (hP.waitFor hs) ⟨fun _ => rfl, rfl, rfl⟩)
  | sleep ms => exact hP.sleep hs
  | newStore => exact hP.of_agrees hs ⟨fun _ => rfl, rfl, rfl⟩
  | changeStore change => exact hP.agrees (.setStore _ _ _) hs
  | releasePermits count =>
    have hstored := hP.agrees (.setStore s s.presentStore
      ((s.storeAt s.presentStore).release count).2) hs
    apply hP.settle
    exact hP.agrees (.foldl_plan (fun x agenda => agenda.call (.passage x)) _ _) hstored
  | report => exact hP.of_agrees hs ⟨fun _ => rfl, rfl, rfl⟩

/-- **What lasts holds in every session.** -/
theorem after (hnew : P {}) (actions : List Action) : P (Session.after actions) := by
  induction actions using List.reverseRecOn with
  | nil => exact hnew
  | append_singleton actions action ih =>
    rw [Session.after, List.foldl_append]
    exact hP.act ih

end Lasting

end Session

end BulkDelivery
