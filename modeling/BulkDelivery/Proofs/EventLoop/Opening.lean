import BulkDelivery.Opening
import BulkDelivery.Proofs.EventLoop.Settlement
import Mathlib.Data.List.Forall2

/-!
# Opening is all or nothing

Opening a writer takes four steps, and each of them may fail: the settings are checked, every stored
checkpoint is read, a connection is made, and the connection is checked.  Only the last two involve
the store.  The first fault is what the caller is told, and nothing is undone because nothing has
been done: work is taken over only when all four have passed.

What is taken over is sent before anything that is written later.  It may be sent again behind later
operations, as anything may that failed, but the first time it goes ahead of them.

## Main definitions

* `Provision`, `Opening.of` — what a caller provides, and an opening put together of it.
* `Decodes` — what stored checkpoints hold.
* `Opening.Opens` — how opening goes.

## Main results

* `Opening.of_eq` — the order of the provisions matters only among those of a kind.
* `Opening.begin_eq_iff` — how opening goes is determined.
* `Journal.RetriedFirst.take_prefix` — who arrived earlier is sent earlier the first time.
* `Opening.opening_is_all_or_nothing` — **the first fault is told and nothing is done, or all work
  is taken over and goes ahead.**
-/

namespace BulkDelivery

/-! ### Putting an opening together -/

/-- What a caller provides to open a writer with. -/
inductive Provision
  /-- The limits, in place of those given so far. -/
  | settings (settings : Settings)
  /-- More checkpoints to restore. -/
  | checkpoints (checkpoints : List Checkpoint)
  /-- One more stored checkpoint to restore. -/
  | stored (bytes : Bytes)
  /-- The number among the writers that work in parallel. -/
  | subtask (subtask : UInt32)
  deriving DecidableEq, Inhabited

namespace Provision

/-- The limits, if these are what is provided. -/
def settings? : Provision → Option Settings
  | settings s => some s
  | _ => none

/-- The checkpoints that are provided as such. -/
def restored : Provision → List Checkpoint
  | checkpoints cs => cs
  | _ => []

/-- The stored checkpoint, if this is what is provided. -/
def stored? : Provision → Option Bytes
  | stored b => some b
  | _ => none

/-- The number among the writers that work in parallel, if this is what is provided. -/
def subtask? : Provision → Option UInt32
  | subtask n => some n
  | _ => none

end Provision

namespace Opening

/-- Open with one more provision. -/
def providing (o : Opening) : Provision → Opening
  | .settings s => o.withSettings s
  | .checkpoints cs => o.restoring cs
  | .stored b => o.resuming b
  | .subtask n => o.asSubtask n

/-- What a caller opens with who starts from some limits and gives the provisions one by one. -/
def of (settings : Settings) (ps : List Provision) : Opening :=
  ps.foldl providing { settings }

/-- The order of the provisions matters only among those of a kind: the last limits count, and all
checkpoints are restored in the order given. -/
theorem of_eq (settings : Settings) (ps : List Provision) : of settings ps =
    { settings := (ps.filterMap Provision.settings?).getLastD settings
      restored := ps.flatMap Provision.restored
      stored := ps.filterMap Provision.stored?
      subtask := (ps.filterMap Provision.subtask?).getLastD 0 } := by
  induction ps using List.reverseRecOn with
  | nil => rfl
  | append_singleton ps p ih =>
    rw [of, List.foldl_append, ← of, ih]
    cases p <;>
      simp [providing, withSettings, restoring, resuming, asSubtask, Provision.settings?,
        Provision.restored, Provision.stored?, Provision.subtask?]

end Opening

/-! ### Reading what is stored -/

/-- The stored checkpoints are these, one by one. -/
def Decodes (stored : List Bytes) (checkpoints : List Checkpoint) : Prop :=
  List.Forall₂ (fun b c => Checkpoint.decode b = .ok c) stored checkpoints

theorem decodeAll_cons_of_error {b : Bytes} {e : DecodeError} (h : Checkpoint.decode b = .error e)
    (rest : List Bytes) : decodeAll (b :: rest) = .error e := by
  rw [decodeAll, h]
  rfl

theorem decodeAll_cons_of_ok {b : Bytes} {c : Checkpoint} (h : Checkpoint.decode b = .ok c)
    (rest : List Bytes) : decodeAll (b :: rest) = (decodeAll rest).map (c :: ·) := by
  rw [decodeAll, h]
  cases decodeAll rest <;> rfl

theorem Decodes.decodeAll_eq {stored : List Bytes} {cs : List Checkpoint}
    (h : Decodes stored cs) : decodeAll stored = .ok cs := by
  induction h with
  | nil => rfl
  | cons hfirst _ ih =>
    rw [decodeAll_cons_of_ok hfirst, ih]
    rfl

/-- Reading stops at the first one that cannot be read. -/
theorem decodeAll_of_corrupt {front : List Bytes} {cs : List Checkpoint} {b : Bytes}
    {e : DecodeError} (hfront : Decodes front cs) (hfault : Checkpoint.decode b = .error e)
    (back : List Bytes) : decodeAll (front ++ b :: back) = .error e := by
  induction hfront with
  | nil => exact decodeAll_cons_of_error hfault back
  | cons hfirst _ ih =>
    rw [List.cons_append, decodeAll_cons_of_ok hfirst, ih]
    rfl

/-- All can be read, or there is a first one that cannot. -/
theorem decodes_or_corrupt (stored : List Bytes) :
    (∃ cs, Decodes stored cs) ∨ ∃ front b back cs e, stored = front ++ b :: back ∧
      Decodes front cs ∧ Checkpoint.decode b = .error e := by
  induction stored with
  | nil => exact .inl ⟨[], .nil⟩
  | cons b rest ih =>
    cases hb : Checkpoint.decode b with
    | error e => exact .inr ⟨[], b, rest, [], e, rfl, .nil, hb⟩
    | ok c =>
      rcases ih with ⟨cs, hcs⟩ | ⟨front, b', back, cs, e, rfl, hfront, hfault⟩
      · exact .inl ⟨c :: cs, .cons hb hcs⟩
      · exact .inr ⟨b :: front, b', back, c :: cs, e, rfl, .cons hb hfront, hfault⟩

/-- A new pipeline starts with what is restored in its buffer. -/
theorem Pipeline.restore_new (settings : Settings) (checkpoints : List Checkpoint) (now : Time) :
    restore { settings } checkpoints now =
      { settings
        buffer :=
          let entries := (checkpoints.flatMap Checkpoint.operations).map (Entry.of · now)
          { entries, byteTotal := totalSize entries } } := by
  simp [restore_eq]

namespace Opening

variable {Store : Type}

/-- How opening goes. -/
inductive Opens (o : Opening) (c : Connector Store) (s : Store) (now : Time) :
    Except DeliveryError Pipeline × Store → Prop
  /-- The settings are refused. -/
  | refused {e : SettingsError} (hsettings : o.settings.validate = .error e) :
      Opens o c s now (.error (.invalidSettings e), s)
  /-- A stored checkpoint cannot be read, and all before it can. -/
  | corrupt {front back : List Bytes} {b : Bytes} {cs : List Checkpoint} {e : DecodeError}
      (hsettings : o.settings.validate = .ok ()) (hstored : o.stored = front ++ b :: back)
      (hfront : Decodes front cs) (hfault : Checkpoint.decode b = .error e) :
      Opens o c s now (.error (.corruptState e), s)
  /-- No connection is made. -/
  | unconnected {cs : List Checkpoint} {f : TransportFailure}
      (hsettings : o.settings.validate = .ok ()) (hread : Decodes o.stored cs)
      (hconnect : c.connect s = .error f) :
      Opens o c s now (.error (connectError (c.classify s f) f), s)
  /-- The connection does not stand the check. -/
  | unverified {cs : List Checkpoint} {s' : Store} {f : TransportFailure}
      (hsettings : o.settings.validate = .ok ()) (hread : Decodes o.stored cs)
      (hconnect : c.connect s = .ok s') (hverify : c.verify s' = .error f) :
      Opens o c s now (.error (connectError (c.classify s' f) f), s')
  /-- The writer starts, with nothing but the restored operations in its buffer. -/
  | opened {cs : List Checkpoint} {s' : Store}
      (hsettings : o.settings.validate = .ok ()) (hread : Decodes o.stored cs)
      (hconnect : c.connect s = .ok s') (hverify : c.verify s' = .ok ()) :
      Opens o c s now (.ok {
        settings := o.settings
        buffer :=
          let entries := ((o.restored ++ cs).flatMap Checkpoint.operations).map (Entry.of · now)
          { entries, byteTotal := totalSize entries } }, s')

variable {o : Opening} {c : Connector Store} {s : Store} {now : Time}
  {r : Except DeliveryError Pipeline × Store}

theorem work_of_decodes {cs : List Checkpoint} (hsettings : o.settings.validate = .ok ())
    (hread : Decodes o.stored cs) : o.work = .ok (o.restored ++ cs) := by
  rw [work, hsettings, hread.decodeAll_eq]

/-- A step that fails is what the caller is told. -/
theorem Opens.begin_eq (h : o.Opens c s now r) : o.begin c s now = r := by
  cases h with
  | refused hsettings => rw [begin, work, hsettings]
  | corrupt hsettings hstored hfront hfault =>
    rw [begin, work, hsettings, hstored, decodeAll_of_corrupt hfront hfault]
  | unconnected hsettings hread hconnect =>
    rw [begin, work_of_decodes hsettings hread, connect, hconnect]
  | unverified hsettings hread hconnect hverify =>
    simp only [begin, work_of_decodes hsettings hread, connect, hconnect, hverify]
  | opened hsettings hread hconnect hverify =>
    simp only [begin, work_of_decodes hsettings hread, connect, hconnect, hverify,
      Pipeline.restore_new]

/-- Every opening goes somehow. -/
theorem exists_opens (o : Opening) (c : Connector Store) (s : Store) (now : Time) :
    ∃ r, o.Opens c s now r := by
  cases hsettings : o.settings.validate with
  | error e => exact ⟨_, .refused hsettings⟩
  | ok =>
    rcases decodes_or_corrupt o.stored with
      ⟨cs, hread⟩ | ⟨front, b, back, cs, e, hstored, hfront, hb⟩
    · cases hconnect : c.connect s with
      | error f => exact ⟨_, .unconnected hsettings hread hconnect⟩
      | ok s' =>
        cases hverify : c.verify s' with
        | error f => exact ⟨_, .unverified hsettings hread hconnect hverify⟩
        | ok => exact ⟨_, .opened hsettings hread hconnect hverify⟩
    · exact ⟨_, .corrupt hsettings hstored hfront hb⟩

/-- How opening goes is determined. -/
theorem begin_eq_iff : o.begin c s now = r ↔ o.Opens c s now r := by
  constructor
  · rintro rfl
    obtain ⟨r, hr⟩ := o.exists_opens c s now
    rw [hr.begin_eq]
    exact hr
  · exact Opens.begin_eq

/-- As long as the settings are refused or a stored checkpoint cannot be read, the store does not
matter, and nothing is done to it. -/
theorem readable_or_untouched (o : Opening) (now : Time) :
    (o.settings.validate = .ok () ∧ ∃ cs, Decodes o.stored cs) ∨
      ∃ e, ∀ (Store : Type) (c : Connector Store) (s : Store),
        o.begin c s now = (.error e, s) := by
  cases hsettings : o.settings.validate with
  | error e => exact .inr ⟨_, fun _ c s => begin_eq_iff.2 (.refused hsettings)⟩
  | ok =>
    rcases decodes_or_corrupt o.stored with hread | ⟨front, b, back, cs, e, hstored, hfront, hb⟩
    · exact .inl ⟨rfl, hread⟩
    · exact .inr ⟨_, fun _ c s => begin_eq_iff.2 (.corrupt hsettings hstored hfront hb)⟩

/-- What a writer starts with is what was restored. -/
theorem exists_restore_of_begin {p : Pipeline} {s' : Store}
    (h : o.begin c s now = (.ok p, s')) : ∃ cs, Decodes o.stored cs ∧
      p = Pipeline.restore { settings := o.settings } (o.restored ++ cs) now := by
  cases begin_eq_iff.1 h with
  | opened hsettings hread hconnect hverify =>
    exact ⟨_, hread, (Pipeline.restore_new _ _ now).symm⟩

end Opening

/-! ### Restored work goes ahead -/

/-- Who arrived earlier is sent earlier the first time: before an operation that is not among the
first `n` is sent, these all have been. -/
theorem Journal.RetriedFirst.take_prefix {j : Journal} {waited fresh front back : List Occurrence}
    {x : Occurrence} {n : Nat} (h : j.RetriedFirst waited fresh)
    (hx : j.firstDispatches = front ++ x :: back) (hn : n ≤ x.2) :
    j.arrivals.zipIdx.take n <+: front := by
  have harrivals : j.arrivals.zipIdx = front ++ x :: (back ++ fresh) := by
    rw [← h.arrivals, hx, List.append_assoc, List.cons_append]
  -- the number of an operation is its place among the arrivals
  have hplace : j.arrivals.zipIdx[front.length]? = some x := by
    rw [harrivals, List.getElem?_append_right (Nat.le_refl _), Nat.sub_self,
      List.getElem?_cons_zero]
  rw [List.getElem?_zipIdx, Option.map_eq_some_iff] at hplace
  obtain ⟨e, -, rfl⟩ := hplace
  rw [harrivals, List.take_append_of_le_length (by simpa using hn)]
  exact List.take_prefix n front

namespace EventLoop

variable (settings : Settings) (checkpoints : List Checkpoint) (openedAt startedAt : Time)
  (events : List (Moment × Event))

/-- The batches that a loop submits are those of its journal, in the order of their numbers. -/
theorem dispatched_journal :
    (journal settings checkpoints openedAt startedAt events).dispatched.map Prod.fst =
      submissions (trace settings checkpoints openedAt startedAt events) := by
  rw [journal, Journal.batches_run, submissions_trace]
  rfl

/-- Whatever happens to a loop, what was restored is sent before anything that was written is sent
for the first time. -/
theorem restored_ahead :
    let restored := checkpoints.flatMap Checkpoint.operations
    let j := journal settings checkpoints openedAt startedAt events
    ∀ front x back, j.firstDispatches = front ++ x :: back → restored.length ≤ x.2 →
      j.arrivals.zipIdx.take restored.length <+: front := by
  intro restored j front x back hx hn
  obtain ⟨waited, fresh, h⟩ := Journal.retriedFirst_run settings checkpoints openedAt
    (allMoves settings checkpoints openedAt startedAt events)
  exact h.take_prefix hx hn

end EventLoop

/-- **The first fault is told and nothing is done, or all work is taken over and goes ahead.**

A caller gives limits, checkpoints and stored checkpoints in any order, and the store behaves in any
way.  The last limits count, and the checkpoints of each kind are restored in the order given.
Opening fails for the settings, for the first stored checkpoint that cannot be read, for the
connection, or for its check, and in the first two cases the store is left alone.  Otherwise the
writer starts with the operations of all checkpoints, then those of all stored checkpoints, each in
its own order, however many they are, and it has admitted none of them.  Whatever happens to its
loop then, its batches, by number and by place in the batch, bring everything that was restored
before they bring anything that was written. -/
theorem Opening.opening_is_all_or_nothing {Store : Type} (settings : Settings)
    (ps : List Provision) (c : Connector Store) (s : Store) (now : Time) :
    let o := Opening.of settings ps
    (o.settings = (ps.filterMap Provision.settings?).getLastD settings ∧
      o.restored = ps.flatMap Provision.restored ∧
      o.stored = ps.filterMap Provision.stored?) ∧
    (∀ r, o.begin c s now = r ↔ o.Opens c s now r) ∧
    ((o.settings.validate = .ok () ∧ ∃ cs, Decodes o.stored cs) ∨
      ∃ e, ∀ (Store' : Type) (c' : Connector Store') (s' : Store'),
        o.begin c' s' now = (.error e, s')) ∧
    ∀ p s', o.begin c s now = (.ok p, s') → ∃ cs, Decodes o.stored cs ∧
      p.buffer.operations = (o.restored ++ cs).flatMap Checkpoint.operations ∧ p.tally = {} ∧
      ∀ startedAt events,
        let (first, effects) := EventLoop.start p startedAt
        let j := EventLoop.journal o.settings (o.restored ++ cs) now startedAt events
        (j.Faithful ∧ j.pipeline = (first.run events).1.pipeline ∧
          j.dispatched.map Prod.fst = EventLoop.submissions (effects ++ (first.run events).2) ∧
          (j.dispatched.map Prod.fst).map Batch.id = List.range j.pipeline.nextId) ∧
        j.arrivals.map Entry.operation = p.buffer.operations ++ first.written events ∧
        ∀ front x back, j.firstDispatches = front ++ x :: back → p.buffer.length ≤ x.2 →
          j.arrivals.zipIdx.take p.buffer.length <+: front := by
  intro o
  have ho : o = _ := Opening.of_eq settings ps
  refine ⟨⟨congrArg Opening.settings ho, congrArg Opening.restored ho, congrArg Opening.stored ho⟩,
    fun r => begin_eq_iff, o.readable_or_untouched now, ?_⟩
  intro p s' hbegin
  obtain ⟨cs, hread, hp⟩ := exists_restore_of_begin hbegin
  have hbuffer : p.buffer.operations = (o.restored ++ cs).flatMap Checkpoint.operations := by
    simp [hp, Pipeline.restore_eq, Buffer.operations, Function.comp_def, Entry.of]
  have hlength : p.buffer.length = ((o.restored ++ cs).flatMap Checkpoint.operations).length := by
    rw [← hbuffer, Buffer.operations, List.length_map, Buffer.length]
  refine ⟨cs, hread, hbuffer, by rw [hp, Pipeline.restore_eq], ?_⟩
  intro startedAt events
  rw [hbuffer, hlength, hp]
  refine ⟨⟨EventLoop.faithful_journal _ _ now startedAt events,
    EventLoop.pipeline_journal _ _ now startedAt events,
    EventLoop.dispatched_journal _ _ now startedAt events, ?_⟩,
    EventLoop.arrivals_journal _ _ now startedAt events,
    EventLoop.restored_ahead _ _ now startedAt events⟩
  rw [EventLoop.dispatched_journal, EventLoop.id_submissions, EventLoop.pipeline_journal]

/-- Three operations are restored where two may be pending, those of the stored checkpoint last.
The first two are sent at once and acknowledged, and then there is room for a fourth, which is sent
behind the third.  With one more stored checkpoint that is empty, the store sees nothing of it. -/
theorem Opening.opening_is_all_or_nothing_beyond_capacity :
    let settings : Settings := { Settings.testing with maxBatchSize := 2, maxBuffered := 2 }
    let earlier : Checkpoint := { operations := [.delete "a", .delete "b"] }
    let stored : Checkpoint := { operations := [.delete "c"] }
    let ps : List Provision := [.stored stored.encode, .settings settings, .checkpoints [earlier]]
    let counting : Connector Nat :=
      { connect := fun n => .ok (n + 1), verify := fun _ => .ok (),
        classify := fun _ => elasticsearch.classify }
    let moment (now : Time) : Moment := { now, classify := elasticsearch.classify }
    let events := [
      (moment 1, .post 0 (.answered { items := [.success, .success], took := ⟨1⟩ })),
      (moment 1, .take), (moment 2, .request 0 (.write (.delete "d")))]
    let entry (target : String) (now : Time) : Entry := Entry.of (.delete target) now
    let restored := [(entry "a" 0, 0), (entry "b" 0, 1), (entry "c" 0, 2)]
    let j := EventLoop.journal settings [earlier, stored] 0 0 events
    (∃ p, (Opening.of {} ps).begin counting 0 0 = (.ok p, 1) ∧ p.buffer.length = 3 ∧ p.tally = {}) ∧
    j.firstDispatches = restored ++ [(entry "d" 2, 3)] ∧ j.arrivals.zipIdx.take 3 <+: restored ∧
    ∃ e, ∀ n, (Opening.of {} (ps ++ [.stored []])).begin counting n 0 = (.error e, n) := by
  intro settings earlier stored ps counting moment events entry restored j
  obtain ⟨-, hopens, -, hahead⟩ := opening_is_all_or_nothing {} ps counting 0 0
  have hread : Decodes [stored.encode] [stored] := .cons (by decide +kernel) .nil
  have hbegin := (hopens _).2 (.opened (by decide) hread rfl rfl)
  obtain ⟨cs, hread', -, htally, hrun⟩ := hahead _ _ hbegin
  obtain rfl : cs = [stored] :=
    Except.ok.inj (hread'.decodeAll_eq.symm.trans hread.decodeAll_eq)
  obtain ⟨-, -, hprefix⟩ := hrun 0 events
  have hfirst : j.firstDispatches = restored ++ [(entry "d" 2, 3)] := by decide +kernel
  refine ⟨⟨_, hbegin, rfl, htally⟩, hfirst, hprefix restored _ [] hfirst (Nat.le_refl 3),
    .corruptState .insufficientData, fun n => ?_⟩
  obtain ⟨-, hcorrupt, -⟩ := opening_is_all_or_nothing {} (ps ++ [.stored []]) counting n 0
  have hstored : (Opening.of {} (ps ++ [.stored []])).stored = [stored.encode] ++ [] :: [] := rfl
  exact (hcorrupt _).2 (.corrupt (by decide) hstored hread rfl)

end BulkDelivery
