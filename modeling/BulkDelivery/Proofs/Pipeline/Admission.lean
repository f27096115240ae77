import BulkDelivery.Proofs.Pipeline.Accounting
import BulkDelivery.Proofs.Pipeline.Pause

/-!
# Admission

A pipeline that is asked to admit an operation does all of it or nothing.  It looks at three things
in a fixed order: whether delivery has been halted, whether the encoding is longer than a record may
be, and whether as many operations are pending as may be, in the buffer and in every batch without
an answer together.  If none of them is in the way, then the operation joins the buffer at the back,
and otherwise the caller is told the first one that is, and nothing has happened.

So refused calls may be struck out of a run, and whoever was refused may ask again.

## Main definitions

* `Pipeline.Admits`, `Pipeline.Refuses` — what lets an operation in, and why it is refused.
* `Pipeline.admitting` — the pipeline with one more operation at the back of its buffer.
* `Pipeline.granted` — a run without the calls that were refused.

## Main results

* `Pipeline.accept_eq_ok_iff_admits`, `Pipeline.accept_eq_error_iff` — what admission answers.
* `Pipeline.moves_granted`, `Pipeline.admitted_eq_of_granted` — refused calls leave no trace.
* `Pipeline.admission_is_exact` — **an operation is admitted exactly if nothing is in the way, and
  otherwise nothing happens.**
-/

namespace BulkDelivery

/-- The operation that a call asks to admit. -/
def Move.offer? : Move → Option Operation
  | accept o _ => some o
  | _ => none

namespace Pipeline

variable {p p' : Pipeline} {o : Operation} {now : Time} {e : DeliveryError}

/-! ### What is in the way -/

/-- Nothing is in the way of an operation. -/
structure Admits (p : Pipeline) (o : Operation) : Prop where
  /-- Delivery has not been halted. -/
  running : p.halt = none
  /-- The encoding is no longer than a record may be. -/
  fits : o.encode.length ≤ p.settings.maxRecordBytes
  /-- Fewer operations wait and are in flight than may be pending. -/
  room : p.buffer.entries.length + (p.inFlight.map fun batch => batch.2.length).sum
    < p.settings.maxBuffered

/-- Why an operation is refused.  An operation that is too large is told so even if there is no room
either. -/
inductive Refuses (p : Pipeline) (o : Operation) : DeliveryError → Prop
  /-- Delivery has been halted. -/
  | halted {halt : Halt} (hhalt : p.halt = some halt) : Refuses p o (.halted halt)
  /-- The encoding is longer than a record may be. -/
  | tooLarge (hrun : p.halt = none) (hlarge : p.settings.maxRecordBytes < o.encode.length) :
      Refuses p o (.recordTooLarge o.encode.length p.settings.maxRecordBytes)
  /-- As many operations wait and are in flight as may be pending. -/
  | full (hrun : p.halt = none) (hfits : o.encode.length ≤ p.settings.maxRecordBytes)
      (hfull : p.settings.maxBuffered ≤
        p.buffer.entries.length + (p.inFlight.map fun batch => batch.2.length).sum) :
      Refuses p o (.bufferFull p.settings.maxBuffered)

/-- The pipeline with one more operation at the back of its buffer, and with nothing else changed
but the two sums that count it. -/
def admitting (p : Pipeline) (o : Operation) (now : Time) : Pipeline :=
  { p with
    buffer := {
      entries := p.buffer.entries ++
        [{ operation := o, size := o.encode.length, admittedAt := now }]
      byteTotal := p.buffer.byteTotal + o.encode.length }
    tally := { p.tally with admitted := p.tally.admitted + 1 } }

theorem pendingCount_eq_sum (p : Pipeline) : p.pendingCount =
    p.buffer.entries.length + (p.inFlight.map fun batch => batch.2.length).sum := by
  rw [pendingCount_eq, List.length_flatMap]

/-- An operation is admitted exactly if nothing is in the way. -/
theorem accept_eq_ok_iff_admits :
    p.accept o now = .ok p' ↔ p.Admits o ∧ p' = p.admitting o now := by
  have hentry : Entry.of o now =
      { operation := o, size := o.encode.length, admittedAt := now } := by
    rw [Operation.length_encode]
    rfl
  rw [accept_eq_ok_iff, pendingCount_eq_sum, Buffer.push, hentry, ← Operation.length_encode]
  constructor
  · rintro ⟨hrun, hfits, hroom, hp'⟩
    exact ⟨⟨hrun, hfits, hroom⟩, hp'⟩
  · rintro ⟨⟨hrun, hfits, hroom⟩, hp'⟩
    exact ⟨hrun, hfits, hroom, hp'⟩

/-- Nothing is in the way, or there is a reason to refuse. -/
theorem admits_or_refuses (p : Pipeline) (o : Operation) : p.Admits o ∨ ∃ e, p.Refuses o e := by
  cases hhalt : p.halt with
  | some halt => exact .inr ⟨_, .halted hhalt⟩
  | none =>
    rcases Nat.lt_or_ge p.settings.maxRecordBytes o.encode.length with hlarge | hfits
    · exact .inr ⟨_, .tooLarge hhalt hlarge⟩
    · rcases Nat.lt_or_ge _ p.settings.maxBuffered with hroom | hfull
      · exact .inl ⟨hhalt, hfits, hroom⟩
      · exact .inr ⟨_, .full hhalt hfits hfull⟩

/-- What is in the way is what the caller is told. -/
theorem Refuses.accept_eq (h : p.Refuses o e) : p.accept o now = .error e := by
  rw [accept, ← Operation.length_encode, pendingCount_eq_sum]
  cases h with
  | halted hhalt => simp [hhalt]
  | tooLarge hrun hlarge => simp [hrun, hlarge]
  | full hrun hfits hfull => simp [hrun, Nat.not_lt.2 hfits, hfull]

/-- An operation is refused exactly for what is in the way. -/
theorem accept_eq_error_iff : p.accept o now = .error e ↔ p.Refuses o e := by
  constructor
  · intro herror
    rcases p.admits_or_refuses o with hadmits | ⟨e', hrefuses⟩
    · rw [accept_eq_ok_iff_admits.2 ⟨hadmits, rfl⟩] at herror
      cases herror
    · obtain rfl : e' = e := Except.error.inj (hrefuses.accept_eq.symm.trans herror)
      exact hrefuses
  · exact Refuses.accept_eq

/-! ### Refused calls leave no trace -/

/-- Whether a call is refused. -/
def isRefused (p : Pipeline) : Move → Bool
  | .accept o now => !(p.accept o now).isOk
  | _ => false

/-- What is left of a run without the calls that were refused. -/
def granted : Pipeline → List Move → List Move
  | _, [] => []
  | p, m :: ms => if p.isRefused m then granted p ms else m :: granted (p.move m) ms

theorem isRefused_iff {m : Move} :
    p.isRefused m ↔ ∃ o now e, m = .accept o now ∧ p.accept o now = .error e := by
  cases m with
  | accept o now =>
    cases haccept : p.accept o now with
    | ok p' => simp [isRefused, haccept, Except.isOk, Except.toBool]
    | error e => simp [isRefused, haccept, Except.isOk, Except.toBool]
  | dispatch now force => simp [isRefused]
  | resolve id outcome now classify => simp [isRefused]

/-- A refused call changes nothing. -/
theorem move_of_isRefused {m : Move} (h : p.isRefused m) : p.move m = p := by
  obtain ⟨o, now, e, rfl, herror⟩ := isRefused_iff.1 h
  rw [move, herror]
  rfl

/-- A refused call admits nothing, and any other call to admit admits what it asks for. -/
theorem admits_eq (p : Pipeline) (m : Move) :
    p.admits m = if p.isRefused m then [] else m.offer?.toList := by
  cases m with
  | accept o now => cases h : (p.accept o now).isOk <;> simp [admits, isRefused, Move.offer?, h]
  | dispatch now force => rfl
  | resolve id outcome now classify => rfl

/-- A run is what it is without the calls that were refused. -/
theorem moves_granted (p : Pipeline) (ms : List Move) : p.moves (p.granted ms) = p.moves ms := by
  induction ms generalizing p with
  | nil => rfl
  | cons m ms ih =>
    rw [granted, moves_cons]
    by_cases hrefused : p.isRefused m
    · rw [if_pos hrefused, ih, move_of_isRefused hrefused]
    · rw [if_neg hrefused, moves_cons, ih]

/-- What a run admits is what is asked for in the calls that were not refused. -/
theorem admitted_eq_of_granted (p : Pipeline) (ms : List Move) :
    p.admitted ms = (p.granted ms).filterMap Move.offer? := by
  induction ms generalizing p with
  | nil => rfl
  | cons m ms ih =>
    rw [granted, admitted, admits_eq]
    by_cases hrefused : p.isRefused m
    · rw [if_pos hrefused, if_pos hrefused, move_of_isRefused hrefused, ih, List.nil_append]
    · rw [if_neg hrefused, if_neg hrefused, ih]
      cases hoffer : m.offer? <;> simp [hoffer]

/-! ### Every state of every run -/

/-- **An operation is admitted exactly if nothing is in the way, and otherwise nothing happens.**

A new pipeline takes over the operations of checkpoints, and then any calls follow, with any
outcomes.  Whenever an operation is then to be admitted, it is if and only if delivery has not been
halted, the encoding is no longer than a record may be, and fewer operations wait and are in flight,
in all batches together, than may be pending.  Then it joins the buffer at the back, with the length
of its encoding and the given time, and besides only the number of octets and the number of admitted
operations change.  Otherwise it is refused for the first thing in the way, and the pipeline stays
as it is, whatever is called afterwards.  So a run is what it is without the calls that were
refused, it admits what the others ask for, and the octets that it counts are those of the encodings
of what waits. -/
theorem admission_is_exact (settings : Settings) (checkpoints : List Checkpoint) (opened : Time)
    (ms : List Move) (o : Operation) (now : Time) :
    let start := restore { settings } checkpoints opened
    let p := start.moves ms
    p.settings = settings ∧
    (∀ p', p.accept o now = .ok p' ↔ p.Admits o ∧ p' = p.admitting o now) ∧
    (∀ e, p.accept o now = .error e ↔ p.Refuses o e) ∧
    (∀ e, p.accept o now = .error e →
      ∀ later, p.moves (.accept o now :: later) = p.moves later) ∧
    start.moves (start.granted ms) = p ∧
    start.admitted ms = (start.granted ms).filterMap Move.offer? ∧
    p.buffer.byteTotal = (p.buffer.operations.map fun o => o.encode.length).sum := by
  intro start p
  refine ⟨settings_restore_moves settings checkpoints opened ms,
    fun p' => accept_eq_ok_iff_admits, fun e => accept_eq_error_iff, ?_,
    moves_granted start ms, admitted_eq_of_granted start ms,
    byteTotal_eq_sum settings checkpoints opened ms⟩
  intro e herror later
  rw [moves_cons, move_of_isRefused (isRefused_iff.2 ⟨o, now, e, rfl, herror⟩)]

/-- Two operations may be pending.  With one in flight and one that waits, a document is refused for
want of room, and a larger one for its size.  The one in flight is acknowledged, and the document is
admitted.  The next answer halts delivery, and then nothing else is looked at. -/
theorem admission_is_exact_at_every_turn :
    let settings : Settings :=
      { Settings.testing with maxBatchSize := 2, maxBuffered := 2, maxRecordBytes := 20 }
    let start := restore { settings } [] 0
    let document := Operation.index "d" [1, 2, 3]
    let large := Operation.index "d" [1, 2, 3, 4, 5, 6]
    let full : List Move := [.accept (.delete "a") 0, .dispatch 0 true, .accept (.delete "b") 1]
    let acknowledged : Move :=
      .resolve 0 (.answered { items := [.success], took := ⟨1⟩ }) 2 elasticsearch.classify
    let denied : Move :=
      .resolve 1 (.failed { kind := .unauthorized, message := "key" }) 5 elasticsearch.classify
    let p := start.moves full
    let q := start.moves (full ++ [.accept document 1, .accept large 1, acknowledged])
    let r := start.moves (full ++ [acknowledged, .dispatch 3 true, denied])
    p.accept document 1 = .error (.bufferFull 2) ∧
    p.accept large 1 = .error (.recordTooLarge 21 20) ∧
    q = start.moves (full ++ [acknowledged]) ∧
    q.accept document 3 = .ok (q.admitting document 3) ∧
    (q.admitting document 3).buffer.entries = [
      { operation := .delete "b", size := 11, admittedAt := 1 },
      { operation := document, size := 18, admittedAt := 3 }] ∧
    ∃ halt, r.accept large 6 = .error (.halted halt) := by
  intro settings start document large full acknowledged denied p q r
  obtain ⟨-, -, hrefused, hagain, -⟩ := admission_is_exact settings [] 0 full document 1
  obtain ⟨-, -, hlarge, hlargeAgain, -⟩ := admission_is_exact settings [] 0 full large 1
  obtain ⟨-, hadmitted, -⟩ := admission_is_exact settings [] 0
    (full ++ [.accept document 1, .accept large 1, acknowledged]) document 3
  obtain ⟨-, -, hhalted, -⟩ := admission_is_exact settings [] 0
    (full ++ [acknowledged, .dispatch 3 true, denied]) large 6
  have hfull : p.accept document 1 = .error (.bufferFull 2) :=
    (hrefused _).2 (.full (by decide +kernel) (by decide +kernel) (by decide +kernel))
  have htooLarge : p.accept large 1 = .error (.recordTooLarge 21 20) :=
    (hlarge _).2 (.tooLarge (by decide +kernel) (by decide +kernel))
  have hsame : q = start.moves (full ++ [acknowledged]) := by
    have hq : q = p.moves [.accept document 1, .accept large 1, acknowledged] :=
      moves_append start full _
    rw [hq, hagain _ hfull, hlargeAgain _ htooLarge]
    exact (moves_append start full _).symm
  refine ⟨hfull, htooLarge, hsame, ?_, by decide +kernel, ?_⟩
  · exact (hadmitted _).2
      ⟨⟨by decide +kernel, by decide +kernel, by decide +kernel⟩, rfl⟩
  · have hsome : r.halt.isSome := by decide +kernel
    obtain ⟨halt, hhalt⟩ := Option.isSome_iff_exists.1 hsome
    exact ⟨halt, (hhalted _).2 (.halted hhalt)⟩

end Pipeline

end BulkDelivery
