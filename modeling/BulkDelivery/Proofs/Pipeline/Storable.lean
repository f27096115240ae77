import BulkDelivery.Proofs.Format.Truncation
import BulkDelivery.Proofs.Pipeline.Pause

/-!
# Whether a checkpoint can hold what is admitted

The stored form has four octets for the length of a target, of a payload and of an encoding, and
writing a length drops the digits that do not fit.  Admission knows nothing of this: it compares the
size of an operation with the largest size that the settings allow, and settings pass validation
whatever that size is.  So the limit decides.  Below 2^32 every length of an admitted operation
fits, and every checkpoint comes back as it was.  From 2^32 on an operation is admitted whose
length does not fit, and a checkpoint of it cannot be read.

## Main results

* `Operation.exists_size_eq` — there are operations of every size.
* `Checkpoint.decode_of_too_long` — the stored form of an operation that is too long cannot be read.
* `Pipeline.size_le_of_mem_admitted`, `Pipeline.mem_admitted_of_mem_pending` — what is admitted is
  within the limit, and nothing else is pending.
* `Pipeline.checkpoints_hold_iff` — **a checkpoint can hold what is admitted if and only if the
  largest size allowed is below 2^32.**
* `Pipeline.checkpoint_does_not_hold` — settings that allow more pass validation.
-/

namespace BulkDelivery

/-! ### Operations that are too long -/

namespace Operation

theorem size_index (target : String) (payload : Bytes) :
    (index target payload).size = 14 + target.utf8ByteSize + payload.length := by
  simp only [size, index]
  omega

theorem payloadLength_index (target : String) (payload : Bytes) :
    (index target payload).payloadLength = payload.length := rfl

/-- There are operations of every size from that of an empty document on. -/
theorem exists_size_eq {n : Nat} (h : 14 ≤ n) : ∃ o : Operation, o.size = n := by
  refine ⟨index "" (List.replicate (n - 14) 0), ?_⟩
  have hempty : "".utf8ByteSize = 0 := rfl
  rw [size_index, List.length_replicate, hempty]
  omega

end Operation

/-- The stored form of an operation that is too long cannot be read: one operation is announced, and
none that could be read is as long. -/
theorem Checkpoint.decode_of_too_long {o : Operation} (h : 2 ^ 32 ≤ o.encode.length) :
    ∃ e, decode (encode { operations := [o] }) = .error e := by
  refine Except.exists_eq_error fun c hread => ?_
  obtain ⟨hbytes, hfits⟩ := eq_encode_of_decode hread
  rw [encode_eq, encode_eq] at hbytes
  simp only [List.append_cancel_left_eq, List.cons.injEq, true_and] at hbytes
  obtain ⟨hcount, hrest⟩ := List.append_inj hbytes (by
    rw [length_littleEndian, length_littleEndian])
  -- what is read is one operation, and it is as long as the one that was written
  have hone : 1 = c.operations.length :=
    eq_of_littleEndian_eq (by decide) (length_width ▸ hfits.count) hcount
  obtain ⟨o', ho'⟩ := List.length_eq_one_iff.1 hone.symm
  have hlength := congrArg List.length hrest
  simp only [ho', List.flatMap_cons, List.flatMap_nil, frame, List.length_append, List.length_nil,
    length_littleEndian] at hlength
  have hframe : o'.encode.length < 2 ^ 32 := hfits.frames o' (by simp [ho'])
  omega

namespace Pipeline

variable {p : Pipeline} {o : Operation} {settings : Settings} {opened : Time}

/-! ### What is admitted and what is pending -/

theorem size_le_of_mem_admits {m : Move} (h : o ∈ p.admits m) :
    o.size ≤ p.settings.maxRecordBytes := by
  cases m with
  | accept o' now =>
    cases haccept : p.accept o' now with
    | error e => simp [admits, haccept, Except.isOk, Except.toBool] at h
    | ok q =>
      obtain rfl : o = o' := by
        simpa [admits, haccept, Except.isOk, Except.toBool] using h
      exact (accept_eq_ok_iff.1 haccept).2.1
  | dispatch now force => simp [admits] at h
  | resolve id outcome now classify => simp [admits] at h

/-- What is admitted is within the limit. -/
theorem size_le_of_mem_admitted {ms : List Move} (h : o ∈ p.admitted ms) :
    o.size ≤ p.settings.maxRecordBytes := by
  induction ms generalizing p with
  | nil => simp [admitted] at h
  | cons m ms ih =>
    rw [admitted, List.mem_append] at h
    rcases h with hfirst | hlater
    · exact size_le_of_mem_admits hfirst
    · have hlimit := ih hlater
      rwa [settings_move] at hlimit

/-- Without restored operations, nothing but what was admitted is pending. -/
theorem mem_admitted_of_mem_pending {ms : List Move}
    (h : o ∈ ((restore { settings } [] opened).moves ms).pending) :
    o ∈ (restore { settings } [] opened).admitted ms := by
  have hfaithful := Journal.faithful_run settings [] opened ms
  have hpipeline : ((Journal.opening settings [] opened).run ms).pipeline =
      (restore { settings } [] opened).moves ms := Journal.pipeline_run _ ms
  have harrivals := Journal.arrivals_run (Journal.opening settings [] opened) ms
  rw [Journal.arrivals_opening, List.flatMap_nil, List.nil_append] at harrivals
  rw [← hpipeline, hfaithful.pending_eq] at h
  obtain ⟨x, hx, rfl⟩ := List.mem_map.1 h
  -- an occurrence that is held has arrived
  have hplace := hfaithful.places.mem_iff.1 (by
    rcases List.mem_append.1 hx with hsent | hwaiting
    · exact List.mem_append_right _ (List.mem_append_left _ hsent)
    · exact List.mem_append_left _ hwaiting)
  have hmem := List.mem_map_of_mem (f := Entry.operation) (List.fst_mem_of_mem_zipIdx hplace)
  rw [harrivals] at hmem
  exact hmem

/-- A new pipeline admits an operation that is within the limit, and then its checkpoint is the
checkpoint of this operation. -/
theorem admitted_first (opened now : Time) (hvalid : settings.Valid)
    (hsize : o.size ≤ settings.maxRecordBytes) :
    let start := restore { settings } [] opened
    start.admitted [.accept o now] = [o] ∧
      (start.moves [.accept o now]).snapshot = .ok { operations := [o] } := by
  intro start
  have haccept : start.accept o now = .ok { start with
      buffer := start.buffer.push (Entry.of o now)
      tally := { start.tally with admitted := start.tally.admitted + 1 } } :=
    accept_eq_ok_iff.2 ⟨rfl, hsize, hvalid.maxBuffered_pos, rfl⟩
  constructor
  · simp [admitted, admits, haccept, Except.isOk, Except.toBool]
  · rw [moves_cons, moves_nil, move, haccept, snapshot_eq_ok_iff]
    exact ⟨rfl, rfl⟩

/-- **A checkpoint can hold what is admitted if and only if the largest size allowed is below
2^32.**

For settings that pass validation the following are equivalent.  The largest size of an operation
that the settings allow is below 2^32.  For every new pipeline and every calls, with any outcomes,
the length of the target, of the payload and of the encoding of each operation that is admitted fit
four octets, and every checkpoint of fewer than 2^32 operations is read back from its stored
form. -/
theorem checkpoints_hold_iff (settings : Settings) (hvalid : settings.validate = .ok ()) :
    settings.maxRecordBytes < 2 ^ 32 ↔
      ∀ (opened : Time) (ms : List Move),
        let start := restore { settings } [] opened
        (∀ o ∈ start.admitted ms, o.target.utf8ByteSize < 2 ^ 32 ∧ o.payloadLength < 2 ^ 32 ∧
          o.encode.length < 2 ^ 32) ∧
        ∀ c, (start.moves ms).snapshot = .ok c → c.operations.length < 2 ^ 32 →
          Checkpoint.decode c.encode = .ok c := by
  constructor
  · intro hlimit opened ms start
    have hencode : ∀ o ∈ start.admitted ms, o.encode.length < 2 ^ 32 := by
      intro o ho
      rw [Operation.length_encode]
      exact Nat.lt_of_le_of_lt (size_le_of_mem_admitted ho) hlimit
    constructor
    · intro o ho
      have hfits := Operation.fits_of_length_encode (hencode o ho)
      exact ⟨hfits.target, hfits.payload, hencode o ho⟩
    · intro c hsnapshot hcount
      obtain ⟨-, rfl⟩ := snapshot_eq_ok_iff.1 hsnapshot
      refine Checkpoint.decode_encode ⟨hcount, ?_⟩
      exact fun o ho => hencode o (mem_admitted_of_mem_pending ho)
  · intro hall
    by_contra hlarge
    obtain ⟨o, hsize⟩ := Operation.exists_size_eq (n := 2 ^ 32) (by decide)
    have hallowed : o.size ≤ settings.maxRecordBytes := hsize ▸ Nat.not_lt.1 hlarge
    obtain ⟨hadmitted, -⟩ :=
      admitted_first 0 0 ((Settings.validate_eq_ok_iff settings).1 hvalid) hallowed
    obtain ⟨-, -, hlength⟩ := (hall 0 [.accept o 0]).1 o (by simp [hadmitted])
    rw [Operation.length_encode, hsize] at hlength
    exact Nat.lt_irrefl _ hlength

/-- With the limits for trying a writer out, every checkpoint is read back. -/
theorem checkpoints_hold_in_testing :
    Settings.testing.validate = .ok () ∧
      ∀ (opened : Time) (ms : List Move) (c : Checkpoint),
        ((restore { settings := .testing } [] opened).moves ms).snapshot = .ok c →
        c.operations.length < 2 ^ 32 → Checkpoint.decode c.encode = .ok c := by
  have hvalid : Settings.testing.validate = .ok () := by decide
  refine ⟨hvalid, fun opened ms => ?_⟩
  exact ((checkpoints_hold_iff .testing hvalid).1 (by decide) opened ms).2

/-- A document of 2^32 octets is admitted if the settings allow eight gibibytes, and they pass
validation.  The four octets for the length of the document are all zero, and the checkpoint of the
document cannot be read. -/
theorem checkpoint_does_not_hold :
    let settings : Settings := { maxBatchBytes := 2 ^ 33, maxRecordBytes := 2 ^ 33 }
    let o := Operation.index "a" (List.replicate (2 ^ 32) 0)
    let start := restore { settings } [] 0
    settings.validate = .ok () ∧ start.admitted [.accept o 0] = [o] ∧
      o.payloadLength = 2 ^ 32 ∧ ofLittleEndian (littleEndian 4 o.payloadLength) = 0 ∧
      ∃ c, (start.moves [.accept o 0]).snapshot = .ok c ∧ c.operations = [o] ∧
        ∃ e, Checkpoint.decode c.encode = .error e := by
  intro settings o start
  have hvalid : settings.validate = .ok () := by decide
  have hpayload : o.payloadLength = 2 ^ 32 :=
    (Operation.payloadLength_index _ _).trans List.length_replicate
  have hsize : o.size = 14 + 1 + 2 ^ 32 :=
    (Operation.size_index _ _).trans (by rw [List.length_replicate]; rfl)
  have hallowed : o.size ≤ settings.maxRecordBytes := by
    rw [hsize]
    decide
  obtain ⟨hadmitted, hsnapshot⟩ :=
    admitted_first 0 0 ((Settings.validate_eq_ok_iff settings).1 hvalid) hallowed
  refine ⟨hvalid, hadmitted, hpayload, ?_, _, hsnapshot, rfl, ?_⟩
  · rw [hpayload, ofLittleEndian_littleEndian, length_width, Nat.mod_self]
  · refine Checkpoint.decode_of_too_long ?_
    rw [Operation.length_encode, hsize]
    decide

end Pipeline

end BulkDelivery
