import BulkDelivery.Proofs.Format.Operation
import BulkDelivery.Proofs.Format.Readers
import BulkDelivery.Storage
import Mathlib.Algebra.BigOperators.Group.List.Basic
import Mathlib.Algebra.GroupWithZero.Nat

/-!
# Portions

A stream hands out its bytes in portions of its own choosing.  As long as every portion holds
something, the portions do not matter: to draw a number of bytes is to go on until they are there,
and no read asks for more than is still missing.  So whatever is read from a stream is what is read
from its bytes, with the same refusals, and what follows has not been touched.  The end of a stream
may be a failure instead; then this is what is reported where data is missing.

## Main definitions

* `Source.later` — a stream at a later time, with what is then ahead.
* `Source.reported` — what a stream reports for a refusal of its bytes.
* `Source.ReadsAlike` — a stream is read as its bytes are.
* `Operation.readEach` — operations that are read one after the other.

## Main results

* `Source.fill_later`, `Source.fill_later_of_short` — drawing a number of bytes.
* `Source.toEnd_eq` — drawing everything.
* `Source.readsAlike_read` — an operation is read from a stream as from its bytes.
* `Checkpoint.readFrom_eq` — so is a checkpoint.
* `Operation.readEach_later` — operations that follow one another are read one after the other.
* `Source.portions_do_not_matter` — **streams are read as their bytes are, in whatever portions.**
-/

namespace BulkDelivery

namespace Source

variable {s : Source} {i n fuel need : Nat} {b got : Bytes} {α β : Type}

/-- The stream at a later time: so many reads have been made, and these bytes are ahead. -/
def later (s : Source) (reads : Nat) (pending : Bytes) : Source :=
  { s with reads, pending }

/-- What a stream reports where data is missing. -/
def shortage (s : Source) : DecodeError :=
  (s.failure.map DecodeError.ofIo).getD .insufficientData

/-- What a stream reports where its bytes are refused. -/
def reported (s : Source) (e : DecodeError) : DecodeError :=
  if e = .insufficientData then s.shortage else e

theorem reported_of_ne {e : DecodeError} (h : e ≠ .insufficientData) : s.reported e = e :=
  if_neg h

theorem reported_of_failure_eq_none (h : s.failure = none) (e : DecodeError) :
    s.reported e = e := by
  rw [reported, shortage, h]
  split
  · next hmissing => exact hmissing.symm
  · rfl

/-! ### Drawing -/

/-- A read that wants something brings something from the front, unless the end is reached. -/
theorem read_later (hportion : 0 < s.portion i) (hn : 0 < n) (hb : b ≠ []) :
    ∃ x more rest, b = x :: more ++ rest ∧ (x :: more).length ≤ n ∧
      (s.later i b).read n = .ok (x :: more, s.later (i + 1) rest) := by
  cases b with
  | nil => exact absurd rfl hb
  | cons x b =>
    obtain ⟨k, hk⟩ : ∃ k, min n (s.portion i) = k + 1 := Nat.exists_eq_add_one.2 (by omega)
    have hread : (s.later i (x :: b)).read n =
        .ok ((x :: b).take (min n (s.portion i)),
          s.later (i + 1) ((x :: b).drop (min n (s.portion i)))) := rfl
    rw [hk, List.take_succ_cons, List.drop_succ_cons] at hread
    refine ⟨x, b.take k, b.drop k, ?_, ?_, hread⟩
    · rw [List.cons_append, List.take_append_drop]
    · rw [List.length_cons, List.length_take]
      omega

/-- At the end there is nothing, or the failure. -/
theorem read_later_nil : (s.later i []).read n =
    match s.failure with
    | some e => .error e
    | none => .ok ([], s.later (i + 1) []) := by
  obtain ⟨pending, portion, reads, failure⟩ := s
  cases failure with
  | none => simp [read, later]
  | some e => rfl

/-- Drawing goes on until the bytes are there, and takes no more than these. -/
theorem fill_later (hportion : ∀ i, 0 < s.portion i) (i : Nat) (front rest got : Bytes)
    (hfuel : front.length ≤ fuel) :
    ∃ j, fill fuel front.length got (s.later i (front ++ rest)) =
      .ok (got.reverse ++ front, s.later j rest) := by
  induction fuel generalizing i front got with
  | zero =>
    rw [List.length_eq_zero_iff.1 (Nat.le_zero.1 hfuel)]
    exact ⟨i, by simp [fill]⟩
  | succ fuel ih =>
    by_cases hfront : front = []
    · rw [hfront]
      exact ⟨i, by simp [fill]⟩
    have hneed : 0 < front.length := List.length_pos_iff.2 hfront
    have hahead : front ++ rest ≠ [] := List.append_ne_nil_of_left_ne_nil hfront rest
    obtain ⟨x, more, rest', hsplit, hle, hread⟩ := read_later (hportion i) hneed hahead
    rw [fill, if_neg (Nat.ne_of_gt hneed)]
    simp only [hread]
    -- the portion is a part of what is needed, and what is missing of it is drawn as before
    obtain ⟨missing, rfl⟩ : x :: more <+: front :=
      List.prefix_of_prefix_length_le ⟨rest', hsplit.symm⟩ ⟨rest, rfl⟩ hle
    rw [List.append_assoc, List.append_cancel_left_eq] at hsplit
    have hfewer : missing.length ≤ fuel := by
      rw [List.length_append, List.length_cons] at hfuel
      omega
    obtain ⟨j, hj⟩ := ih (i + 1) missing ((x :: more).reverse ++ got) hfewer
    refine ⟨j, ?_⟩
    rw [← hsplit, List.length_append, Nat.add_sub_cancel_left, hj, List.reverse_append,
      List.reverse_reverse, List.append_assoc]

/-- Where less is ahead than is needed, this is found at the end. -/
theorem fill_later_of_short (hportion : ∀ i, 0 < s.portion i) (i : Nat) (b got : Bytes)
    (hshort : b.length < need) (hfuel : need ≤ fuel) :
    fill fuel need got (s.later i b) = .error s.shortage := by
  induction fuel generalizing i b need got with
  | zero => omega
  | succ fuel ih =>
    have hneed : 0 < need := Nat.zero_lt_of_lt hshort
    rw [fill, if_neg (Nat.ne_of_gt hneed)]
    by_cases hb : b = []
    · rw [hb, read_later_nil, shortage]
      cases s.failure with
      | none => rfl
      | some e => rfl
    · obtain ⟨x, more, rest, rfl, hle, hread⟩ := read_later (hportion i) hneed hb
      rw [List.length_append, List.length_cons] at hshort
      rw [List.length_cons] at hle
      simp only [hread]
      refine ih (i + 1) rest _ ?_ ?_
      all_goals
        rw [List.length_cons]
        omega

/-- Everything is drawn up to the end, if this is one. -/
theorem drain_later (hportion : ∀ i, 0 < s.portion i) (hfailure : s.failure = none)
    (hfuel : b.length < fuel) : drain fuel got (s.later i b) = .ok (got.reverse ++ b) := by
  induction fuel generalizing got i b with
  | zero => exact absurd hfuel (Nat.not_lt_zero _)
  | succ fuel ih =>
    rw [drain]
    by_cases hb : b = []
    · subst hb
      simp only [read_later_nil, hfailure, List.append_nil]
    · obtain ⟨x, more, rest, rfl, -, hread⟩ := read_later (hportion i) (Nat.succ_pos fuel) hb
      have hfewer : rest.length < fuel := by
        rw [List.length_append, List.length_cons] at hfuel
        omega
      simp only [hread]
      rw [ih hfewer, List.reverse_append, List.reverse_reverse, List.append_assoc]

/-- What is read to the end is all that is ahead. -/
theorem toEnd_eq (hportion : ∀ i, 0 < s.portion i) (hfailure : s.failure = none) :
    s.toEnd = .ok s.pending :=
  drain_later (s := s) (i := s.reads) hportion hfailure (Nat.lt_succ_self _)

/-! ### Reading -/

/-- A stream is read as its bytes are: the same is given, what follows is still ahead, and what is
refused is refused for the same reason, unless the stream fails where its bytes end. -/
structure ReadsAlike (s : Source) (onStream : Source → Except DecodeError (α × Source))
    (onBytes : Bytes → Except DecodeError (α × Bytes)) : Prop where
  result : ∀ i b a rest, onBytes b = .ok (a, rest) →
    ∃ j, onStream (s.later i b) = .ok (a, s.later j rest)
  refusal : ∀ i b e, onBytes b = .error e → onStream (s.later i b) = .error (s.reported e)

theorem readsAlike_draw (hportion : ∀ i, 0 < s.portion i) (n : Nat) :
    s.ReadsAlike (draw n) (drawBytes n) where
  result := by
    intro i b drawn rest h
    obtain ⟨rfl, hlength⟩ := drawBytes_eq_ok_iff.1 h
    obtain ⟨j, hj⟩ := fill_later hportion i drawn rest [] (Nat.le_refl _)
    rw [hlength] at hj
    exact ⟨j, hj⟩
  refusal := by
    intro i b e h
    have hshort : b.length < n ∧ e = .insufficientData := by
      unfold drawBytes at h
      split at h
      · cases h
      · next hnone =>
        cases h
        exact ⟨splitExactly?_eq_none_iff.1 hnone, rfl⟩
    rw [draw, fill_later_of_short hportion i b [] hshort.1 (Nat.le_refl n), reported,
      if_pos hshort.2]

theorem readsAlike_pure (a : α) : s.ReadsAlike (fun t => pure (a, t)) fun b => pure (a, b) where
  result := by
    intro i b a' rest h
    rw [Except.pure_eq_ok_iff, Prod.mk.injEq] at h
    obtain ⟨rfl, rfl⟩ := h
    exact ⟨i, rfl⟩
  refusal := by
    intro i b e h
    cases h

theorem readsAlike_throw {e : DecodeError} (he : e ≠ .insufficientData) :
    s.ReadsAlike (fun _ => (throw e : Except DecodeError (α × Source))) fun _ => throw e where
  result := by
    intro i b a rest h
    cases h
  refusal := by
    intro i b e' h
    cases h
    rw [reported_of_ne he]
    rfl

/-- Readers that read alike may follow one another. -/
theorem ReadsAlike.bind {onStream : Source → Except DecodeError (α × Source)}
    {onBytes : Bytes → Except DecodeError (α × Bytes)}
    {nextOnStream : α × Source → Except DecodeError (β × Source)}
    {nextOnBytes : α × Bytes → Except DecodeError (β × Bytes)}
    (hread : s.ReadsAlike onStream onBytes)
    (hnext : ∀ a, s.ReadsAlike (fun t => nextOnStream (a, t)) fun b => nextOnBytes (a, b)) :
    s.ReadsAlike (fun t => onStream t >>= nextOnStream) fun b => onBytes b >>= nextOnBytes where
  result := by
    intro i b c rest h
    obtain ⟨⟨a, b'⟩, hfirst, hsecond⟩ := Except.bind_eq_ok_iff.1 h
    obtain ⟨j, hj⟩ := hread.result i b a b' hfirst
    obtain ⟨k, hk⟩ := (hnext a).result j b' c rest hsecond
    exact ⟨k, Except.bind_eq_ok_iff.2 ⟨_, hj, hk⟩⟩
  refusal := by
    intro i b e h
    rw [Except.bind_eq_error_iff] at h ⊢
    rcases h with hfirst | ⟨⟨a, b'⟩, hfirst, hsecond⟩
    · exact .inl (hread.refusal i b e hfirst)
    · -- the refusal comes later, and the stream has come as far as the bytes have
      obtain ⟨j, hj⟩ := hread.result i b a b' hfirst
      exact .inr ⟨_, hj, (hnext a).refusal j b' e hsecond⟩

theorem compositional_readsAlike (hportion : ∀ i, 0 < s.portion i) :
    Draw.Compositional draw drawBytes fun _ onStream onBytes => s.ReadsAlike onStream onBytes where
  draws := readsAlike_draw hportion
  gives _ := readsAlike_pure
  refuses _ _ := readsAlike_throw
  follows hread hnext := hread.bind hnext

/-- An operation is read from a stream as from its bytes. -/
theorem readsAlike_read (hportion : ∀ i, 0 < s.portion i) :
    s.ReadsAlike Operation.readFrom (Operation.read drawBytes) :=
  (compositional_readsAlike hportion).operation

/-- Where a stream ends without failing, it is read with the same results and the same refusals. -/
theorem ReadsAlike.eq_read {onStream : Source → Except DecodeError (α × Source)}
    {onBytes : Bytes → Except DecodeError (α × Bytes)} (h : s.ReadsAlike onStream onBytes)
    (hfailure : s.failure = none) :
    (onStream s).map (fun r => (r.1, r.2.pending)) = onBytes s.pending := by
  cases hbytes : onBytes s.pending with
  | error e =>
    have hstream : onStream s = .error (s.reported e) := h.refusal s.reads s.pending e hbytes
    rw [hstream, reported_of_failure_eq_none hfailure]
    rfl
  | ok r =>
    obtain ⟨a, rest⟩ := r
    obtain ⟨j, hstream⟩ := h.result s.reads s.pending a rest hbytes
    rw [show onStream s = .ok (a, s.later j rest) from hstream]
    rfl

end Source

/-- A checkpoint is read from a stream as from its bytes. -/
theorem Checkpoint.readFrom_eq {s : Source} (hportion : ∀ i, 0 < s.portion i)
    (hfailure : s.failure = none) : Checkpoint.readFrom s = Checkpoint.decode s.pending := by
  rw [Checkpoint.readFrom, Source.toEnd_eq hportion hfailure]
  rfl

namespace Operation

/-- Read so many operations, one after the other. -/
def readEach : Nat → Source → Except DecodeError (List Operation × Source)
  | 0, s => .ok ([], s)
  | n + 1, s => do
    let (o, s) ← readFrom s
    let (os, s) ← readEach n s
    return (o :: os, s)

/-- Operations that follow one another are read one after the other, and what follows them is
still ahead. -/
theorem readEach_later {s : Source} (hportion : ∀ i, 0 < s.portion i) {os : List Operation}
    (hfits : ∀ o ∈ os, o.Fits) (i : Nat) (rest : Bytes) :
    ∃ j, readEach os.length (s.later i (os.flatMap encode ++ rest)) = .ok (os, s.later j rest) := by
  induction os generalizing i with
  | nil => exact ⟨i, rfl⟩
  | cons o os ih =>
    rw [List.forall_mem_cons] at hfits
    have hread : read drawBytes ((o :: os).flatMap encode ++ rest) =
        .ok (o, os.flatMap encode ++ rest) :=
      read_eq_ok_iff.2 ⟨by rw [List.flatMap_cons, List.append_assoc], hfits.1⟩
    obtain ⟨j, hfirst⟩ := (Source.readsAlike_read hportion).result i _ _ _ hread
    obtain ⟨k, hothers⟩ := ih hfits.2 j
    refine ⟨k, ?_⟩
    simp only [List.length_cons, readEach, Except.bind_eq_ok_iff, Except.pure_eq_ok_iff]
    exact ⟨_, hfirst, _, hothers, rfl⟩

theorem length_flatMap_encode (os : List Operation) :
    (os.flatMap encode).length = (os.map size).sum := by
  simp only [List.length_flatMap, length_encode]

end Operation

/-- **Streams are read as their bytes are, in whatever portions.**

Let a stream hand out at least one byte with every read.  If it holds the encodings of operations,
one behind the other, whose targets and payloads are each shorter than 2^32 octets, then reading
one operation after the other gives these operations in order.  After `k` of them the stream has
handed out as many bytes as their sizes add up to; the others are still ahead, and so is whatever
follows them.  Where the stream ends without failing, a checkpoint is read from it exactly as from
the byte string that it holds, whatever this is, and so is an operation. -/
theorem Source.portions_do_not_matter (s : Source) (hportion : ∀ i, 0 < s.portion i) :
    (∀ (os : List Operation) (trailing : Bytes),
      (∀ o ∈ os, o.target.utf8ByteSize < 2 ^ 32 ∧ o.payloadLength < 2 ^ 32) →
      s.pending = os.flatMap Operation.encode ++ trailing →
      ∀ k ≤ os.length, ∃ s', Operation.readEach k s = .ok (os.take k, s') ∧
        s'.pending = (os.drop k).flatMap Operation.encode ++ trailing ∧
        s.pending.length = ((os.take k).map Operation.size).sum + s'.pending.length) ∧
    (s.failure = none → Checkpoint.readFrom s = Checkpoint.decode s.pending ∧
      (Operation.readFrom s).map (fun r => (r.1, r.2.pending)) =
        Operation.read drawBytes s.pending) := by
  refine ⟨?_, fun hfailure => ⟨Checkpoint.readFrom_eq hportion hfailure,
    (readsAlike_read hportion).eq_read hfailure⟩⟩
  intro os trailing hfits hpending k hk
  have hsplit : s.pending = (os.take k).flatMap Operation.encode ++
      ((os.drop k).flatMap Operation.encode ++ trailing) := by
    rw [hpending, ← List.append_assoc, ← List.flatMap_append, List.take_append_drop]
  have htaken : ∀ o ∈ os.take k, o.Fits := fun o ho =>
    ⟨(hfits o (List.mem_of_mem_take ho)).1, (hfits o (List.mem_of_mem_take ho)).2⟩
  obtain ⟨j, hread⟩ := Operation.readEach_later hportion htaken s.reads
    ((os.drop k).flatMap Operation.encode ++ trailing)
  rw [List.length_take_of_le hk, ← hsplit] at hread
  refine ⟨_, hread, rfl, ?_⟩
  rw [← Operation.length_flatMap_encode, hsplit, List.length_append]
  rfl

/-- The first of two operations is read in portions of one, two and three bytes, and so is the
second; the byte behind them is not touched, and the stream never comes to its failure.  A
checkpoint of both is read byte by byte. -/
theorem Source.portions_do_not_matter_within_fields :
    let change : Operation :=
      { action := .update, target := "a☂", payload := some [1, 2], conflictRetries := -2 }
    let removal := Operation.delete "b"
    let uneven : Source :=
      { pending := [change, removal].flatMap Operation.encode ++ [7], portion := fun i => 1 + i % 3,
        failure := some { kind := .connectionReset, message := "gone" } }
    let bytewise : Source :=
      { pending := Checkpoint.encode { operations := [change, removal] }, portion := fun _ => 1 }
    ((∀ i, 0 < uneven.portion i) ∧ (∀ i, 0 < bytewise.portion i) ∧ bytewise.failure = none) ∧
      (∃ s', Operation.readEach 1 uneven = .ok ([change], s') ∧
        s'.pending = removal.encode ++ [7] ∧ uneven.pending.length = 20 + s'.pending.length) ∧
      (∃ s', Operation.readEach 2 uneven = .ok ([change, removal], s') ∧ s'.pending = [7] ∧
        uneven.pending.length = 31 + s'.pending.length) ∧
      Checkpoint.readFrom bytewise = .ok { operations := [change, removal] } := by
  intro change removal uneven bytewise
  have huneven : ∀ i, 0 < uneven.portion i := fun i => Nat.add_pos_left Nat.one_pos (i % 3)
  have hbytewise : ∀ i, 0 < bytewise.portion i := fun _ => Nat.one_pos
  have hfits : ∀ o ∈ [change, removal],
      o.target.utf8ByteSize < 2 ^ 32 ∧ o.payloadLength < 2 ^ 32 := by decide +kernel
  have hdecode : Checkpoint.decode bytewise.pending =
      .ok { operations := [change, removal] } := by decide +kernel
  obtain ⟨hreads, -⟩ := Source.portions_do_not_matter uneven huneven
  obtain ⟨-, hends⟩ := Source.portions_do_not_matter bytewise hbytewise
  have heach := hreads [change, removal] [7] hfits rfl
  refine ⟨⟨huneven, hbytewise, rfl⟩, ?_, ?_, ?_⟩
  · exact heach 1 (by decide)
  · exact heach 2 (by decide)
  · rw [(hends rfl).1, hdecode]

end BulkDelivery
