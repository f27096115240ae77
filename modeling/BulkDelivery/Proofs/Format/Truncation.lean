import BulkDelivery.Storage
import BulkDelivery.Proofs.Format.Checkpoint
import BulkDelivery.Proofs.Format.Stream

/-!
# Checkpoints that were cut off or extended

A stored form says by itself where it ends: it starts with the number of operations, and each of
them starts with its length.  So one stored form never begins another, and it takes no luck with
the checksum to tell that one was cut off or that something follows it.

## Main results

* `Checkpoint.eq_nil_of_encode_append` — no stored form begins another.
* `Checkpoint.decode_prefix_free` — **of two byte strings that are read, neither is a proper
  beginning of the other, and what a failing sink holds is never read.**
-/

theorem Except.exists_eq_error {ε α : Type} {r : Except ε α} (h : ∀ a, r ≠ .ok a) :
    ∃ e, r = .error e := by
  cases r with
  | error e => exact ⟨e, rfl⟩
  | ok a => exact absurd rfl (h a)

namespace BulkDelivery

namespace Checkpoint

variable {c c' : Checkpoint} {b x : Bytes}

theorem encode_eq (c : Checkpoint) :
    c.encode = magic ++ version :: (littleEndian 4 c.operations.length ++
      (c.operations.flatMap frame ++ (littleEndian 8 c.byteTotal ++
        littleEndian 4 (crc32 c.body).toNat))) := by
  simp only [encode, withChecksum, body, content, List.append_assoc, List.cons_append]

/-- Frames are told from what follows them once their number is known. -/
theorem frames_append_inj {os os' : List Operation} {rest rest' : Bytes}
    (hlen : os.length = os'.length) (hos : ∀ o ∈ os, o.encode.length < 2 ^ 32)
    (hos' : ∀ o ∈ os', o.encode.length < 2 ^ 32)
    (h : os.flatMap frame ++ rest = os'.flatMap frame ++ rest') : os = os' ∧ rest = rest' := by
  have hread : readFrames os'.length (os.flatMap frame ++ rest) = .ok (os, rest) :=
    readFrames_eq_ok_iff.2 ⟨hlen, rfl, hos⟩
  have hread' : readFrames os'.length (os.flatMap frame ++ rest) = .ok (os', rest') :=
    readFrames_eq_ok_iff.2 ⟨rfl, h, hos'⟩
  rw [hread, Except.ok.injEq, Prod.mk.injEq] at hread'
  exact hread'

/-- No stored form begins another. -/
theorem eq_nil_of_encode_append (hc : c.Fits) (hc' : c'.Fits) (h : c.encode ++ x = c'.encode) :
    x = [] := by
  rw [encode_eq, encode_eq] at h
  simp only [List.append_assoc, List.cons_append, List.append_cancel_left_eq, List.cons.injEq,
    true_and] at h
  -- the number of operations has four octets in both
  obtain ⟨hcount, h⟩ := List.append_inj h (by rw [length_littleEndian, length_littleEndian])
  have hlen : c.operations.length = c'.operations.length :=
    eq_of_littleEndian_eq (length_width ▸ hc.count) (length_width ▸ hc'.count) hcount
  obtain ⟨-, h⟩ := frames_append_inj hlen hc.frames hc'.frames h
  -- what follows the operations has twelve octets in both
  have hrest := congrArg List.length h
  simp only [List.length_append, length_littleEndian] at hrest
  exact List.length_eq_zero_iff.1 (by omega)

theorem eq_nil_of_decode_append (h : decode b = .ok c) (h' : decode (b ++ x) = .ok c') :
    x = [] := by
  obtain ⟨rfl, hc⟩ := eq_encode_of_decode h
  obtain ⟨heq, hc'⟩ := eq_encode_of_decode h'
  exact eq_nil_of_encode_append hc hc' heq

/-- A proper beginning of a stored form is refused. -/
theorem decode_of_append_eq_encode (hc : c.Fits) (h : b ++ x = c.encode) (hx : x ≠ []) :
    ∃ e, decode b = .error e := by
  refine Except.exists_eq_error fun c' hdecode => hx ?_
  exact eq_nil_of_decode_append hdecode (h ▸ decode_encode hc)

/-- A stored form with something behind it is refused. -/
theorem decode_of_encode_append (hc : c.Fits) (hx : x ≠ []) :
    ∃ e, decode (c.encode ++ x) = .error e := by
  refine Except.exists_eq_error fun c' hdecode => hx ?_
  exact eq_nil_of_decode_append (decode_encode hc) hdecode

/-- A source that holds a proper beginning of a stored form is refused, in whatever portions it
hands it out. -/
theorem readFrom_of_append_eq_encode (hc : c.Fits) {source : Source}
    (h : source.pending ++ x = c.encode) (hx : x ≠ []) :
    ∃ e, readFrom source = .error e := by
  refine Except.exists_eq_error fun c' hread => ?_
  cases hend : source.toEnd with
  | error e => simp [readFrom, hend, Except.bind] at hread
  | ok b =>
    simp only [readFrom, hend, Except.bind] at hread
    -- even less may have been read
    obtain ⟨y, hy⟩ := Source.prefix_of_toEnd hend
    have hbegins : b ++ (y ++ x) = c.encode := by rw [← List.append_assoc, hy, h]
    obtain ⟨e, he⟩ := decode_of_append_eq_encode hc hbegins (by simp [hx])
    rw [he] at hread
    cases hread

theorem written_writeTo (c : Checkpoint) (s : Sink) :
    (c.writeTo s).2.written = (s.writeAll c.encode).2.written := by
  unfold writeTo
  split
  · next s' hs' =>
    rw [hs', Sink.flush]
    cases s'.flushFailure <;> rfl
  · next e s' hs' => rw [hs']

theorem writeTo_of_error {s : Sink} {e : DecodeError} (h : (s.writeAll c.encode).1 = .error e) :
    (c.writeTo s).1 = .error e := by
  unfold writeTo
  split
  · next s' hs' =>
    rw [hs'] at h
    cases h
  · next e' s' hs' =>
    rw [hs'] at h
    exact h

/-- **Nothing that was cut off or extended is read.**

Of two byte strings that are read as checkpoints, neither is a proper beginning of the other.  So
no proper beginning and no proper extension of a stored form is read.  A sink takes a beginning of
the stored form, and no more than it has room for; if it stops before the end, in whatever portions
it takes the bytes and whether it then fails or takes nothing more, writing fails, and so does
reading what it has taken. -/
theorem decode_prefix_free :
    (∀ (b x : Bytes) (c c' : Checkpoint),
      decode b = .ok c → decode (b ++ x) = .ok c' → x = []) ∧
    ∀ c : Checkpoint, c.operations.length < 2 ^ 32 →
      (∀ o ∈ c.operations, o.encode.length < 2 ^ 32) →
      (∀ b x : Bytes, b ++ x = c.encode → x ≠ [] → ∃ e, decode b = .error e) ∧
      (∀ x : Bytes, x ≠ [] → ∃ e, decode (c.encode ++ x) = .error e) ∧
      ∀ s : Sink, (∀ e, s.failure = some e → e.kind ≠ .interrupted) →
        ∃ part, part <+: c.encode ∧ (c.writeTo s).2.written = s.written ++ part ∧
          (∀ n, s.room = some n → part.length ≤ n) ∧
          ((∀ i, 0 < s.portion i) → part = c.encode ∨ s.room = some part.length) ∧
          (part.length < c.encode.length →
            (∃ e, (c.writeTo s).1 = .error e) ∧
            ∀ source : Source, source.pending = part → ∃ e, readFrom source = .error e) := by
  refine ⟨fun b x c c' => eq_nil_of_decode_append, ?_⟩
  intro c hcount hframes
  have hc : c.Fits := ⟨hcount, hframes⟩
  refine ⟨fun b x => decode_of_append_eq_encode hc, fun x => decode_of_encode_append hc, ?_⟩
  intro s _
  obtain ⟨part, rest, htakes⟩ := s.takes_writeAll c.encode
  refine ⟨part, ⟨rest, htakes.split.symm⟩, ?_, htakes.room, ?_, ?_⟩
  · rw [written_writeTo, htakes.written]
  · intro hportions
    refine (htakes.full hportions).imp_left fun hrest => ?_
    rw [htakes.split, hrest, List.append_nil]
  · intro hshort
    have hrest : rest ≠ [] := by
      rintro rfl
      rw [htakes.split, List.append_nil] at hshort
      exact Nat.lt_irrefl _ hshort
    constructor
    · obtain ⟨e, he⟩ := Except.exists_eq_error fun a ha => hrest (htakes.ok_iff.1 ha)
      exact ⟨e, writeTo_of_error he⟩
    · rintro source rfl
      exact readFrom_of_append_eq_encode hc htakes.split.symm hrest

/-- A disk is full after thirty octets of fifty-six. -/
theorem decode_prefix_free_on_full_disk :
    let c : Checkpoint := { operations := [.index "a" [7], .delete "b"] }
    let s : Sink := {
      portion := fun _ => 7, room := some 30,
      failure := some { kind := .storageFull, message := "no space left on device" } }
    (c.operations.length < 2 ^ 32 ∧ ∀ o ∈ c.operations, o.encode.length < 2 ^ 32) ∧
      (decode c.encode = .ok c ∧ ∀ x c', decode (c.encode ++ x) = .ok c' → x = []) ∧
      (∃ e, decode (c.encode.take 55) = .error e) ∧ (∃ e, decode (c.encode ++ [0]) = .error e) ∧
      (∀ e, s.failure = some e → e.kind ≠ .interrupted) ∧
      (c.writeTo s).2.written.length = 30 ∧ (∃ e, (c.writeTo s).1 = .error e) ∧
      ∀ source : Source, source.pending = (c.writeTo s).2.written →
        ∃ e, readFrom source = .error e := by
  intro c s
  have hcount : c.operations.length < 2 ^ 32 := by decide
  have hframes : ∀ o ∈ c.operations, o.encode.length < 2 ^ 32 := by decide +kernel
  have hdecode : decode c.encode = .ok c := decode_encode ⟨hcount, hframes⟩
  have hfailure : ∀ e, s.failure = some e → e.kind ≠ .interrupted := by
    rintro e ⟨⟩
    decide
  obtain ⟨hcut, hextended, hsink⟩ := decode_prefix_free.2 c hcount hframes
  obtain ⟨part, -, hwritten, hroom, -, hshort⟩ := hsink s hfailure
  have hlength : c.encode.length = 56 := by decide +kernel
  have hpart := hroom 30 rfl
  obtain ⟨herror, hread⟩ := hshort (by omega)
  have hsame : (c.writeTo s).2.written = part := hwritten
  refine ⟨⟨hcount, hframes⟩, ⟨hdecode, fun x c' => decode_prefix_free.1 c.encode x c c' hdecode⟩,
    hcut _ _ (List.take_append_drop 55 c.encode) (by decide +kernel),
    hextended [0] (by decide), hfailure, by decide +kernel, herror, ?_⟩
  rw [hsame]
  exact hread

end Checkpoint

end BulkDelivery
