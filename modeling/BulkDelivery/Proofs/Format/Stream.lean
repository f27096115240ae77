import BulkDelivery.Bytes.Stream
import Mathlib.Tactic.Common

/-!
# What streams hand out and take

A source hands out what it holds from the front, in whatever portions, so everything that is read
is a beginning of what it holds.  A sink takes what it is given from the front: writing succeeds
if and only if all of it is taken, and what is taken never exceeds the room.

## Main definitions

* `Sink.Takes` — what writing a byte string comes to.

## Main results

* `Source.prefix_of_toEnd` — what is read to the end is a beginning of what was there.
* `Sink.takes_writeAll` — **writing takes a beginning, and succeeds if and only if that is all.**
-/

namespace BulkDelivery

/-! ### Sources -/

namespace Source

variable {s s' : Source} {b got more : Bytes} {n : Nat}

/-- A read hands out what stands at the front. -/
theorem pending_of_read (h : s.read n = .ok (more, s')) : s.pending = more ++ s'.pending := by
  unfold read at h
  split at h
  · cases h
  · simp only [Except.ok.injEq, Prod.mk.injEq] at h
    obtain ⟨rfl, rfl⟩ := h
    exact (List.take_append_drop _ _).symm

theorem prefix_of_drain {fuel : Nat} (h : drain fuel got s = .ok b) :
    ∃ more, b = got.reverse ++ more ∧ more <+: s.pending := by
  induction fuel generalizing got s with
  | zero =>
    rw [drain, Except.ok.injEq] at h
    exact ⟨[], by rw [List.append_nil, h], List.nil_prefix⟩
  | succ fuel ih =>
    rw [drain] at h
    cases hread : s.read (fuel + 1) with
    | error e => simp [hread] at h
    | ok r =>
      obtain ⟨front, s'⟩ := r
      have hpending := pending_of_read hread
      cases front with
      | nil =>
        simp only [hread, Except.ok.injEq] at h
        exact ⟨[], by rw [List.append_nil, h], List.nil_prefix⟩
      | cons x front =>
        simp only [hread] at h
        obtain ⟨more, hb, hmore⟩ := ih h
        refine ⟨x :: front ++ more, ?_, ?_⟩
        · rw [hb, List.reverse_append, List.reverse_reverse, List.append_assoc]
        · rw [hpending]
          exact (List.prefix_append_right_inj _).2 hmore

/-- What is read to the end is a beginning of what was there. -/
theorem prefix_of_toEnd (h : s.toEnd = .ok b) : b <+: s.pending := by
  obtain ⟨more, rfl, hmore⟩ := prefix_of_drain h
  exact hmore

end Source

/-! ### Sinks -/

namespace Sink

/-- What writing a byte string comes to: the sink takes a part from its front, and it reports
success if and only if nothing is left. -/
structure Takes (s : Sink) (b part rest : Bytes) (result : Except DecodeError Unit × Sink) :
    Prop where
  split : b = part ++ rest
  written : result.2.written = s.written ++ part
  ok_iff : result.1 = .ok () ↔ rest = []
  room : ∀ n, s.room = some n → part.length ≤ n
  /-- A sink that takes something each time stops only where its room ends. -/
  full : (∀ i, 0 < s.portion i) → rest = [] ∨ s.room = some part.length

/-- A write either fails at the end of the room or takes a part from the front. -/
theorem write_cases (b : Bytes) (s : Sink) :
    (∃ e, s.write b = .error e ∧ s.room = some 0) ∨
    ∃ k s', s.write b = .ok (k, s') ∧ s'.written = s.written ++ b.take k ∧
      s'.portion = s.portion ∧ s'.room = s.room.map (· - k) ∧ (∀ n, s.room = some n → k ≤ n) ∧
      k ≤ b.length ∧ (0 < s.portion s.writes → b ≠ [] → s.room = some 0 ∨ 0 < k) := by
  unfold write
  split
  · next e hroom hfailure => exact .inl ⟨e, rfl, hroom⟩
  · refine .inr ⟨_, _, rfl, ?_, rfl, rfl, ?_, ?_, ?_⟩
    · simp [written]
    · intro n hn
      rw [hn, List.length_take, Option.elim_some]
      omega
    · exact List.length_take_le' _ _
    · intro hportion hb
      have hpos := List.length_pos_iff.2 hb
      cases hroom : s.room with
      | none =>
        right
        rw [List.length_take, Option.elim_none]
        omega
      | some n =>
        rw [List.length_take, Option.elim_some, Option.some.injEq]
        omega

variable {s s' : Sink} {b part rest : Bytes} {result : Except DecodeError Unit × Sink}

theorem takes_nil (s : Sink) : s.Takes [] [] [] (.ok (), s) :=
  ⟨rfl, (List.append_nil _).symm, by simp, by simp, by simp⟩

theorem takes_nothing {e : DecodeError} (hb : b ≠ []) (hwritten : s'.written = s.written)
    (hfull : (∀ i, 0 < s.portion i) → s.room = some 0) : s.Takes b [] b (.error e, s') :=
  ⟨rfl, by simp [hwritten], by simp [hb], by simp, fun hportions => .inr (hfull hportions)⟩

/-- A part is taken, and then what is left of the string is written to what the sink has become. -/
theorem Takes.cons {k : Nat} (h : s'.Takes (b.drop k) part rest result) (hk : k ≤ b.length)
    (hwritten : s'.written = s.written ++ b.take k) (hportion : s'.portion = s.portion)
    (hroom : s'.room = s.room.map (· - k)) (hfits : ∀ n, s.room = some n → k ≤ n) :
    s.Takes b (b.take k ++ part) rest result := by
  have hlength : (b.take k ++ part).length = k + part.length := by
    rw [List.length_append, List.length_take, Nat.min_eq_left hk]
  constructor
  · rw [List.append_assoc, ← h.split, List.take_append_drop]
  · rw [h.written, hwritten, List.append_assoc]
  · exact h.ok_iff
  · intro n hn
    have hless := hfits n hn
    have hleft := h.room (n - k) (by rw [hroom, hn]; rfl)
    omega
  · intro hportions
    rw [← hportion] at hportions
    refine (h.full hportions).imp_right fun hfull => ?_
    rw [hroom, Option.map_eq_some_iff] at hfull
    obtain ⟨n, hn, hrest⟩ := hfull
    have hless := hfits n hn
    rw [hn, Option.some.injEq]
    omega

theorem takes_writeUpTo {fuel : Nat} (s : Sink) (h : b.length ≤ fuel) :
    ∃ part rest, s.Takes b part rest (writeUpTo fuel b s) := by
  induction fuel generalizing b s with
  | zero =>
    rw [List.length_eq_zero_iff.1 (Nat.le_zero.1 h)]
    exact ⟨[], [], s.takes_nil⟩
  | succ fuel ih =>
    by_cases hb : b = []
    · rw [hb]
      exact ⟨[], [], s.takes_nil⟩
    rw [writeUpTo, if_neg (by simpa using hb)]
    rcases s.write_cases b with ⟨e, hwrite, hroom⟩ | ⟨k, s', hwrite, hwritten, hportion, hroom,
      hfits, hk, hpos⟩
    · rw [hwrite]
      exact ⟨[], b, takes_nothing hb rfl fun _ => hroom⟩
    · simp only [hwrite]
      cases k with
      | zero =>
        refine ⟨[], b, takes_nothing hb (by simpa using hwritten) fun hportions => ?_⟩
        exact (hpos (hportions _) hb).resolve_right (Nat.lt_irrefl 0)
      | succ k =>
        have hfewer : (b.drop (k + 1)).length ≤ fuel := by rw [List.length_drop]; omega
        obtain ⟨part, rest, htakes⟩ := ih s' hfewer
        exact ⟨_, rest, htakes.cons hk hwritten hportion hroom hfits⟩

/-- **Writing takes a beginning, and succeeds if and only if that is all.** -/
theorem takes_writeAll (s : Sink) (b : Bytes) :
    ∃ part rest, s.Takes b part rest (s.writeAll b) :=
  takes_writeUpTo s (Nat.le_refl b.length)

end Sink

end BulkDelivery
