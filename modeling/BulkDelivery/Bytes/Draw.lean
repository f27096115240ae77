import BulkDelivery.DecodeError

/-!
# Drawing fields from a supply of bytes

Fields are read one after the other from a supply that hands out a requested number of
octets or refuses.  A byte string is such a supply, and so is a stream that delivers its
bytes piece by piece; what is read does not depend on which of them it is.

## Main definitions

* `Draw σ` — how octets are drawn from a supply of type `σ`.
* `drawBytes` — drawing from the front of a byte string.
* `Draw.octet`, `Draw.number` — one octet, and a number of fixed width.
-/

namespace BulkDelivery

/-- How a number of octets is drawn from a supply, leaving the rest of it. -/
abbrev Draw (σ : Type) := Nat → σ → Except DecodeError (Bytes × σ)

/-- Draw from the front of a byte string; a string that is too short is refused. -/
def drawBytes : Draw Bytes := fun n b =>
  match splitExactly? n b with
  | some drawn => .ok drawn
  | none => .error .insufficientData

theorem drawBytes_append (front rest : Bytes) :
    drawBytes front.length (front ++ rest) = .ok (front, rest) := by
  simp [drawBytes, splitExactly?_append]

theorem drawBytes_eq_ok_iff {n : Nat} {b front rest : Bytes} :
    drawBytes n b = .ok (front, rest) ↔ b = front ++ rest ∧ front.length = n := by
  constructor
  · intro h
    unfold drawBytes at h
    split at h
    · rename_i drawn hdrawn
      simp only [Except.ok.injEq] at h
      subst h
      exact eq_append_of_splitExactly? hdrawn
    · cases h
  · rintro ⟨rfl, rfl⟩
    exact drawBytes_append front rest

namespace Draw

variable {σ : Type}

/-- Draw one octet. -/
def octet (draw : Draw σ) (s : σ) : Except DecodeError (UInt8 × σ) := do
  let (b, s) ← draw 1 s
  return (b.headD 0, s)

/-- Draw a number of the given width in octets. -/
def number (draw : Draw σ) (width : Nat) (s : σ) : Except DecodeError (Nat × σ) := do
  let (b, s) ← draw width s
  return (ofLittleEndian b, s)

end Draw

end BulkDelivery
