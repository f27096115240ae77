import BulkDelivery.Operation.Encoding

/-!
# Readers

A reader takes something from a supply and leaves the rest of it.  Reading an operation knows
nothing of the supply but how to draw from it: it draws, gives a result or refuses, and lets one
reader follow another.  So what holds of these three steps holds of reading an operation, be it
about one supply or about how two supplies compare.

## Main definitions

* `Draw.Compositional` — a relation between readers that holds of drawing, giving and refusing, and
  that is kept when readers follow one another.

## Main results

* `Draw.Compositional.operation` — **such a relation holds of reading an operation.**
-/

namespace BulkDelivery

namespace Draw

variable {σ τ : Type}

/-- A relation between the readers of two supplies that holds of drawing, giving and refusing, and
that is kept when readers follow one another.  Only drawing finds that data is missing. -/
structure Compositional (draw : Draw σ) (draw' : Draw τ)
    (R : ∀ α : Type, (σ → Except DecodeError (α × σ)) → (τ → Except DecodeError (α × τ)) → Prop) :
    Prop where
  draws : ∀ n, R Bytes (draw n) (draw' n)
  gives : ∀ (α : Type) (a : α), R α (fun s => pure (a, s)) fun t => pure (a, t)
  refuses : ∀ (α : Type) (e : DecodeError), e ≠ .insufficientData →
    R α (fun _ => throw e) fun _ => throw e
  follows : ∀ {α β : Type} {read : σ → Except DecodeError (α × σ)}
    {read' : τ → Except DecodeError (α × τ)} {next : α × σ → Except DecodeError (β × σ)}
    {next' : α × τ → Except DecodeError (β × τ)}, R α read read' →
    (∀ a, R β (fun s => next (a, s)) fun t => next' (a, t)) →
    R β (fun s => read s >>= next) fun t => read' t >>= next'

namespace Compositional

variable {draw : Draw σ} {draw' : Draw τ}
  {R : ∀ α : Type, (σ → Except DecodeError (α × σ)) → (τ → Except DecodeError (α × τ)) → Prop}

theorem octet (h : Compositional draw draw' R) : R UInt8 (octet draw) (octet draw') :=
  h.follows (h.draws 1) fun drawn => h.gives _ (drawn.headD 0)

theorem number (h : Compositional draw draw' R) (width : Nat) :
    R Nat (number draw width) (number draw' width) :=
  h.follows (h.draws width) fun drawn => h.gives _ (ofLittleEndian drawn)

theorem payload (h : Compositional draw draw' R) :
    R (Option Bytes) (Operation.readPayload draw) (Operation.readPayload draw') := by
  refine h.follows h.octet fun flag => ?_
  by_cases hnone : flag = 0
  · simp only [hnone, if_true]
    exact h.gives _ none
  · by_cases hsome : flag = 1
    · simp only [hsome, if_true, show (1 : UInt8) ≠ 0 by decide, if_false]
      refine h.follows (h.number 4) fun length => ?_
      exact h.follows (h.draws length) fun payload => h.gives _ (some payload)
    · simp only [hnone, hsome, if_false]
      exact h.refuses _ _ DecodeError.noConfusion

/-- **Such a relation holds of reading an operation.** -/
theorem operation (h : Compositional draw draw' R) :
    R Operation (Operation.read draw) (Operation.read draw') := by
  refine h.follows h.octet fun tag => ?_
  cases htag : Action.ofTag? tag with
  | none =>
    simp only [htag]
    exact h.refuses _ _ DecodeError.noConfusion
  | some action =>
    simp only [htag]
    refine h.follows (h.number 4) fun retries => ?_
    dsimp only
    refine h.follows (h.number 4) fun length => ?_
    dsimp only
    refine h.follows (h.draws length) fun octets => ?_
    cases htext : ofUtf8? octets with
    | none =>
      simp only [htext]
      exact h.refuses _ _ DecodeError.noConfusion
    | some target =>
      simp only [htext]
      refine h.follows h.payload fun payload => ?_
      dsimp only
      exact h.gives _ _

end Compositional

end Draw

end BulkDelivery
