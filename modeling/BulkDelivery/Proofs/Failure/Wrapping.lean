import BulkDelivery.Proofs.Failure.FirstRule
import Mathlib.Data.List.Induction

/-!
# Wrapped causes

A cause may be wrapped in transport failures, input/output errors and errors of other sorts, in any
order and to any depth.  The search for a fatal cause does not see all of them.  An input/output
error passes over the error that it wraps, and if that error is a transport failure, then what it
wraps is met veiled, however many transport failures follow one another.  Any other error shows its
cause openly again.  So it depends on one wrapper only whether an error is seen: on the nearest one
that is not a transport failure.

## Main definitions

* `Wrapper`, `Cause.wrapAll` — what an error is wrapped in, and an error in its wrappers.
* `Cause.IsFatal` — the errors that are fatal for an Elasticsearch cluster.
* `hides` — whether wrappers hide what they wrap.
* `Sight` — how following a chain comes upon an error.

## Main results

* `Sight.mem_links_iff` — what is met openly behind a failure.
* `Sight.foldl_within_eq_openly_iff` — the nearest wrapper that is not a transport failure decides.
* `Classifier.fatal_unless_hidden` — **a failure is fatal exactly if a fatal cause is not hidden.**
* `Classifier.refusal_passed_over` — **a refused connection inside an input/output error is
  missed.**
-/

namespace BulkDelivery

/-- What an error is wrapped in. -/
inductive Wrapper
  /-- An input/output error. -/
  | io (kind : IoKind)
  /-- An error of another sort. -/
  | custom (message : String)
  /-- A transport failure. -/
  | transport (kind : FailureKind) (message : String)
  deriving DecidableEq, Repr, Inhabited

namespace Wrapper

/-- Whether a wrapper is an input/output error. -/
def isIo : Wrapper → Bool
  | io _ => true
  | _ => false

/-- Whether a wrapper is a transport failure. -/
def isTransport : Wrapper → Bool
  | transport _ _ => true
  | _ => false

end Wrapper

/-- Whether wrappers, outermost first, hide what they wrap: the nearest one that is not a transport
failure is an input/output error. -/
def hides (ws : List Wrapper) : Bool :=
  (ws.reverse.find? (!·.isTransport)).any Wrapper.isIo

@[simp] theorem hides_nil : hides [] = false := rfl

@[simp] theorem hides_concat_io (ws : List Wrapper) (kind : IoKind) :
    hides (ws ++ [.io kind]) = true := by
  simp [hides, Wrapper.isTransport, Wrapper.isIo]

@[simp] theorem hides_concat_custom (ws : List Wrapper) (message : String) :
    hides (ws ++ [.custom message]) = false := by
  simp [hides, Wrapper.isTransport, Wrapper.isIo]

@[simp] theorem hides_concat_transport (ws : List Wrapper) (kind : FailureKind)
    (message : String) : hides (ws ++ [.transport kind message]) = hides ws := by
  simp [hides, Wrapper.isTransport]

/-- Only an input/output error hides something. -/
theorem exists_isIo_of_hides {ws : List Wrapper} (h : hides ws) : ∃ w ∈ ws, w.isIo := by
  obtain ⟨w, hfind, hio⟩ := (Option.any_eq_true _ _).1 h
  exact ⟨w, List.mem_reverse.1 (List.mem_of_find?_eq_some hfind), hio⟩

namespace Cause

/-- An error in one more wrapper. -/
def wrap (w : Wrapper) (c : Cause) : Cause :=
  match w with
  | .io kind => .ioAround kind c
  | .custom message => .custom message c
  | .transport kind message => .transport kind message c

/-- An error in its wrappers, outermost first. -/
def wrapAll (ws : List Wrapper) (c : Cause) : Cause :=
  ws.foldr wrap c

@[simp] theorem wrapAll_nil (c : Cause) : c.wrapAll [] = c := rfl

@[simp] theorem wrapAll_cons (w : Wrapper) (ws : List Wrapper) (c : Cause) :
    c.wrapAll (w :: ws) = (c.wrapAll ws).wrap w := rfl

/-- Every wrapper in a chain, outermost first. -/
def wrappers : Cause → List Wrapper
  | unknown | handshake | io _ _ => []
  | ioAround kind inner => .io kind :: inner.wrappers
  | custom message cause => .custom message :: cause.wrappers
  | transport kind message cause => .transport kind message :: cause.wrappers

@[simp] theorem wrappers_wrap (w : Wrapper) (c : Cause) :
    (c.wrap w).wrappers = w :: c.wrappers := by
  cases w <;> rfl

/-- The wrappers of an error in a chain are wrappers of the chain. -/
theorem wrappers_wrapAll (ws : List Wrapper) (c : Cause) :
    (c.wrapAll ws).wrappers = ws ++ c.wrappers := by
  induction ws with
  | nil => rfl
  | cons w ws ih => rw [wrapAll_cons, wrappers_wrap, ih, List.cons_append]

/-- A chain ends with an error that wraps nothing, and what it has more is a wrapper. -/
@[elab_as_elim]
theorem wrap_induction {P : Cause → Prop} (unknown : P .unknown) (handshake : P .handshake)
    (io : ∀ kind message, P (.io kind message)) (wrap : ∀ w c, P c → P (c.wrap w)) (c : Cause) :
    P c := by
  induction c with
  | unknown => exact unknown
  | handshake => exact handshake
  | io kind message => exact io kind message
  | ioAround kind inner ih => exact wrap (.io kind) inner ih
  | custom message cause ih => exact wrap (.custom message) cause ih
  | transport kind message cause ih => exact wrap (.transport kind message) cause ih

/-- The errors that are fatal for an Elasticsearch cluster: a refused connection, an unreachable
host, and rejected credentials. -/
def IsFatal (c : Cause) : Prop :=
  c.ioKind? = some .connectionRefused ∨ c.ioKind? = some .permissionDenied ∨
    c.failureKind? = some .connectionRefused ∨ c.failureKind? = some .noRouteToHost ∨
    c.failureKind? = some .unauthorized

instance (c : Cause) : Decidable c.IsFatal :=
  inferInstanceAs (Decidable (_ ∨ _))

theorem IsFatal.ne_unknown {c : Cause} (h : c.IsFatal) : c ≠ .unknown := by
  rintro rfl
  simp [IsFatal, ioKind?, failureKind?] at h

end Cause

/-! ### What is met openly -/

/-- How following a chain comes upon an error. -/
inductive Sight
  /-- It is met openly. -/
  | openly
  /-- It is met, but it shows only its text. -/
  | veiled
  /-- It is not met. -/
  | passedOver
  deriving DecidableEq, Repr, Inhabited

namespace Sight

/-- How an error is come upon that is wrapped in one that is come upon like this. -/
def within : Sight → Wrapper → Sight
  | _, .io _ => passedOver
  | _, .custom _ => openly
  | openly, .transport _ _ => openly
  | _, .transport _ _ => veiled

/-- Every link that is met from an error on. -/
def links : Sight → Cause → List Link
  | openly, c => Link.trailFrom false c
  | veiled, c => Link.trailFrom true c
  | passedOver, c => (Link.trailFrom true c).tail

variable {s : Sight} {w : Wrapper} {ws : List Wrapper} {c chain : Cause}

/-- From a wrapper on the wrapper is met, and then what is met from the wrapped error on. -/
theorem links_wrap (s : Sight) (w : Wrapper) (c : Cause) :
    s.links (c.wrap w) =
      (if s = .passedOver then [] else [{ chain := c.wrap w, isVeiled := s = .veiled }]) ++
        (s.within w).links c := by
  cases s <;> cases w <;> rfl

theorem mem_links_wrap : { chain := c } ∈ s.links (chain.wrap w) ↔
    (s = .openly ∧ c = chain.wrap w) ∨ { chain := c } ∈ (s.within w).links chain := by
  rw [links_wrap, List.mem_append]
  cases s <;> simp

theorem mem_links_self (h : c ≠ .unknown) : { chain := c } ∈ openly.links c := by
  have htrail : openly.links c = Link.trail { chain := c } := rfl
  rw [htrail, Link.trail_eq_cons h]
  exact List.mem_cons_self

/-- An error that is met openly from a chain on is somewhere in the chain. -/
theorem exists_of_mem_links (h : { chain := c } ∈ s.links chain) :
    ∃ ws, chain = c.wrapAll ws ∧ ws.foldl within s = .openly := by
  induction chain using Cause.wrap_induction generalizing s with
  | unknown => cases s <;> cases h
  | handshake =>
    cases s <;> simp [links, Link.trailFrom] at h
    exact ⟨[], h.symm, rfl⟩
  | io kind message =>
    cases s <;> simp [links, Link.trailFrom] at h
    exact ⟨[], h.symm, rfl⟩
  | wrap w chain ih =>
    rcases mem_links_wrap.1 h with ⟨rfl, rfl⟩ | hinner
    · exact ⟨[], rfl, rfl⟩
    · obtain ⟨ws, rfl, hopen⟩ := ih hinner
      exact ⟨w :: ws, rfl, hopen⟩

theorem mem_links_wrapAll (hc : c ≠ .unknown) (h : ws.foldl within s = .openly) :
    { chain := c } ∈ s.links (c.wrapAll ws) := by
  induction ws generalizing s with
  | nil =>
    obtain rfl : s = .openly := h
    exact mem_links_self hc
  | cons w ws ih => exact mem_links_wrap.2 (.inr (ih h))

/-- What is met openly from a chain on is somewhere in the chain, and its wrappers leave it open to
view. -/
theorem mem_links_iff (hc : c ≠ .unknown) : { chain := c } ∈ s.links chain ↔
    ∃ ws, chain = c.wrapAll ws ∧ ws.foldl within s = .openly := by
  constructor
  · exact exists_of_mem_links
  · rintro ⟨ws, rfl, hopen⟩
    exact mem_links_wrapAll hc hopen

/-- Whether an error is met openly depends on the nearest wrapper that is not a transport
failure. -/
theorem foldl_within_eq_openly_iff : ws.foldl within .openly = .openly ↔ hides ws = false := by
  induction ws using List.reverseRecOn with
  | nil => simp
  | append_singleton ws w ih =>
    rw [List.foldl_append, List.foldl_cons, List.foldl_nil]
    cases w with
    | io kind => simp [within]
    | custom message => simp [within]
    | transport kind message =>
      rw [hides_concat_transport, ← ih]
      cases ws.foldl within .openly <;> simp [within]

end Sight

namespace TransportFailure

variable {f : TransportFailure} {c : Cause}

/-- What a failure openly leads to is somewhere behind it and not hidden. -/
theorem leadsTo_iff_wrapped (hc : c ≠ .unknown) : f.LeadsTo { chain := c } ↔
    ∃ ws, f.chain = c.wrapAll ws ∧ hides ws = false := by
  have htrail : f.link.trail = Sight.openly.links f.chain := rfl
  rw [← mem_trail_link_iff, htrail, Sight.mem_links_iff hc]
  simp only [Sight.foldl_within_eq_openly_iff]

end TransportFailure

/-! ### Fatal causes -/

/-- The links that the rules for an Elasticsearch cluster look for are the fatal causes that are met
openly. -/
theorem Link.isFailure_iff {l : Link} :
    l.IsConnectFailure ∨ l.IsCredentialsFailure ↔ l.isVeiled = false ∧ l.chain.IsFatal := by
  obtain ⟨c, v⟩ := l
  cases v with
  | true => simp [IsConnectFailure, IsCredentialsFailure, ioKind?, failureKind?]
  | false =>
    simp only [IsConnectFailure, IsCredentialsFailure, ioKind?, failureKind?, Cause.IsFatal,
      Bool.false_eq_true, if_false, true_and]
    tauto

namespace Classifier

variable {f : TransportFailure}

theorem elasticsearch_isFatal_iff : elasticsearch.isFatal f ↔
    ∃ l, f.LeadsTo l ∧ (l.IsConnectFailure ∨ l.IsCredentialsFailure) := by
  constructor
  · intro hfatal
    obtain ⟨r, hr, l, hl, happlies⟩ := isFatal_iff.1 hfatal
    exact ⟨l, hl, (of_mem_elasticsearch hr).1 l happlies⟩
  · rintro ⟨l, hl, hconnect | hcredentials⟩
    · exact isFatal_iff.2 ⟨_, List.mem_cons_self, l, hl, passes_connect_iff.2 hconnect⟩
    · exact isFatal_iff.2 ⟨_, List.mem_cons_of_mem _ List.mem_cons_self, l, hl,
        passes_credentials_iff.2 hcredentials⟩

/-- **A failure is fatal exactly if a fatal cause is not hidden.**

For an Elasticsearch cluster and any chain of errors that wrap one another in any order and to any
depth, a failure is fatal if and only if somewhere in its chain there is an input/output error that
reports a refused connection or denied permission, or a transport failure that reports a refused
connection, an unreachable host or rejected credentials, and the nearest wrapper around it that is
not a transport failure is not an input/output error.  In particular every such error is
recognised, wherever it is, if no input/output error of the chain wraps another error. -/
theorem fatal_unless_hidden (f : TransportFailure) :
    (elasticsearch.isFatal f ↔
      ∃ (ws : List Wrapper) (c : Cause), f.chain = c.wrapAll ws ∧ c.IsFatal ∧ hides ws = false) ∧
    ((∀ w ∈ f.chain.wrappers, w.isIo = false) →
      ∀ (ws : List Wrapper) (c : Cause), f.chain = c.wrapAll ws → c.IsFatal →
        elasticsearch.isFatal f) := by
  have hiff : elasticsearch.isFatal f ↔
      ∃ (ws : List Wrapper) (c : Cause), f.chain = c.wrapAll ws ∧ c.IsFatal ∧ hides ws = false := by
    rw [elasticsearch_isFatal_iff]
    constructor
    · rintro ⟨⟨c, v⟩, hl, hfailure⟩
      obtain ⟨rfl, hfatal⟩ := Link.isFailure_iff.1 hfailure
      obtain ⟨ws, hchain, hshown⟩ := (f.leadsTo_iff_wrapped hfatal.ne_unknown).1 hl
      exact ⟨ws, c, hchain, hfatal, hshown⟩
    · rintro ⟨ws, c, hchain, hfatal, hshown⟩
      have hl := (f.leadsTo_iff_wrapped hfatal.ne_unknown).2 ⟨ws, hchain, hshown⟩
      exact ⟨_, hl, Link.isFailure_iff.2 ⟨rfl, hfatal⟩⟩
  refine ⟨hiff, ?_⟩
  intro hplain ws c hchain hfatal
  refine hiff.2 ⟨ws, c, hchain, hfatal, ?_⟩
  by_contra hhidden
  -- what hides is an input/output error, and it is a wrapper of the chain
  obtain ⟨w, hw, hio⟩ := exists_isIo_of_hides (Bool.not_eq_false _ ▸ hhidden)
  have hmem : w ∈ f.chain.wrappers := by
    rw [hchain, Cause.wrappers_wrapAll]
    exact List.mem_append_left _ hw
  rw [hplain w hmem] at hio
  cases hio

/-- Rejected credentials are recognised behind an input/output error that passes over a timeout,
because an error of another sort stands between.  A refused connection is recognised behind any
number of errors if none of them is an input/output error around another. -/
theorem fatal_unless_hidden_behind_timeout :
    let rejection : Cause := .transport .unauthorized "401" .unknown
    let around : List Wrapper := [.transport .other "bulk request failed", .io .other,
      .transport .timeout "slow", .custom "gateway", .transport .throttled "busy"]
    let f : TransportFailure :=
      { kind := .other, message := "bulk request failed", cause := rejection.wrapAll around.tail }
    let refusal : Cause := .io .connectionRefused "refused"
    let g : TransportFailure :=
      { kind := .timeout, message := "slow",
        cause := .custom "gateway" (.transport .other "pool exhausted" refusal) }
    (f.chain = rejection.wrapAll around ∧ rejection.IsFatal ∧ hides around = false ∧
      elasticsearch.isFatal f) ∧
    (∀ w ∈ g.chain.wrappers, w.isIo = false) ∧ refusal.IsFatal ∧ elasticsearch.isFatal g := by
  intro rejection around f refusal g
  have hshown : hides around = false := by decide
  have hplain : ∀ w ∈ g.chain.wrappers, w.isIo = false := by decide
  have hchain : g.chain = refusal.wrapAll
      [.transport .timeout "slow", .custom "gateway", .transport .other "pool exhausted"] := rfl
  refine ⟨⟨rfl, by decide, hshown, ?_⟩, hplain, by decide, ?_⟩
  · exact (fatal_unless_hidden f).1.2 ⟨around, rejection, rfl, by decide, hshown⟩
  · exact (fatal_unless_hidden g).2 hplain _ refusal hchain (by decide)

/-- **A refused connection inside an input/output error is missed.**  The failure that the
input/output error amounts to takes over its kind and not that of the error in it, so delivery would
be tried again for ever.  The refusal is also missed, although it is met, as the cause of a
transport failure that an input/output error passes over. -/
theorem refusal_passed_over :
    let refusal : Cause := .io .connectionRefused "refused"
    let f := TransportFailure.ofIo (.ioAround .other refusal)
    let g := TransportFailure.ofIo (.ioAround .other (.transport .timeout "slow" refusal))
    refusal.IsFatal ∧
      (f.chain = refusal.wrapAll [.transport .other "refused", .io .other] ∧
        elasticsearch.classify f = .retry) ∧
      (g.chain = refusal.wrapAll
          [.transport .other "timeout: slow", .io .other, .transport .timeout "slow"] ∧
        g.LeadsTo { chain := refusal, isVeiled := true } ∧ elasticsearch.classify g = .retry) := by
  intro refusal f g
  refine ⟨by decide, ⟨rfl, by decide⟩, rfl, ⟨by decide, 2, by decide⟩, by decide⟩

end Classifier

end BulkDelivery
