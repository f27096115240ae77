import BulkDelivery.Failure.Classifier
import Mathlib.Logic.Function.Iterate
import Mathlib.Tactic.Common

/-!
# The first rule

A verdict comes out of two searches, one in the other: rules are tried in their order, and each is
tried on every link that following the failure leads to.  So the first rule that applies anywhere
decides, however deep the link is to which it applies, and a later rule does not decide even if it
applies to the failure itself.  A failure that is put behind another one is met after one step, and
from there on everything is met that was met before.

## Main definitions

* `TransportFailure.LeadsTo` — following a failure step by step leads to a link.
* `Link.IsConnectFailure`, `Link.IsCredentialsFailure` — what the rules for an Elasticsearch cluster
  look for.

## Main results

* `Link.mem_trail_iff` — a trail holds what is met step by step.
* `Classifier.classify_eq_fatal_iff` — the first rule that applies somewhere decides.
* `Classifier.classify_concat` — a further rule decides only what no rule decided.
* `Classifier.isFatal_around` — what is fatal stays fatal behind another failure.
* `Classifier.elasticsearch_of_connect`, `Classifier.elasticsearch_of_credentials`,
  `Classifier.elasticsearch_of_neither` — the verdict for an Elasticsearch cluster.
* `Classifier.first_rule_decides` — **the first rule that applies to some link decides.**
-/

namespace BulkDelivery

/-! ### What is met -/

namespace Link

variable {l l' : Link}

theorem next_of_unknown (h : l.chain = .unknown) : l.next.chain = .unknown := by
  rw [next, h]
  rfl

/-- Beyond the end of a chain nothing is met. -/
theorem iterate_next_of_unknown (h : l.chain = .unknown) (n : Nat) :
    (next^[n] l).chain = .unknown := by
  induction n generalizing l with
  | zero => exact h
  | succ n ih =>
    rw [Function.iterate_succ_apply]
    exact ih (next_of_unknown h)

/-- A trail holds what is met step by step. -/
theorem mem_trail_iff : l' ∈ l.trail ↔ l'.chain ≠ .unknown ∧ ∃ n, next^[n] l = l' := by
  induction htrail : l.trail generalizing l with
  | nil =>
    -- only the end of a chain has no trail
    have hend : l.chain = .unknown := by
      by_contra hknown
      rw [trail_eq_cons hknown] at htrail
      cases htrail
    refine iff_of_false (List.not_mem_nil) ?_
    rintro ⟨hknown, n, rfl⟩
    exact hknown (iterate_next_of_unknown hend n)
  | cons first rest ih =>
    have hknown : l.chain ≠ .unknown := by
      intro hend
      obtain ⟨c, v⟩ := l
      obtain rfl : c = .unknown := hend
      cases htrail
    rw [trail_eq_cons hknown, List.cons.injEq] at htrail
    obtain ⟨rfl, hrest⟩ := htrail
    rw [List.mem_cons, ih hrest]
    constructor
    · rintro (rfl | ⟨hlink, n, hn⟩)
      · exact ⟨hknown, 0, rfl⟩
      · exact ⟨hlink, n + 1, hn⟩
    · rintro ⟨hlink, n, hn⟩
      cases n with
      | zero => exact .inl hn.symm
      | succ n => exact .inr ⟨hlink, n, hn⟩

end Link

namespace TransportFailure

variable {f : TransportFailure} {l : Link}

/-- Following a failure step by step leads to a link.  The failure itself is the first one. -/
def LeadsTo (f : TransportFailure) (l : Link) : Prop :=
  l.chain ≠ .unknown ∧ ∃ n, Link.next^[n] f.link = l

theorem mem_trail_link_iff : l ∈ f.link.trail ↔ f.LeadsTo l :=
  Link.mem_trail_iff

/-- What is met behind a failure is met one step later if the failure is put behind another one. -/
theorem LeadsTo.around (h : f.LeadsTo l) (outer : TransportFailure) :
    { outer with cause := f.chain }.LeadsTo l := by
  obtain ⟨hlink, n, hn⟩ := h
  exact ⟨hlink, n + 1, hn⟩

end TransportFailure

/-! ### What decides -/

namespace Classifier

variable {c : Classifier} {f : TransportFailure} {r : Rule} {halt : Halt}

theorem reaches_iff : reaches f r ↔ ∃ l, f.LeadsTo l ∧ r.applies l := by
  simp [reaches, TransportFailure.mem_trail_link_iff]

theorem not_reaches_iff : ¬reaches f r ↔ ∀ l, f.LeadsTo l → r.applies l = false := by
  simp [reaches_iff]

/-- The first rule that applies somewhere decides. -/
theorem classify_eq_fatal_iff : c.classify f = .fatal halt ↔
    ∃ front r back, c.rules = front ++ r :: back ∧ (∃ l, f.LeadsTo l ∧ r.applies l) ∧
      (∀ r' ∈ front, ∀ l, f.LeadsTo l → r'.applies l = false) ∧ halt = r.halt f := by
  have hfind : c.classify f = .fatal halt ↔
      ∃ r, c.rules.find? (reaches f) = some r ∧ halt = r.halt f := by
    rw [classify]
    cases c.rules.find? (reaches f) with
    | none => simp
    | some r => simp [eq_comm]
  rw [hfind]
  constructor
  · rintro ⟨r, hr, hhalt⟩
    obtain ⟨hreaches, front, back, hrules, hbefore⟩ := List.find?_eq_some_iff_append.1 hr
    refine ⟨front, r, back, hrules, reaches_iff.1 hreaches, ?_, hhalt⟩
    intro r' hr'
    exact not_reaches_iff.1 (by simpa using hbefore r' hr')
  · rintro ⟨front, r, back, hrules, hmeets, hbefore, hhalt⟩
    refine ⟨r, List.find?_eq_some_iff_append.2 ⟨reaches_iff.2 hmeets, front, back, hrules, ?_⟩,
      hhalt⟩
    intro r' hr'
    simpa using not_reaches_iff.2 (hbefore r' hr')

/-- A further rule decides only what no rule decided. -/
theorem classify_concat (r : Rule) (h : c.classify f ≠ .retry) :
    classify { rules := c.rules ++ [r] } f = c.classify f := by
  cases hverdict : c.classify f with
  | retry => exact absurd hverdict h
  | fatal halt =>
    obtain ⟨front, r', back, hrules, hmeets, hbefore, hhalt⟩ := classify_eq_fatal_iff.1 hverdict
    refine classify_eq_fatal_iff.2 ⟨front, r', back ++ [r], ?_, hmeets, hbefore, hhalt⟩
    rw [hrules, List.append_assoc, List.cons_append]

theorem isFatal_iff : c.isFatal f ↔ ∃ r ∈ c.rules, ∃ l, f.LeadsTo l ∧ r.applies l := by
  have hretry : c.isFatal f ↔ c.classify f ≠ .retry := by
    rw [isFatal]
    cases c.classify f <;> simp [Verdict.isFatal]
  rw [hretry, ne_eq, classify_eq_retry_iff]
  simp [TransportFailure.mem_trail_link_iff]

/-- What is fatal stays fatal behind another failure. -/
theorem isFatal_around (h : c.isFatal f) (outer : TransportFailure) :
    c.isFatal { outer with cause := f.chain } := by
  obtain ⟨r, hr, l, hl, happlies⟩ := isFatal_iff.1 h
  exact isFatal_iff.2 ⟨r, hr, l, hl.around outer, happlies⟩

end Classifier

/-! ### Elasticsearch clusters -/

/-- A link that says that no host accepts connections. -/
def Link.IsConnectFailure (l : Link) : Prop :=
  l.failureKind? = some .connectionRefused ∨ l.failureKind? = some .noRouteToHost ∨
    l.ioKind? = some .connectionRefused

/-- A link that says that the credentials were rejected. -/
def Link.IsCredentialsFailure (l : Link) : Prop :=
  l.failureKind? = some .unauthorized ∨ l.ioKind? = some .permissionDenied

namespace Classifier

variable {f : TransportFailure} {l : Link} {halt : Halt}

theorem passes_connect_iff :
    [LinkTest.ofKind [.connectionRefused, .noRouteToHost], .ofIoKind [.connectionRefused]].any
      (·.passes l) ↔ l.IsConnectFailure := by
  cases hkind : l.failureKind? <;> cases hio : l.ioKind? <;>
    simp [LinkTest.passes, Link.IsConnectFailure, hkind, hio, or_assoc]

theorem passes_credentials_iff :
    [LinkTest.ofKind [.unauthorized], .ofIoKind [.permissionDenied]].any (·.passes l) ↔
      l.IsCredentialsFailure := by
  cases hkind : l.failureKind? <;> cases hio : l.ioKind? <;>
    simp [LinkTest.passes, Link.IsCredentialsFailure, hkind, hio]

/-- What the rules for an Elasticsearch cluster look for, and what they report. -/
theorem of_mem_elasticsearch {r : Rule} (hr : r ∈ elasticsearch.rules) :
    (∀ l, r.applies l → l.IsConnectFailure ∨ l.IsCredentialsFailure) ∧
      ∀ f, (r.halt f).cause = f := by
  rcases List.mem_cons.1 hr with rfl | hsecond
  · exact ⟨fun l hpasses => .inl (passes_connect_iff.1 hpasses), fun f => rfl⟩
  · rw [List.mem_singleton.1 hsecond]
    exact ⟨fun l hpasses => .inr (passes_credentials_iff.1 hpasses), fun f => rfl⟩

theorem elasticsearch_of_connect (h : ∃ l, f.LeadsTo l ∧ l.IsConnectFailure) :
    elasticsearch.classify f = .fatal { reason := connectReason, cause := f } := by
  obtain ⟨l, hl, hconnect⟩ := h
  refine classify_eq_fatal_iff.2 ⟨[], _, _, rfl, ⟨l, hl, passes_connect_iff.2 hconnect⟩, ?_, rfl⟩
  intro r hr
  cases hr

theorem elasticsearch_of_credentials (hconnect : ∀ l, f.LeadsTo l → ¬l.IsConnectFailure)
    (h : ∃ l, f.LeadsTo l ∧ l.IsCredentialsFailure) :
    elasticsearch.classify f = .fatal { reason := credentialsReason, cause := f } := by
  obtain ⟨l, hl, hcredentials⟩ := h
  refine classify_eq_fatal_iff.2
    ⟨[_], _, [], rfl, ⟨l, hl, passes_credentials_iff.2 hcredentials⟩, ?_, rfl⟩
  intro r hr l' hl'
  rw [List.mem_singleton.1 hr, ← Bool.not_eq_true]
  exact fun hpasses => hconnect l' hl' (passes_connect_iff.1 hpasses)

theorem elasticsearch_of_neither (hconnect : ∀ l, f.LeadsTo l → ¬l.IsConnectFailure)
    (hcredentials : ∀ l, f.LeadsTo l → ¬l.IsCredentialsFailure) :
    elasticsearch.classify f = .retry := by
  rw [classify_eq_retry_iff]
  intro r hr l hl
  rw [TransportFailure.mem_trail_link_iff] at hl
  rw [← Bool.not_eq_true]
  intro happlies
  rcases (of_mem_elasticsearch hr).1 l happlies with hconnect' | hcredentials'
  · exact hconnect l hl hconnect'
  · exact hcredentials l hl hcredentials'

/-- The rules for an Elasticsearch cluster report the failure itself, wherever they applied. -/
theorem cause_of_elasticsearch (h : elasticsearch.classify f = .fatal halt) : halt.cause = f := by
  obtain ⟨front, r, back, hrules, -, -, rfl⟩ := classify_eq_fatal_iff.1 h
  have hr : r ∈ elasticsearch.rules := by
    rw [hrules]
    exact List.mem_append_right front List.mem_cons_self
  exact (of_mem_elasticsearch hr).2 f

/-- **The first rule that applies to some link decides.**

Whatever the rules are and however long the chain behind a failure is, the verdict is fatal with
what a rule makes of the failure if and only if this rule applies to some link that the failure
leads to and no rule before it applies to any.  The failure is worth another try if and only if no
rule applies to any link.  So a further rule does not change a fatal verdict, and a fatal failure
stays fatal behind any other failure.  For an Elasticsearch cluster the reason is that no host
accepts connections if any link says so, whatever the links before it say; only if none does, it may
be that the credentials were rejected, and if no link says this either, the failure is worth another
try.  What is reported as the cause is always the failure itself. -/
theorem first_rule_decides (c : Classifier) (f : TransportFailure) :
    (∀ halt, c.classify f = .fatal halt ↔ ∃ front r back, c.rules = front ++ r :: back ∧
      (∃ l, f.LeadsTo l ∧ r.applies l) ∧
      (∀ r' ∈ front, ∀ l, f.LeadsTo l → r'.applies l = false) ∧ halt = r.halt f) ∧
    (c.classify f = .retry ↔ ∀ r ∈ c.rules, ∀ l, f.LeadsTo l → r.applies l = false) ∧
    (∀ r, c.classify f ≠ .retry → classify { rules := c.rules ++ [r] } f = c.classify f) ∧
    (∀ outer : TransportFailure, c.isFatal f → c.isFatal { outer with cause := f.chain }) ∧
    ((∃ l, f.LeadsTo l ∧ l.IsConnectFailure) →
      elasticsearch.classify f = .fatal { reason := connectReason, cause := f }) ∧
    ((∀ l, f.LeadsTo l → ¬l.IsConnectFailure) → (∃ l, f.LeadsTo l ∧ l.IsCredentialsFailure) →
      elasticsearch.classify f = .fatal { reason := credentialsReason, cause := f }) ∧
    ((∀ l, f.LeadsTo l → ¬l.IsConnectFailure) → (∀ l, f.LeadsTo l → ¬l.IsCredentialsFailure) →
      elasticsearch.classify f = .retry) ∧
    ∀ halt, elasticsearch.classify f = .fatal halt → halt.cause = f := by
  refine ⟨fun _ => classify_eq_fatal_iff, ?_, fun r => classify_concat r,
    fun outer hfatal => isFatal_around hfatal outer, elasticsearch_of_connect,
    elasticsearch_of_credentials, elasticsearch_of_neither, fun _ => cause_of_elasticsearch⟩
  simp only [classify_eq_retry_iff, TransportFailure.mem_trail_link_iff]

/-- The credentials were rejected because of a gateway that was refused a connection.  The refusal
is three steps away, behind an input/output error that passes over the error it wraps, and it
decides.  It still does so behind a timeout and with a further rule that applies to everything. -/
theorem first_rule_decides_behind_credentials :
    let refusal : Cause := .io .connectionRefused "refused"
    let gateway : Cause := .ioAround .other (.custom "passed over" refusal)
    let f : TransportFailure :=
      { kind := .unauthorized, message := "401", cause := .custom "gateway" gateway }
    let slow : TransportFailure := { kind := .timeout, message := "slow" }
    let anything : Rule := Rule.ofTests "anything" [.always] "no further tries"
    (f.LeadsTo { chain := refusal } ∧ Link.IsConnectFailure { chain := refusal } ∧
      f.link.IsCredentialsFailure) ∧
    elasticsearch.classify f = .fatal { reason := connectReason, cause := f } ∧
    elasticsearch.isFatal { slow with cause := f.chain } ∧
    classify { rules := elasticsearch.rules ++ [anything] } f = elasticsearch.classify f := by
  intro refusal gateway f slow anything
  have hleads : f.LeadsTo { chain := refusal } := ⟨by decide, 3, by decide⟩
  have hconnect : Link.IsConnectFailure { chain := refusal } := .inr (.inr rfl)
  obtain ⟨-, -, hfurther, haround, hreason, -, -, -⟩ := first_rule_decides elasticsearch f
  have hverdict := hreason ⟨_, hleads, hconnect⟩
  have hfatal : elasticsearch.classify f ≠ .retry := by
    rw [hverdict]
    exact Verdict.noConfusion
  have hisFatal : elasticsearch.isFatal f := by
    rw [isFatal, hverdict]
    rfl
  exact ⟨⟨hleads, hconnect, .inl rfl⟩, hverdict, haround slow hisFatal, hfurther anything hfatal⟩

end Classifier

end BulkDelivery
