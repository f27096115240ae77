import BulkDelivery.Failure
import BulkDelivery.Text.Quoted

/-!
# Which failures are fatal

A classifier is an ordered list of rules.  Each rule is tried on every link behind a
failure, outermost first, before the next rule is tried at all.  The first rule that
applies to some link makes the failure fatal; a failure that no rule applies to is worth
another try.

## Main definitions

* `Halt` — a failure that ends all delivery, with the reason why.
* `Verdict` — fatal, or worth another try.
* `Rule`, `Classifier` — a rule and a list of rules.
* `Classifier.classify` — the verdict on a failure.
* `LinkTest` — the tests on links that rules are built from.
* `elasticsearch` — the rules for an Elasticsearch cluster.

## Main results

* `Classifier.classify_eq_retry_iff` — a failure is worth another try when no rule applies
  to any link.
-/

namespace BulkDelivery

/-- A failure that ends all delivery. -/
structure Halt where
  /-- Why the failure is fatal. -/
  reason : String
  /-- The failure. -/
  cause : TransportFailure
  deriving DecidableEq, Repr, Inhabited

/-- The texts of everything behind a halt. -/
def Halt.sources (h : Halt) : List String :=
  h.cause.text :: h.cause.sources

/-- What a failure leads to. -/
inductive Verdict
  /-- Delivery ends. -/
  | fatal (halt : Halt)
  /-- The affected operations are tried again. -/
  | retry
  deriving DecidableEq, Repr, Inhabited

/-- Whether a verdict ends delivery. -/
def Verdict.isFatal : Verdict → Bool
  | fatal _ => true
  | retry => false

/-- A named rule: which links it applies to, and the halt it makes of the failure. -/
structure Rule where
  /-- The name the rule is listed under. -/
  name : String
  /-- Whether the rule applies to a link. -/
  applies : Link → Bool
  /-- What becomes of the failure. -/
  halt : TransportFailure → Halt

/-- Rules in the order in which they are tried. -/
structure Classifier where
  /-- The rules. -/
  rules : List Rule := []

namespace Classifier

/-- Whether a rule applies to some link behind a failure, the failure itself included. -/
def reaches (f : TransportFailure) (r : Rule) : Bool :=
  f.link.trail.any r.applies

/-- The verdict on a failure. -/
def classify (c : Classifier) (f : TransportFailure) : Verdict :=
  match c.rules.find? (reaches f) with
  | some r => .fatal (r.halt f)
  | none => .retry

/-- Whether a failure is fatal. -/
def isFatal (c : Classifier) (f : TransportFailure) : Bool :=
  (c.classify f).isFatal

/-- The text shown for a classifier. -/
def text (c : Classifier) : String :=
  "FatalExceptionClassifier \x7b rules: " ++ inspectedList (c.rules.map Rule.name) ++ " \x7d"

theorem classify_eq_retry_iff (c : Classifier) (f : TransportFailure) :
    c.classify f = .retry ↔ ∀ r ∈ c.rules, ∀ l ∈ f.link.trail, r.applies l = false := by
  unfold classify
  cases h : c.rules.find? (reaches f) with
  | none => simpa [reaches] using h
  | some r =>
    have hr := List.find?_some h
    simp only [reaches, List.any_eq_true] at hr
    obtain ⟨l, hl, happlies⟩ := hr
    simp only [reduceCtorEq, false_iff]
    intro hall
    simp [hall r (List.mem_of_find?_eq_some h) l hl] at happlies

end Classifier

/-! ### Tests on links -/

/-- The sorts of links. -/
inductive LinkSort
  /-- A transport failure. -/
  | transport
  /-- An input/output error. -/
  | io
  /-- A failed handshake. -/
  | handshake
  /-- An error of another sort. -/
  | custom
  deriving DecidableEq, Repr, Inhabited

/-- The sort of the outermost link. -/
def Cause.sort? : Cause → Option LinkSort
  | unknown => none
  | handshake => some .handshake
  | io _ _ => some .io
  | ioAround _ _ => some .io
  | custom _ _ => some .custom
  | transport _ _ _ => some .transport

/-- The sort of a link, if it is met openly. -/
def Link.sort? (l : Link) : Option LinkSort :=
  if l.isVeiled then none else l.chain.sort?

/-- A test on one link. -/
inductive LinkTest
  /-- The link is of this sort. -/
  | ofSort (sort : LinkSort)
  /-- Every link passes. -/
  | always
  /-- The link is a transport failure of one of these kinds. -/
  | ofKind (kinds : List FailureKind)
  /-- The link is an input/output error of one of these kinds. -/
  | ofIoKind (kinds : List IoKind)
  /-- The text shown for the link contains this text. -/
  | mentions (text : String)
  deriving DecidableEq, Repr, Inhabited

/-- Whether `part` occurs in `whole`. -/
def occursIn (part : List Char) (whole : List Char) : Bool :=
  part.isPrefixOf whole ||
    match whole with
    | [] => false
    | _ :: rest => occursIn part rest

/-- Whether a link passes a test. -/
def LinkTest.passes : LinkTest → Link → Bool
  | ofSort sort, l => l.sort? == some sort
  | always, _ => true
  | ofKind kinds, l => l.failureKind?.any kinds.contains
  | ofIoKind kinds, l => l.ioKind?.any kinds.contains
  | mentions text, l => occursIn text.toList l.text.toList

/-- The rule that applies to links which pass one of the tests. -/
def Rule.ofTests (name : String) (tests : List LinkTest) (reason : String) : Rule where
  name := name
  applies l := tests.any (·.passes l)
  halt f := { reason, cause := f }

/-! ### Elasticsearch clusters -/

/-- The reason given when no host accepts connections. -/
def connectReason : String :=
  "Could not connect to Elasticsearch cluster using provided hosts"

/-- The reason given when the credentials are rejected. -/
def credentialsReason : String :=
  "Elasticsearch cluster rejected the provided credentials"

/-- The rules for an Elasticsearch cluster: refused connections and unreachable hosts are
fatal, and so are rejected credentials. -/
def elasticsearch : Classifier where
  rules :=
    [ Rule.ofTests "connect"
        [.ofKind [.connectionRefused, .noRouteToHost], .ofIoKind [.connectionRefused]]
        connectReason,
      Rule.ofTests "auth" [.ofKind [.unauthorized], .ofIoKind [.permissionDenied]]
        credentialsReason ]

end BulkDelivery
