/-!
# Failures and what caused them

A request to the store can fail as a whole or for one of its items.  Either way the
failure is a *transport failure*: a coarse kind, a message, and whatever caused it.  A
cause may have a cause of its own, so behind a failure there is a chain of links of
different sorts.

Following a chain from link to link mostly reaches the next link, with two exceptions.  An
input/output error that wraps another error is followed to the cause *of the wrapped
error*, so the wrapped error itself is passed over.  And a transport failure shows its cause
openly only to who has met the failure itself: when it was passed over, its cause is met
*veiled*, as a link that shows its text and nothing else.  Behind a veiled link a transport
failure stays closed, and an error of another sort does not.

## Main definitions

* `IoKind` — what an input/output error reports.
* `FailureKind` — the coarse kind of a transport failure.
* `Cause` — a chain of links, outermost first.
* `Link` — a link as it is met, openly or veiled.
* `Link.next` — the link that follows.
* `Link.trail` — every link reached by following, starting with the link itself.
* `TransportFailure` — a failure of a request.

## Main results

* `Link.trail_eq_cons` — a trail is its first link and the trail of the link that follows.
-/

namespace BulkDelivery

/-- What an input/output error reports. -/
inductive IoKind
  | addrInUse | addrNotAvailable | alreadyExists | argumentListTooLong | brokenPipe
  | connectionAborted | connectionRefused | connectionReset | crossesDevices | deadlock
  | directoryNotEmpty | executableFileBusy | fileTooLarge | filesystemLoop | hostUnreachable
  | inProgress | interrupted | invalidData | invalidFilename | invalidInput | isADirectory
  | networkDown | networkUnreachable | notADirectory | notConnected | notFound | notSeekable
  | other | outOfMemory | permissionDenied | quotaExceeded | readOnlyFilesystem | resourceBusy
  | staleNetworkFileHandle | storageFull | timedOut | tooManyLinks | uncategorized
  | unexpectedEof | unsupported | wouldBlock | writeZero
  deriving DecidableEq, Repr, Inhabited

/-- The coarse kind of a transport failure. -/
inductive FailureKind
  /-- The remote host refused the connection. -/
  | connectionRefused
  /-- No configured host can be reached. -/
  | noRouteToHost
  /-- The credentials were rejected. -/
  | unauthorized
  /-- The request took too long. -/
  | timeout
  /-- The store is shedding load. -/
  | throttled
  /-- The store rejected a single item. -/
  | rejected
  /-- Anything else. -/
  | other
  deriving DecidableEq, Repr, Inhabited

namespace FailureKind

/-- Every kind. -/
def all : List FailureKind :=
  [connectionRefused, noRouteToHost, unauthorized, timeout, throttled, rejected, other]

/-- The text shown for a kind. -/
def text : FailureKind → String
  | connectionRefused => "connection refused"
  | noRouteToHost => "no route to host"
  | unauthorized => "unauthorized"
  | timeout => "timeout"
  | throttled => "throttled"
  | rejected => "rejected"
  | other => "transport error"

/-- The kind of failure an input/output error amounts to. -/
def ofIo : IoKind → FailureKind
  | .connectionRefused => connectionRefused
  | .timedOut => timeout
  | .permissionDenied => unauthorized
  | _ => other

end FailureKind

/-! ### Chains of causes -/

/-- What lies behind a failure, outermost link first. -/
inductive Cause
  /-- Nothing further is known. -/
  | unknown
  /-- A handshake failed. -/
  | handshake
  /-- An input/output error with a message of its own. -/
  | io (kind : IoKind) (message : String)
  /-- An input/output error around another error, which speaks for it. -/
  | ioAround (kind : IoKind) (inner : Cause)
  /-- An error of another sort. -/
  | custom (message : String) (cause : Cause)
  /-- A transport failure. -/
  | transport (kind : FailureKind) (message : String) (cause : Cause)
  deriving DecidableEq, Repr, Inhabited

namespace Cause

/-- The text shown for the outermost link. -/
def text : Cause → String
  | unknown => ""
  | handshake => "handshake failed"
  | io _ message => message
  | ioAround _ inner => inner.text
  | custom message _ => message
  | transport kind message _ => s!"{kind.text}: {message}"

/-- The kind an outermost input/output error reports. -/
def ioKind? : Cause → Option IoKind
  | io kind _ => some kind
  | ioAround kind _ => some kind
  | _ => none

/-- The kind of an outermost transport failure. -/
def failureKind? : Cause → Option FailureKind
  | transport kind _ _ => some kind
  | _ => none

end Cause

/-! ### Following a chain -/

/-- The outermost link of a chain, as it is met by who follows the chain. -/
structure Link where
  /-- The chain that the link is the outermost one of. -/
  chain : Cause
  /-- Whether the link shows nothing but its text. -/
  isVeiled : Bool := false
  deriving DecidableEq, Repr, Inhabited

namespace Link

/-- The text shown for a link. -/
def text (l : Link) : String :=
  l.chain.text

/-- The kind an input/output error reports, if it is met openly. -/
def ioKind? (l : Link) : Option IoKind :=
  if l.isVeiled then none else l.chain.ioKind?

/-- The kind of a transport failure, if it is met openly. -/
def failureKind? (l : Link) : Option FailureKind :=
  if l.isVeiled then none else l.chain.failureKind?

/-- The link that follows the outermost link of a chain, which is met veiled or openly.  An
input/output error around another error leads on as that error would if it were veiled. -/
def after (isVeiled : Bool) : Cause → Link
  | .unknown => { chain := .unknown }
  | .handshake => { chain := .unknown }
  | .io _ _ => { chain := .unknown }
  | .ioAround _ inner => after true inner
  | .custom _ cause => { chain := cause }
  | .transport _ _ cause => { chain := cause, isVeiled }

/-- The link that follows. -/
def next (l : Link) : Link :=
  after l.isVeiled l.chain

/-- Every link reached from the outermost link of a chain, which is met veiled or openly. -/
def trailFrom (isVeiled : Bool) : Cause → List Link
  | .unknown => []
  | .handshake => [{ chain := .handshake, isVeiled }]
  | .io kind message => [{ chain := .io kind message, isVeiled }]
  | .ioAround kind inner =>
    { chain := .ioAround kind inner, isVeiled } :: (trailFrom true inner).tail
  | .custom message cause =>
    { chain := .custom message cause, isVeiled } :: trailFrom false cause
  | .transport kind message cause =>
    { chain := .transport kind message cause, isVeiled } :: trailFrom isVeiled cause

/-- Every link reached by following, starting with the link itself. -/
def trail (l : Link) : List Link :=
  trailFrom l.isVeiled l.chain

@[simp] theorem trail_unknown (v : Bool) : trail { chain := .unknown, isVeiled := v } = [] := rfl

theorem trail_after (v : Bool) (c : Cause) : (after v c).trail = (trailFrom v c).tail := by
  induction c generalizing v with
  | ioAround kind inner ih => simpa [after, trailFrom] using ih true
  | _ => rfl

theorem trail_next (l : Link) : l.next.trail = l.trail.tail :=
  trail_after l.isVeiled l.chain

theorem trail_eq_cons {l : Link} (h : l.chain ≠ .unknown) : l.trail = l :: l.next.trail := by
  rw [trail_next]
  obtain ⟨c, v⟩ := l
  cases c with
  | unknown => exact absurd rfl h
  | _ => rfl

end Link

/-! ### Failures of requests -/

/-- A failure of a request, for the whole batch or for one item. -/
structure TransportFailure where
  /-- What went wrong, coarsely. -/
  kind : FailureKind
  /-- A description. -/
  message : String
  /-- What caused it. -/
  cause : Cause := .unknown
  deriving DecidableEq, Repr, Inhabited

namespace TransportFailure

/-- The chain of a failure and what lies behind it. -/
def chain (f : TransportFailure) : Cause :=
  .transport f.kind f.message f.cause

/-- The failure as it is met first, openly. -/
def link (f : TransportFailure) : Link :=
  { chain := f.chain }

/-- The text shown for a failure. -/
def text (f : TransportFailure) : String :=
  f.chain.text

/-- The texts of everything behind a failure. -/
def sources (f : TransportFailure) : List String :=
  f.link.next.trail.map Link.text

/-- The failure an input/output error amounts to: it takes over the message and keeps the
error as its cause. -/
def ofIo (error : Cause) : TransportFailure :=
  { kind := (error.ioKind?.map FailureKind.ofIo).getD .other
    message := error.text
    cause := error }

/-- The rejection of a single item. -/
def rejected (message : String) : TransportFailure :=
  { kind := .rejected, message }

end TransportFailure

/-- An input/output error that wraps nothing. -/
structure IoError where
  /-- What it reports. -/
  kind : IoKind
  /-- The text shown for it. -/
  message : String
  deriving DecidableEq, Repr, Inhabited

end BulkDelivery
