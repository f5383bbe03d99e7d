/-
The ingress of external events and its relay (`control_plane.rs`).

Desktop actors hand events to `ExternalEventIngress` from any thread. The
relay takes them from a bounded queue and publishes them to the coordinator.
Both sides share one word, the resync state: odd while a gap is latched, even
otherwise, and half of it is the number of gaps the relay claimed.

Nothing here is atomic beyond a single instruction, so a step of the model is
one load, one compare-exchange, one operation of the queue or one
publication. A call is wherever it got to (`CallPoint`), and so is the relay
(`RelayPoint`); an event is named by the call that hands it over, so that two
calls with equal payloads stay apart.
-/
import Mathlib.Algebra.Order.Ring.Int

namespace Xenoteer.ExternalEvents

/-- `u64::wrapping_add(1)`. -/
def wrappingSucc (state : Nat) : Nat := (state + 1) % 2 ^ 64

/-- `state & 1 == 1`: a gap is latched that the relay did not claim yet. -/
def latched (state : Nat) : Bool := state % 2 = 1

structure EpochRuntimeEvent (C : Type) where
  admissionEpoch : Nat
  event : C
deriving DecidableEq

/-- `event_after_external_barrier`: the event, unless it was admitted before
the gap whose barrier was published last. -/
def eventAfterExternalBarrier {C : Type} (queued : EpochRuntimeEvent C) (publishedEpoch : Nat) : Option C :=
  if queued.admissionEpoch = publishedEpoch then some queued.event else none

/-- What `try_send` returns: `Ok(())` or one of its `ExternalEventIngressError`s. -/
inductive SendResult
  | ok
  | full
  | closed
deriving DecidableEq

/-- Who runs `require_resync`. -/
inductive ResyncCaller
  | plain
  | tryRequireResync
  | trySend
deriving DecidableEq

/-- How far a call of the ingress got: the next instruction and what it holds. -/
inductive CallPoint
  | idle
  /-- `try_send` past its first `is_closed`, about to load the admission epoch. -/
  | loading
  /-- `try_send` loaded an odd epoch, about to check `is_closed` again. -/
  | gap
  | sending (admissionEpoch : Nat)
  /-- `require_resync`, about to load the state. -/
  | resyncing (caller : ResyncCaller)
  /-- `require_resync`, about to exchange `observed` for its successor. -/
  | latching (caller : ResyncCaller) (observed : Nat)
  | notifying (caller : ResyncCaller)
  /-- `try_require_resync`, about to check `is_closed` again. -/
  | rechecking
  | returned (result : Option SendResult)

/-- How far the relay got. `held` is the event it received, while the claim
after `recv` runs. -/
inductive RelayPoint (C : Type)
  /-- Before the check of the generation. -/
  | starting
  /-- `claim_external_resync`, about to load the state. -/
  | claiming (held : Option (EpochRuntimeEvent C))
  /-- `claim_external_resync`, about to exchange `observed` for its successor. -/
  | swapping (held : Option (EpochRuntimeEvent C)) (observed : Nat)
  | publishing (held : Option (EpochRuntimeEvent C)) (claimedEpoch : Nat)
  | selecting
  | deciding (queued : EpochRuntimeEvent C)
  /-- The relay returned, with an error if `failed`, and dropped the receiver. -/
  | exited (failed : Bool)
deriving DecidableEq

/-- The ingress, the relay and what they share. -/
structure System (C : Type) where
  capacity : Nat
  queue : List (EpochRuntimeEvent C)
  resyncState : Nat
  /-- The stored permit of `resync_notify`. -/
  permit : Bool
  calls : C → CallPoint
  relay : RelayPoint C
  publishedEpoch : Nat
  /-- The coordinator answers `Closed`; it never opens again. -/
  coordinatorClosed : Bool
  cancelled : Bool

/-- What happens in a run, as far as the protocol is about it. -/
inductive Output (C : Type)
  /-- A call of `try_send` passes its first check. -/
  | started (call : C)
  /-- A call of `try_send` loads its admission epoch. -/
  | loaded (call : C) (admissionEpoch : Nat)
  | returned (call : C) (result : SendResult)
  | claimed (epoch : Nat)
  /-- The barrier of a claimed epoch is published. -/
  | barrier (epoch : Nat)
  /-- The event of a call is published. -/
  | event (call : C)
deriving DecidableEq

def externalEventQueueCapacity : Nat := 1024

variable {C : Type}

def spawnExternalEventRelay (capacity : Nat) : System C :=
  { capacity, queue := [], resyncState := 0, permit := false, calls := fun _ => .idle, relay := .starting,
    publishedEpoch := 0, coordinatorClosed := false, cancelled := false }

/-- What came of `publish_runtime_event`. -/
inductive Publication
  | published
  /-- The coordinator is closed and the relay cancelled: `Ok` all the same. -/
  | discarded
  | failed

namespace System

/-- `sender.is_closed()`: the relay dropped the receiver. -/
def isClosed (s : System C) : Bool :=
  match s.relay with
  | .exited _ => true
  | _ => false

/-- `publish_runtime_event`. `accepted` is false when the event has no
retention charge or the coordinator refuses it for a reason other than being
closed. -/
def publishRuntimeEvent (s : System C) (accepted : Bool) : Publication :=
  if !accepted then .failed
  else if s.coordinatorClosed then (if s.cancelled then .discarded else .failed)
  else .published

def enqueue (s : System C) (queued : EpochRuntimeEvent C) :
    System C := { s with queue := s.queue ++ [queued] }

def setState (s : System C) (resyncState : Nat) : System C := { s with resyncState }

def setPermit (s : System C) (permit : Bool) : System C := { s with permit }

/-- The relay returns. The receiver is its own, so what is queued goes with it. -/
def exit (s : System C) (failed : Bool) : System C := { s with queue := [], relay := .exited failed }

section Calls

variable [DecidableEq C]

section

variable (s : System C)

def goto (c : C) (point : CallPoint) : System C :=
  { s with calls := Function.update s.calls c point }

def sendReturns (c : C) (result : SendResult) : List (Output C) × System C :=
  ([.returned c result], s.goto c (.returned (some result)))

/-- `require_resync` returns to its caller. -/
def resyncReturns (c : C) : ResyncCaller → List (Output C) × System C
  | .plain => ([], s.goto c (.returned none))
  | .tryRequireResync => ([], s.goto c .rechecking)
  | .trySend => s.sendReturns c .full

/-- The head of the loop of `require_resync`, with the state it just read. -/
def latchLoop (c : C) (caller : ResyncCaller) : List (Output C) × System C :=
  if latched s.resyncState then s.resyncReturns c caller
  else ([], s.goto c (.latching caller s.resyncState))

def startTrySend (c : C) : List (Output C) × System C :=
  match s.calls c with
  | .idle => if s.isClosed then s.sendReturns c .closed else ([.started c], s.goto c .loading)
  | _ => ([], s)

def startRequireResync (c : C) : List (Output C) × System C :=
  match s.calls c with
  | .idle => ([], s.goto c (.resyncing .plain))
  | _ => ([], s)

def startTryRequireResync (c : C) : List (Output C) × System C :=
  match s.calls c with
  | .idle =>
    if s.isClosed then ([], s.goto c (.returned (some .closed)))
    else ([], s.goto c (.resyncing .tryRequireResync))
  | _ => ([], s)

/-- The next instruction of a running call. `weak` lets a
`compare_exchange_weak` fail although the state is the expected one. -/
def stepCall (c : C) (weak : Bool) : List (Output C) × System C :=
  match s.calls c with
  | .loading =>
    ([.loaded c s.resyncState], s.goto c (if latched s.resyncState then .gap else .sending s.resyncState))
  | .gap => s.sendReturns c (if s.isClosed then .closed else .full)
  | .sending admissionEpoch =>
    if s.isClosed then s.sendReturns c .closed
    else if s.queue.length < s.capacity then (s.enqueue ⟨admissionEpoch, c⟩).sendReturns c .ok
    else ([], s.goto c (.resyncing .trySend))
  | .resyncing caller => s.latchLoop c caller
  | .latching caller observed =>
    if s.resyncState = observed ∧ !weak then
      ([], (s.setState (wrappingSucc observed)).goto c (.notifying caller))
    else s.latchLoop c caller
  | .notifying caller => (s.setPermit true).resyncReturns c caller
  | .rechecking => ([], s.goto c (.returned (some (if s.isClosed then .closed else .ok))))
  | .idle | .returned _ => ([], s)

end

end Calls

/-- Where the relay goes once a barrier is out: on to what it received, or to
the top of its loop. -/
def afterBarrier : Option (EpochRuntimeEvent C) → RelayPoint C
  | none => .claiming none
  | some queued => .deciding queued

/-- The head of the loop of `claim_external_resync`, with the state it just
read. -/
def claimLoop (s : System C) (held : Option (EpochRuntimeEvent C)) : RelayPoint C :=
  if latched s.resyncState then .swapping held s.resyncState
  else match held with
    | none => .selecting
    | some queued => .deciding queued

/-- The next instruction of `relay_external_events`, outside its `select!`.
`accepted` answers for the coordinator: that the generation is the expected
one, that the publication is not refused. -/
def stepRelay (s : System C) (weak accepted : Bool) : List (Output C) × System C :=
  match s.relay with
  | .starting => ([], if accepted then { s with relay := .claiming none } else s.exit true)
  | .claiming held => ([], { s with relay := s.claimLoop held })
  | .swapping held observed =>
    if s.resyncState = observed ∧ !weak then
      ([.claimed (wrappingSucc observed)],
        { s with resyncState := wrappingSucc observed, relay := .publishing held (wrappingSucc observed) })
    else ([], { s with relay := s.claimLoop held })
  | .publishing held claimedEpoch =>
    match s.publishRuntimeEvent accepted with
    | .published =>
      ([.barrier claimedEpoch], { s with publishedEpoch := claimedEpoch, relay := afterBarrier held })
    | .discarded => ([], { s with publishedEpoch := claimedEpoch, relay := afterBarrier held })
    | .failed => ([], s.exit true)
  | .deciding queued =>
    match eventAfterExternalBarrier queued s.publishedEpoch with
    | none => ([], { s with relay := .claiming none })
    | some event =>
      match s.publishRuntimeEvent accepted with
      | .published => ([.event event], { s with relay := .claiming none })
      | .discarded => ([], { s with relay := .claiming none })
      | .failed => ([], s.exit true)
  | .selecting | .exited _ => ([], s)

end System

/-- The branches of the relay's `select!`. `hungUp` is `recv` answering
`None`: every sender is gone and the queue is empty. -/
inductive SelectBranch
  | cancelled
  | notified
  | recv
  | hungUp

namespace System

/-- A branch of the `select!` is ready and taken. -/
def select (s : System C) (branch : SelectBranch) : System C :=
  match s.relay, branch with
  | .selecting, .cancelled => if s.cancelled then s.exit false else s
  | .selecting, .notified => if s.permit then { s with permit := false, relay := .claiming none } else s
  | .selecting, .recv =>
    match s.queue with
    | [] => s
    | queued :: queue => { s with queue, relay := .claiming (some queued) }
  | .selecting, .hungUp => if s.queue.isEmpty then s.exit false else s
  | _, _ => s

end System

/-- Who moves next. -/
inductive Action (C : Type)
  | trySend (call : C)
  | requireResync (call : C)
  | tryRequireResync (call : C)
  | call (call : C) (weak : Bool)
  | relay (weak accepted : Bool)
  | select (branch : SelectBranch)
  /-- The relay's cancellation token fires. -/
  | cancel
  /-- The coordinator stops. -/
  | close

/-- One step of any party. -/
def step [DecidableEq C] (s : System C) : Action C → List (Output C) × System C
  | .trySend c => s.startTrySend c
  | .requireResync c => s.startRequireResync c
  | .tryRequireResync c => s.startTryRequireResync c
  | .call c weak => s.stepCall c weak
  | .relay weak accepted => s.stepRelay weak accepted
  | .select branch => ([], s.select branch)
  | .cancel => ([], { s with cancelled := true })
  | .close => ([], { s with coordinatorClosed := true })

end Xenoteer.ExternalEvents
