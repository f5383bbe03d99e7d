/-
The turns of the observation actor (`run_actor`, `process_event` and
`finish_snapshot_barrier` of `xenoteer-x11/src/observe/actor.rs`), as the calls
of the emitter they make.

What the backend answers and the clock are inputs. The polls of a turn are those
that found an event or failed; the end of their list is the empty queue, at
which the drain stops. Requests other than the snapshot barrier do not touch the
emitter, and neither does the shutdown that ends the turns.
-/
import Xenoteer.Observe.Emitter

namespace Xenoteer.Observe

def maxEventsPerTurn : Nat := 64

structure ObservationBackendFault where
  kind : ObservationActorFailureKind
  terminal : Bool

structure Poll where
  answer : Except ObservationBackendFault PollThreadEvent
  /-- What `observe_window` answers, should the event ask for it. -/
  observe : Except ObservationBackendFault Unit
  now : Instant

inductive Request where
  | snapshotBarrier (snapshot : Except ObservationBackendFault Unit) (polls : List Poll) (now : Instant)
  /-- A snapshot, a reconciliation or a health check. -/
  | plain (result : Except ObservationBackendFault Unit)

structure Turn where
  polls : List Poll
  now : Instant
  request : Option Request

/-- What a turn does at the emitter: the events of a poll, or a call. -/
inductive Act where
  | polled (poll : Poll) (events : List ObservationActorEvent)
  | call (call : Call)

def Act.calls : Act → List Call
  | .polled _ events => events.map .offer
  | .call c => [c]

/-- What the actor is set up with. -/
structure Desk where
  root : Window
  atoms : KnownAtoms

namespace Desk

variable (desk : Desk)

/-- The events offered, and the failure that poisons the actor. -/
def processEvent (event : PollThreadEvent) (observe : Except ObservationBackendFault Unit) :
    List ObservationActorEvent × Option ObservationActorFailureKind :=
  if event = .resyncRequired then ([.resyncRequired], none)
  else
    let decision := classifyReconcile event desk.root desk.atoms
    match decision, observe with
    | .observeWindow _, .error fault =>
      if fault.terminal then ([], some fault.kind) else ([.failed fault.kind, .resyncRequired], none)
    | .ignore, _ => ([], none)
    | .connectionFailed, _ => ([], some .backendUnavailable)
    | decision, _ => ([.reconcile decision], none)

inductive DrainEnd where
  | empty
  | cut
  | poisoned (kind : ObservationActorFailureKind)
deriving DecidableEq

/-- At most `budget` polls. -/
def drain : Nat → List Poll → DamageAccumulator → List Act × DamageAccumulator × DrainEnd
  | 0, _, damage => ([], damage, .cut)
  | _ + 1, [], damage => ([], damage, .empty)
  | budget + 1, poll :: polls, damage =>
    match poll.answer with
    | .error fault =>
      if fault.terminal then ([.polled poll []], damage, .poisoned fault.kind)
      else ([.polled poll [.failed fault.kind]], damage, .cut)
    | .ok (.rootDamage hint) =>
      let (acts, damage, ending) := drain budget polls (damage.offer hint poll.now)
      (.polled poll [] :: acts, damage, ending)
    | .ok event =>
      match desk.processEvent event poll.observe with
      | (events, some kind) => ([.polled poll events], damage, .poisoned kind)
      | (events, none) =>
        let (acts, damage, ending) := drain budget polls damage
        (.polled poll events :: acts, damage, ending)

def offerDue (damage : DamageAccumulator) (now : Instant) : List Act × DamageAccumulator :=
  match damage.takeDue now with
  | (some batch, damage) => ([.call (.offer (.rootDamaged batch))], damage)
  | (none, damage) => ([], damage)

/-- `poison`: no damage is kept by an actor that stopped. -/
def poison (acts : List Act) (kind : ObservationActorFailureKind) : List Act × Option DamageAccumulator :=
  (acts ++ [.call (.offer (.failed kind))], none)

def finishSnapshotBarrier (polls : List Poll) (now : Instant) (damage : DamageAccumulator) :
    List Act × Option DamageAccumulator :=
  match desk.drain maxEventsPerTurn polls damage with
  | (acts, _, .poisoned kind) => poison acts kind
  | (acts, damage, ending) =>
    let (due, damage) := offerDue damage now
    (acts ++ due ++ [.call (.barrier (ending = .empty))], some damage)

def processRequest (request : Request) (damage : DamageAccumulator) : List Act × Option DamageAccumulator :=
  match request with
  | .plain (.error fault) => if fault.terminal then poison [] fault.kind else ([], some damage)
  | .plain (.ok ()) => ([], some damage)
  | .snapshotBarrier (.error fault) polls now =>
    if fault.terminal then poison [] fault.kind else desk.finishSnapshotBarrier polls now damage
  | .snapshotBarrier (.ok ()) polls now => desk.finishSnapshotBarrier polls now damage

/-- One turn; the damage left is none when the actor stopped. -/
def turn (turn : Turn) (damage : DamageAccumulator) : List Act × Option DamageAccumulator :=
  match desk.drain maxEventsPerTurn turn.polls damage with
  | (acts, _, .poisoned kind) => poison acts kind
  | (acts, damage, _) =>
    let (due, damage) := offerDue damage turn.now
    let acts := acts ++ due ++ [.call .flush]
    match turn.request with
    | none => (acts, some damage)
    | some request =>
      let (more, damage) := desk.processRequest request damage
      (acts ++ more, damage)

/-- The whole of `run_actor`. -/
def runActor : List Turn → DamageAccumulator → List Act
  | [], _ => []
  | t :: turns, damage =>
    match desk.turn t damage with
    | (acts, some damage) => acts ++ runActor turns damage
    | (acts, none) => acts

end Desk

end Xenoteer.Observe
