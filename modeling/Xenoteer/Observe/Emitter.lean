/-
The event lane of the observation actor (`ActorEventEmitter` of
`xenoteer-x11/src/observe/actor.rs`): a bounded channel to the model and the two
latches by which events that did not fit are replaced.

A call of the emitter stops at each `try_send`, between which the model takes
records out. `Lane.step` is the interleaving. The channel keeps what was taken
out of it, and each record keeps how many offers had begun when it was sent.
-/
import Xenoteer.Lib.Dialogue
import Xenoteer.Lib.Run
import Xenoteer.Observe.Events

namespace Xenoteer.Observe

open Lib

/-! ## The emitter -/

structure Emitter where
  resyncLatched : Bool
  lastRootRegion : Option RootDamageRect
  fullDamageLatched : Bool

namespace Emitter

def new : Emitter := ⟨false, none, false⟩

def hasPendingBarrier (e : Emitter) : Bool := e.resyncLatched || e.fullDamageLatched

def latchResync (e : Emitter) : Emitter :=
  { e with
    resyncLatched := true
    fullDamageLatched := if e.lastRootRegion.isSome then true else e.fullDamageLatched }

/-- An offered batch tells the root region. -/
def note (e : Emitter) (event : ObservationActorEvent) : Emitter :=
  match event.rootRegion with
  | some region => { e with lastRootRegion := some region }
  | none => e

end Emitter

/-- What `try_send` is called with: the latched `ResyncRequired`, the marker behind it, or
the offered event. -/
inductive Message where
  | resync
  | marker (region : RootDamageRect)
  | offered (event : ObservationActorEvent)

def Message.event : Message → ObservationActorEvent
  | .resync => .resyncRequired
  | .marker region => .rootDamaged ⟨region, [region], .fullScreen, 1⟩
  | .offered event => event

inductive SendResult where
  | ok
  | full
  | disconnected

abbrev Emit := Talk Emitter Message fun _ => SendResult

def trySend (message : Message) : Emit SendResult := Talk.ask message

def resolveMarker : SendResult → Emit Unit
  | .ok | .disconnected => Talk.update fun e => { e with fullDamageLatched := false }
  | .full => pure ()

/-- `flush_resync` once no `ResyncRequired` is latched. -/
def flushMarker : Emit Unit := do
  let e ← Talk.read
  if e.fullDamageLatched then
    match e.lastRootRegion with
    | none => Talk.update fun e => { e with fullDamageLatched := false }
    | some region => trySend (.marker region) >>= resolveMarker
  else pure ()

def resolveResync : SendResult → Emit Unit
  | .ok => do
    Talk.update fun e => { e with resyncLatched := false }
    flushMarker
  | .disconnected => Talk.update fun e => { e with resyncLatched := false, fullDamageLatched := false }
  | .full => pure ()

def flushResync : Emit Unit := do
  let e ← Talk.read
  if e.resyncLatched then trySend .resync >>= resolveResync else flushMarker

def resolveEvent : SendResult → Emit Unit
  | .ok | .disconnected => pure ()
  | .full => Talk.update Emitter.latchResync

/-- `offer` behind its `flush_resync`. -/
def finishOffer (event : ObservationActorEvent) : Emit Unit := do
  let e ← Talk.read
  if e.resyncLatched || e.fullDamageLatched then
    if e.resyncLatched then Talk.update Emitter.latchResync else pure ()
  else trySend (.offered event) >>= resolveEvent

/-- A use of the emitter by the actor; `barrier` is the end of `finish_snapshot_barrier`. -/
inductive Call where
  | offer (event : ObservationActorEvent)
  | flush
  | barrier (reachedEmpty : Bool)

namespace Call

def event : Call → Option ObservationActorEvent
  | .offer event => some event
  | _ => none

/-- The offers begun by a call. -/
def weight (c : Call) : Nat := if c.event.isSome then 1 else 0

/-- What a call does before it flushes. -/
def opening : Call → Emitter → Emitter
  | .offer event, e => e.note event
  | _, e => e

/-- What a call does after it flushed, with the `stable` a barrier answers. -/
def rest : Call → Emit (Option Bool)
  | .offer event => do
    finishOffer event
    pure none
  | .flush => pure none
  | .barrier reachedEmpty => do
    let e ← Talk.read
    pure (some (reachedEmpty && !e.hasPendingBarrier))

def program (c : Call) : Emit (Option Bool) := do
  Talk.update c.opening
  flushResync
  c.rest

end Call

/-! ## The channel -/

structure Record where
  message : Message
  /-- The offers begun when it was sent. -/
  offers : Nat

structure Offer where
  event : ObservationActorEvent
  /-- The records taken out of the channel when it began. -/
  dequeued : Nat

structure Traffic where
  dequeued : List Record
  queue : List Record
  offers : List Offer
  begun : List Call

namespace Traffic

def empty : Traffic := ⟨[], [], [], []⟩

/-- Every record sent, in order. -/
def sent (t : Traffic) : List Record := t.dequeued ++ t.queue

def begin (t : Traffic) (c : Call) : Traffic :=
  { t with
    offers := t.offers ++ (c.event.map fun event => ⟨event, t.dequeued.length⟩).toList
    begun := t.begun ++ [c] }

def send (t : Traffic) (message : Message) : Traffic :=
  { t with queue := t.queue ++ [⟨message, t.offers.length⟩] }

def dequeue (t : Traffic) : Traffic :=
  match t.queue with
  | [] => t
  | record :: queue => { t with dequeued := t.dequeued ++ [record], queue := queue }

/-- The root region offered last among the first `n` offers. -/
def latestRoot (t : Traffic) (n : Nat) : Option RootDamageRect :=
  ((t.offers.take n).filterMap (·.event.rootRegion)).getLast?

end Traffic

abbrev Calling := Dialogue Emitter Message (fun _ => SendResult) (Option Bool)

inductive Activity where
  | idle (emitter : Emitter)
  | calling (call : Call) (rest : Calling)

structure Lane where
  traffic : Traffic
  activity : Activity

inductive LaneAction where
  | start (call : Call)
  | send
  | dequeue

namespace Lane

def new : Lane := ⟨Traffic.empty, .idle .new⟩

/-- A call that returned leaves the emitter idle. -/
def settle (t : Traffic) (c : Call) : Calling → Option Bool × Lane
  | .done e answer => (answer, ⟨t, .idle e⟩)
  | .fault e => (none, ⟨t, .idle e⟩)
  | .ask e q next => (none, ⟨t, .calling c (.ask e q next)⟩)

/-- One step, with the `stable` of a barrier that is answered by it. -/
def step (capacity : Nat) (s : Lane) : LaneAction → Option Bool × Lane
  | .start c =>
    match s.activity with
    | .idle e => settle (s.traffic.begin c) c (c.program.start e)
    | .calling .. => (none, s)
  | .send =>
    match s.activity with
    | .calling c (.ask _ message next) =>
      if s.traffic.queue.length < capacity then settle (s.traffic.send message) c (next .ok)
      else settle s.traffic c (next .full)
    | _ => (none, s)
  | .dequeue => (none, { s with traffic := s.traffic.dequeue })

end Lane

end Xenoteer.Observe
