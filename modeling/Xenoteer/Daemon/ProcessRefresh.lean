/-
The refresh of process correlations (`refresh_process_correlations` and the
structures around it in `observation_plane.rs`): any number of callers, one of
which leads while the others follow or use the cached result, the authority
that the process-event relay switches, and the model owner that serves
requests one at a time.

A caller stops wherever it touches what others share: an atomic, the
coordinator's lock, a channel, a notification. `Plane.perform` is one step of
the interleaving. The authority and the two sequences are counters of 64 bits
and wrap.

Three fields are history. `clock` counts the steps, and a captured authority
remembers when it was captured. `stamps` keeps, for each window whose assignment
was committed, the authority its refresh had captured before it asked the broker;
`cleared` is the highest authority at which an invalidation was requested that
has been committed since.
-/
import Xenoteer.Accessibility.Correlation
import Xenoteer.Daemon.WindowReplayRuns

namespace Xenoteer.ProcessRefresh

open Lib

/-! ## Authority -/

/-- `ProcessLifecycleAuthorityFence::available`, of the captured value. -/
def available (authority : Nat) : Bool := authority % 2 = 1

def transition (authority : Nat) (disable : Bool) : Nat :=
  if !available authority = disable then authority else (authority + 1) % 2 ^ 64

structure ProcessLifecycleAuthorityFence where
  value : Nat
  capturedAt : Nat
deriving DecidableEq

def accepts (authority : Nat) (fence : ProcessLifecycleAuthorityFence) : Bool :=
  available fence.value && authority = fence.value

structure ProcessCorrelationFence where
  revision : WindowModelRevision
  lifecycleAuthority : ProcessLifecycleAuthorityFence

structure ProcessCorrelationCommit where
  fence : ProcessCorrelationFence
  changeSequence : Nat

/-! ## Requests to the model owner -/

structure CorrelationSnapshot where
  revision : WindowModelRevision
  correlationEpoch : Nat
  windows : List WindowSnapshot

/-- Some window of the snapshot is not one of this model, as it is now. -/
def CorrelationSnapshot.suspicious (s : CorrelationSnapshot) (desktopGeneration : DesktopGeneration) : Bool :=
  s.windows.any fun window => window.window.desktopGeneration ≠ desktopGeneration ||
    window.modelRevision ≠ s.revision || !window.validate.isOk

abbrev Upgrades := Nat → Option ModelState.ProcessCorrelationUpgrade

def CorrelationSnapshot.assignments (s : CorrelationSnapshot) (upgrades : Upgrades) :
    List ModelState.ProcessCorrelationAssignment :=
  s.windows.map fun window =>
    ⟨window.window, window.process.reportedPid, window.process.reportedPid.bind upgrades⟩

inductive Request where
  | processCorrelationSnapshot
  | replaceProcessCorrelations (expectedRevision : WindowModelRevision) (expectedCorrelationEpoch : Nat)
      (expectedGeneration : DesktopGeneration) (expectedLifecycleAuthority : ProcessLifecycleAuthorityFence)
      (assignments : List ModelState.ProcessCorrelationAssignment)
  /-- With the authority at which it was requested. -/
  | invalidateProcessCorrelations (requestedAt : Nat)
  /-- A list, a snapshot, a query or a resolution. -/
  | read
  | wait

/-- The windows of an answer, each with its stamp, and the number of steps before it was read. -/
structure View where
  revision : WindowModelRevision
  windows : List (WindowSnapshot × ProcessLifecycleAuthorityFence)
  readAt : Nat

inductive Reply where
  | snapshot (snapshot : CorrelationSnapshot)
  | commit (commit : ProcessCorrelationCommit)
  | fence (fence : ProcessCorrelationFence)
  | view (view : View)
  | failed (error : ControlPlaneError)

/-- What `try_send` into the owner's channel does. -/
inductive TrySend where
  | sent
  | full
  | disconnected

/-- What the owner is at, between the points where it reads the authority. -/
inductive Work where
  | idle
  | replacing (ticket : Nat) (expectedRevision : WindowModelRevision) (expectedCorrelationEpoch : Nat)
      (expectedGeneration : DesktopGeneration) (authority : ProcessLifecycleAuthorityFence)
      (assignments : List ModelState.ProcessCorrelationAssignment)
  | replaced (ticket : Nat) (authority : ProcessLifecycleAuthorityFence)
      (result : Except ControlPlaneError WindowModelRevision)
  | invalidated (ticket : Nat) (result : Except ControlPlaneError WindowModelRevision)

/-! ## Callers -/

abbrev RefreshResult := Except ControlPlaneError ProcessCorrelationFence

/-- `ProcessCorrelationRefreshState`. -/
structure Coordinator where
  inFlight : Bool
  completionSequence : Nat
  completionChangeSequence : Nat
  lastResult : RefreshResult
  refreshedChangeSequence : Option Nat

def Coordinator.new : Coordinator := ⟨false, 0, 0, .error .capabilityUnavailable, none⟩

/-- The locked part of `complete`. -/
def Coordinator.complete (k : Coordinator) (result : RefreshResult) (refreshedChangeSequence : Nat) :
    Coordinator where
  inFlight := false
  completionSequence := (k.completionSequence + 1) % 2 ^ 64
  completionChangeSequence := refreshedChangeSequence
  lastResult := result
  refreshedChangeSequence := if result.isOk then some refreshedChangeSequence else none

/-- Where a call of `refresh_process_correlations` is, named for what it does next. -/
inductive Phase where
  | idle
  | top
  | subscribing (changeSequence : Nat)
  | selecting (changeSequence since : Nat)
  /- the cached branch -/
  | cachedSequence (changeSequence : Nat) (result : RefreshResult)
  | cachedFence (fence : ProcessCorrelationFence)
  /- the leader, in `perform_process_correlation_refresh` -/
  | capturing (changeSequence : Nat)
  | snapshotting (changeSequence : Nat) (authority : ProcessLifecycleAuthorityFence) (ticket : Nat)
  | correlating (changeSequence : Nat) (authority : ProcessLifecycleAuthorityFence) (snapshot : CorrelationSnapshot)
  | replacing (changeSequence ticket : Nat)
  | invalidating (changeSequence ticket : Nat)
  /- the leader, behind it -/
  | judging (commit : ProcessCorrelationCommit)
  | resampling (error : ControlPlaneError)
  | completing (result : RefreshResult) (changeSequence : Nat) (kept : Bool)
  | notifying (result : RefreshResult) (kept : Bool)
  /- a follower -/
  | following (observedSequence since : Nat)
  | woken (observedSequence : Nat)
  | comparing (result : RefreshResult) (completionChangeSequence : Nat)
  | returned (result : RefreshResult)
  | dropped

/-- The call waits for another task. -/
def Phase.droppable : Phase → Bool
  | .snapshotting .. | .correlating .. | .replacing .. | .invalidating .. | .following .. => true
  | _ => false

/-! ## The plane -/

variable {ι : Type} [DecidableEq ι]

structure Plane (ι : Type) where
  authority : Nat
  owner : ModelState
  work : Work
  queue : List (Nat × Request)
  waiters : List Nat
  replies : Nat → Option Reply
  nextTicket : Nat
  coordinator : Coordinator
  /-- How often the coordinator's waiters were notified. -/
  notifications : Nat
  callers : ι → Phase
  clock : Nat
  cleared : Nat
  stamps : WindowRef → ProcessLifecycleAuthorityFence

namespace Plane

def new (owner : ModelState) : Plane ι where
  authority := 0
  owner := owner
  work := .idle
  queue := []
  waiters := []
  replies := fun _ => none
  nextTicket := 0
  coordinator := .new
  notifications := 0
  callers := fun _ => .idle
  clock := 0
  cleared := 0
  stamps := fun _ => ⟨0, 0⟩

section

variable (p : Plane ι)

/-- `model_changed.sequence()`. -/
def sequence : Nat := p.owner.published

/-- `process_lifecycle_authority.capture()`. -/
def capture : ProcessLifecycleAuthorityFence := ⟨p.authority, p.clock⟩

def goto (c : ι) (phase : Phase) : Plane ι := { p with callers := Function.update p.callers c phase }

def reply (ticket : Nat) (r : Reply) : Plane ι :=
  { p with replies := Function.update p.replies ticket (some r) }

def submit (request : Request) : Plane ι :=
  { p with queue := p.queue ++ [(p.nextTicket, request)], nextTicket := p.nextTicket + 1 }

/-- `submit`, going on with the ticket or with the error. -/
def submitFrom (c : ι) (request : Request) (send : TrySend) (next : Nat → Phase) : Plane ι :=
  match send with
  | .sent => (p.submit request).goto c (next p.nextTicket)
  | .full => p.goto c (.resampling .resourceExhausted)
  | .disconnected => p.goto c (.resampling .capabilityUnavailable)

def invalidateFrom (c : ι) (changeSequence : Nat) (send : TrySend) : Plane ι :=
  p.submitFrom c (.invalidateProcessCorrelations p.authority) send (.invalidating changeSequence)

/-- One step of a caller. `broker` is what the broker answers if it is asked now. -/
def go (c : ι) (send : TrySend) (broker : Option Upgrades) : Plane ι :=
  match p.callers c with
  | .idle | .returned _ | .dropped => p
  | .top => p.goto c (.subscribing p.sequence)
  | .subscribing changeSequence => p.goto c (.selecting changeSequence p.notifications)
  | .selecting changeSequence since =>
    if p.coordinator.refreshedChangeSequence = some changeSequence then
      p.goto c (.cachedSequence changeSequence p.coordinator.lastResult)
    else if p.coordinator.inFlight then p.goto c (.following p.coordinator.completionSequence since)
    else { p with coordinator := { p.coordinator with inFlight := true } }.goto c (.capturing changeSequence)
  | .cachedSequence changeSequence result =>
    if p.sequence = changeSequence then
      match result with
      | .ok fence => p.goto c (.cachedFence fence)
      | .error _ => p.goto c .top
    else p.goto c .top
  | .cachedFence fence =>
    if accepts p.authority fence.lifecycleAuthority then p.goto c (.returned (.ok fence)) else p.goto c .top
  | .capturing changeSequence =>
    if available p.authority then
      p.submitFrom c .processCorrelationSnapshot send (.snapshotting changeSequence p.capture)
    else p.invalidateFrom c changeSequence send
  | .snapshotting changeSequence authority ticket =>
    match p.replies ticket with
    | some (.snapshot snapshot) =>
      if snapshot.suspicious p.owner.model.desktopGeneration then p.invalidateFrom c changeSequence send
      else p.goto c (.correlating changeSequence authority snapshot)
    | some (.failed error) => p.goto c (.resampling error)
    | _ => p
  | .correlating changeSequence authority snapshot =>
    match broker with
    | none => p.invalidateFrom c changeSequence send
    | some upgrades => p.submitFrom c (.replaceProcessCorrelations snapshot.revision snapshot.correlationEpoch
        p.owner.model.desktopGeneration authority (snapshot.assignments upgrades)) send (.replacing changeSequence)
  | .replacing _ ticket =>
    match p.replies ticket with
    | some (.commit commit) => p.goto c (.judging commit)
    | some (.failed error) => p.goto c (.resampling error)
    | _ => p
  | .invalidating _ ticket =>
    match p.replies ticket with
    | some (.fence _) => p.goto c (.resampling .capabilityUnavailable)
    | some (.failed error) => p.goto c (.resampling error)
    | _ => p
  | .judging commit =>
    if p.sequence = commit.changeSequence then
      p.goto c (.completing (.ok commit.fence) commit.changeSequence true)
    else p.goto c (.resampling p.owner.stale)
  | .resampling error => p.goto c (.completing (.error error) p.sequence true)
  | .completing result changeSequence kept =>
    { p with coordinator := p.coordinator.complete result changeSequence }.goto c (.notifying result kept)
  | .notifying result kept =>
    { p with notifications := p.notifications + 1 }.goto c (if kept then .returned result else .dropped)
  | .following observedSequence since => if since < p.notifications then p.goto c (.woken observedSequence) else p
  | .woken observedSequence =>
    if p.coordinator.completionSequence ≠ observedSequence then
      p.goto c (.comparing p.coordinator.lastResult p.coordinator.completionChangeSequence)
    else p.goto c .top
  | .comparing result completionChangeSequence =>
    if p.sequence = completionChangeSequence then p.goto c (.returned result) else p.goto c .top

/-- The future of a call is dropped where it waits; a leader then completes in `Drop`. -/
def drop (c : ι) : Plane ι :=
  match p.callers c with
  | .snapshotting changeSequence _ _ | .correlating changeSequence _ _ | .replacing changeSequence _
  | .invalidating changeSequence _ =>
    p.goto c (.completing (.error .capabilityUnavailable) changeSequence false)
  | .following _ _ => p.goto c .dropped
  | _ => p

/-! ## The owner -/

/-- What comes of a program over the model. -/
def outcome {ε α : Type} (unwound : ε) : Exit ε α → Except ε α
  | .ok a => .ok a
  | .error e => .error e
  | .unwound => .error unwound

def correlationSnapshot (now : MonotonicMillis) : Prog ModelState ControlPlaneError CorrelationSnapshot := do
  let (revision, windows) ← ModelState.asked (ModelState.call (·.snapshotAll now))
  Prog.failIf (maxAccessibilityCorrelationCandidates < windows.length) .resourceExhausted
  pure ⟨revision, (← Prog.read).correlationEpoch, windows⟩

/-- What a read or a wait is answered: the windows of the model it keeps, or an error. -/
inductive Answer where
  | windows (keep : WindowSnapshot → Bool)
  | error (error : ControlPlaneError)

def view (keep : WindowSnapshot → Bool) (revision : WindowModelRevision)
    (windows : List WindowSnapshot) : View where
  revision := revision
  windows := (windows.filter keep).map fun window => (window, p.stamps window.window)
  readAt := p.clock

def answer (now : MonotonicMillis) (ticket : Nat) : Answer → Plane ι
  | .windows keep =>
    let (exit, owner) := (ModelState.asked (ModelState.call (·.snapshotAll now))).run p.owner
    match outcome .internal exit with
    | .ok (revision, windows) => { p with owner := owner }.reply ticket (.view (p.view keep revision windows))
    | .error error => { p with owner := owner }.reply ticket (.failed error)
  | .error error => p.reply ticket (.failed error)

/-- The process of a window that is live under exactly this reference. -/
def processOf (m : WindowModel) (window : WindowRef) : Option WindowProcessCorrelation :=
  (m.live[window.xid]?.filter fun entry => entry.snapshot.window = window).map (·.snapshot.process)

/-- The stamps after a replacement: it assigned the windows it stored, and all when it returned. -/
def restamp (owner : ModelState) (authority : ProcessLifecycleAuthorityFence) (returned : Bool)
    (window : WindowRef) : ProcessLifecycleAuthorityFence :=
  if returned || processOf owner.model window ≠ processOf p.owner.model window then authority else p.stamps window

section

variable (host : ModelHost)

/-- The first part of serving a request: up to where it reads the authority again. -/
def serveRequest (now : MonotonicMillis) (reads : Answer) (ticket : Nat) : Request → Plane ι
  | .processCorrelationSnapshot =>
    let (exit, owner) := (correlationSnapshot now).run p.owner
    match outcome .internal exit with
    | .ok snapshot => { p with owner := owner }.reply ticket (.snapshot snapshot)
    | .error error => { p with owner := owner }.reply ticket (.failed error)
  | .replaceProcessCorrelations expectedRevision expectedCorrelationEpoch expectedGeneration authority assignments =>
    if accepts p.authority authority then
      { p with
        work := .replacing ticket expectedRevision expectedCorrelationEpoch expectedGeneration authority assignments }
    else p.reply ticket (.failed .capabilityUnavailable)
  | .invalidateProcessCorrelations requestedAt =>
    let (exit, owner) := (ModelState.invalidateProcessCorrelations host now).run p.owner
    let result := outcome .internal exit
    { p with
      owner := owner
      work := .invalidated ticket result
      cleared := if result.isOk then max p.cleared requestedAt else p.cleared }
  | .read => p.answer now ticket reads
  | .wait => { p with waiters := p.waiters ++ [ticket] }

def serve (now : MonotonicMillis) (reads : Answer) : Plane ι :=
  match p.work, p.queue with
  | .idle, (ticket, request) :: queue => { p with queue := queue }.serveRequest host now reads ticket request
  | _, _ => p

/-- The owner goes on with what it is at. -/
def proceed (now : MonotonicMillis) : Plane ι :=
  match p.work with
  | .idle => p
  | .replacing ticket expectedRevision expectedCorrelationEpoch expectedGeneration authority assignments =>
    let (exit, owner) := (ModelState.replaceProcessCorrelations host expectedRevision expectedCorrelationEpoch
      expectedGeneration assignments now).run p.owner
    let result := outcome .internal exit
    { p with
      owner := owner
      work := .replaced ticket authority result
      stamps := p.restamp owner authority result.isOk }
  | .replaced ticket _ result =>
    match result with
    | .ok revision =>
      { p with work := .idle }.reply ticket (.commit ⟨⟨revision, p.capture⟩, p.sequence⟩)
    | .error error => { p with work := .idle }.reply ticket (.failed error)
  | .invalidated ticket result =>
    match result with
    | .ok revision => { p with work := .idle }.reply ticket (.fence ⟨revision, p.capture⟩)
    | .error error => { p with work := .idle }.reply ticket (.failed error)

/-- A wait is answered from the model as it is. -/
def settle (now : MonotonicMillis) (ticket : Nat) (waits : Answer) : Plane ι :=
  match p.work with
  | .idle => if ticket ∈ p.waiters then { p with waiters := p.waiters.erase ticket }.answer now ticket waits else p
  | _ => p

/-- The operations of the owner that are not requests of this plane. -/
def isUpkeep : ModelOp → Bool
  | .replaceProcessCorrelations .. | .invalidateProcessCorrelations .. => false
  | _ => true

/-- The owner changes the model by itself. It publishes once for what it did since it was idle, so
after the last of its operations, if at all. -/
def change (op : ModelOp) (published : Bool) : Plane ι :=
  match p.work with
  | .idle =>
    let owner := (p.owner.step host op).2
    { p with owner := if published then owner.publish else owner }
  | _ => p

/-- The first request is answered without being served, as when the owner stops. -/
def refuse : Plane ι :=
  match p.queue with
  | [] => p
  | (ticket, _) :: queue => { p with queue := queue }.reply ticket (.failed .capabilityUnavailable)

/-! ## Interleavings -/

inductive Act (ι : Type) where
  | call (c : ι)
  | go (c : ι) (send : TrySend) (broker : Option Upgrades)
  | drop (c : ι)
  | disable
  | enable
  /-- The relay, or an operation, asks for an invalidation. -/
  | invalidate
  | serve (now : MonotonicMillis) (reads : Answer)
  | proceed (now : MonotonicMillis)
  | settle (now : MonotonicMillis) (ticket : Nat) (waits : Answer)
  | change (op : ModelOp) (published : Bool)
  | refuse

def perform (p : Plane ι) : Act ι → Plane ι
  | .call c =>
    match p.callers c with
    | .idle => p.goto c .top
    | _ => p
  | .go c send broker => p.go c send broker
  | .drop c => p.drop c
  | .disable => { p with authority := transition p.authority true }
  | .enable => { p with authority := transition p.authority false }
  | .invalidate => p.submit (.invalidateProcessCorrelations p.authority)
  | .serve now reads => p.serve host now reads
  | .proceed now => p.proceed host now
  | .settle now ticket waits => p.settle now ticket waits
  | .change op published => if isUpkeep op then p.change host op published else p
  | .refuse => p.refuse

end

def tick : Plane ι := { p with clock := p.clock + 1 }

end

end Plane

end Xenoteer.ProcessRefresh
