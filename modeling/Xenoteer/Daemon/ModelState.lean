/-
The window model as the daemon's observation actor owns it (`ModelState` of
`observation_plane.rs`): raw observations are reconciled into it, processes and
accessible applications are correlated with its windows, and each committed
change is told to subscribers.

An operation is a program over the state that may stop with an error; what it
did before stays done. `published` counts the calls of `publish_model_change`, modulo 2^64.
The tokens and the stacking epoch are left out: the operations here do not touch
them.
-/
import Xenoteer.Daemon.CommandResults
import Xenoteer.Daemon.RawObservation
import Xenoteer.Daemon.WindowEvents
import Xenoteer.Lib.Prog

namespace Xenoteer

open Lib

/-- What the actor is set up with. -/
structure ModelHost where
  digest : IdentityDigest
  fits : MetadataFits

structure ModelState where
  maxLiveWindows : Nat
  model : WindowModel
  correlationEpoch : Nat
  processCorrelationAvailable : Bool
  rawResyncPending : Bool
  notices : List Notice
  published : Nat

inductive ReconcileIdentityPolicy where
  | preserveContinuity
  | invalidateAll
deriving DecidableEq

def mapModelError : WindowModelError → ControlPlaneError
  | .notFound | .staleReference | .destroyedReference | .alreadyDestroyed => .notFound
  | .wrongDesktopLifetime => .permissionDenied
  | .liveCapacityExhausted => .resourceExhausted
  | .invalidReference _ | .invalidSnapshot _ => .invalidRequest
  | _ => .internal

namespace ModelState

/-- `new_with_event_components`. -/
def new (desktopId : DesktopId) (desktopGeneration : DesktopGeneration) (limits : WindowModelLimits) :
    Except ObservationAdapterError ModelState := do
  let model ← (WindowModel.new desktopId desktopGeneration limits).mapError fun _ => .model
  return ⟨limits.maxLiveWindows, model, 1, false, false, [], 0⟩

def publish (s : ModelState) : ModelState := { s with published := (s.published + 1) % 2 ^ 64 }

def tell (s : ModelState) (notices : List Notice) : ModelState := { s with notices := s.notices ++ notices }

def scope (s : ModelState) (revision : WindowModelRevision) : WindowEventScope :=
  ⟨s.model.desktopId, s.model.desktopGeneration, revision⟩

def call {α : Type} (f : WindowModel → Except WindowModelError α × WindowModel) :
    Prog ModelState WindowModelError α := ⟨fun s =>
  match f s.model with
  | (.ok a, m) => (.ok a, { s with model := m })
  | (.error e, m) => (.error e, { s with model := m })⟩

/-- The raw adapters do not say why a call of the model failed. -/
def adapt {α : Type} (x : Prog ModelState WindowModelError α) : Prog ModelState ObservationAdapterError α :=
  x.mapError fun _ => .model

def require {ε α : Type} : Except ε α → Prog ModelState ε α
  | .ok a => Prog.ret a
  | .error e => Prog.fail e

/-- `advance_correlation_epoch`, with the error of its caller. -/
def advanceCorrelationEpoch {ε : Type} (e : ε) : Prog ModelState ε Unit := do
  let s ← Prog.read
  match checkedAdd s.correlationEpoch 1 with
  | none => Prog.fail e
  | some epoch => Prog.update fun s => { s with correlationEpoch := epoch }

def setAvailable {ε : Type} (available : Bool) : Prog ModelState ε Unit :=
  Prog.update fun s => { s with processCorrelationAvailable := available }

/-- Correlations with other windows than these are void. -/
def voidCorrelations (universeChanged : Bool) : Prog ModelState ObservationAdapterError Unit :=
  Prog.when universeChanged do
    advanceCorrelationEpoch .model
    setAvailable false

/-- The set of windows processes are looked up for changed. -/
def universeChanged (before after : CommittedView) : Bool :=
  before.windows.size ≠ after.windows.size || before.snapshots.any fun previous =>
    match after.windows[previous.window.xid]? with
    | none => true
    | some current => previous.window ≠ current.window || previous.process ≠ current.process

/-! ## Raw observations -/

/-- One reference for each input: the one its XID has, or the next birth. -/
def desiredReferences (host : ModelHost) (m : WindowModel) (policy : ReconcileIdentityPolicy)
    (current : References) :
    List WindowSnapshotInput → Nat → Except ObservationAdapterError (List (WindowSnapshotInput × WindowRef))
  | [], _ => .ok []
  | input :: inputs, nextBirth =>
    match policy, current[input.window]? with
    | .preserveContinuity, some reference => do
      return (input, reference) :: (← desiredReferences host m policy current inputs nextBirth)
    | _, _ => do
      let identityHash ← buildIdentityHash host.digest input m.desktopId m.desktopGeneration nextBirth
      let next ← (checkedAdd nextBirth 1).elim (.error .model) .ok
      let reference : WindowRef := ⟨m.desktopId, m.desktopGeneration, input.window, nextBirth, identityHash⟩
      return (input, reference) :: (← desiredReferences host m policy current inputs next)

def References.of (references : List WindowRef) : References :=
  references.foldl (fun map reference => map.insert reference.xid reference) ∅

/-- The snapshot a reconciliation stores for an input: broker evidence belongs to one birth
and one reported PID. -/
def reconciledSnapshot (before : CommittedView) (revision : WindowModelRevision) (stacking : Option UInt32)
    (references : References) (input : WindowSnapshotInput) (reference : WindowRef) :
    Except ObservationAdapterError WindowSnapshot := do
  let snapshot ← normalizeSnapshot input reference revision stacking references
  let previous := before.same snapshot
  let process := match previous with
    | some previous =>
      if previous.process.reportedPid = snapshot.process.reportedPid then previous.process else snapshot.process
    | none => snapshot.process
  return { snapshot with
    process := process
    hasAccessibilityApplication := previous.any (·.hasAccessibilityApplication) }

/-- `u32::try_from` of the position, for a source that orders its windows. -/
def stackingIndex (source : InventorySource) (index : Nat) : Except ObservationAdapterError (Option UInt32) :=
  if source = .netClientListStacking then
    if index < 2 ^ 32 then .ok (some (UInt32.ofNat index)) else .error .model
  else .ok none

def reconciledSnapshots (before : CommittedView) (revision : WindowModelRevision) (source : InventorySource)
    (references : References) : Nat → List (WindowSnapshotInput × WindowRef) →
    Except ObservationAdapterError (List WindowSnapshot)
  | _, [] => .ok []
  | index, (input, reference) :: rest => do
    let stacking ← stackingIndex source index
    let snapshot ← reconciledSnapshot before revision stacking references input reference
    return snapshot :: (← reconciledSnapshots before revision source references (index + 1) rest)

/-- `observe` of one snapshot, with the snapshot as it is stored. -/
def observe (snapshot : WindowSnapshot) (now : MonotonicMillis) : Prog ModelState WindowModelError WindowSnapshot := do
  match ← call (·.observe snapshot now) with
  | .created snapshot => pure snapshot
  | .updated snapshot => pure snapshot

def observeAll (now : MonotonicMillis) : List WindowSnapshot → Prog ModelState WindowModelError (List WindowSnapshot)
  | [] => pure []
  | snapshot :: snapshots => do
    let stored ← observe snapshot now
    let rest ← observeAll now snapshots
    pure (stored :: rest)

def destroyAll (now : MonotonicMillis) : List WindowRef → Prog ModelState WindowModelError Unit
  | [] => pure ()
  | reference :: references => do
    let _ ← call (·.destroy reference now)
    destroyAll now references

section

variable (host : ModelHost)

def reconcileRawWithEventPolicy (inventory : RootInventory)
    (inputs : List WindowSnapshotInput) (now : MonotonicMillis) (identityPolicy : ReconcileIdentityPolicy)
    (eventPolicy : ReconcileEventPolicy) : Prog ModelState ObservationAdapterError Unit := do
  require (validateInventory inventory inputs)
  Prog.failIf ((← Prog.read).maxLiveWindows < inputs.length) .model
  let (currentRevision, current) ← adapt (call (·.snapshotAll now))
  let before := CommittedView.new currentRevision current
  let currentReferences := References.of (before.snapshots.map (·.window))
  let m := (← Prog.read).model
  let nextBirth ← adapt (require m.nextBirthSerial)
  let desired ← require (desiredReferences host m identityPolicy currentReferences inputs nextBirth)
  let desiredByXid := References.of (desired.map (·.2))
  let normalized ← require (reconciledSnapshots before m.revision inventory.source desiredByXid 0 desired)
  adapt (destroyAll now ((before.snapshots.map (·.window)).filter fun reference =>
    identityPolicy = .invalidateAll || !desiredByXid.contains reference.xid))
  let committed ← adapt (observeAll now normalized)
  let after := CommittedView.new (← Prog.read).model.revision committed
  voidCorrelations (universeChanged before after)
  Prog.update fun s => s.tell (transitionNotices host.fits (s.scope after.revision) before after eventPolicy)

def invalidateForPendingResync (now : MonotonicMillis) : Prog ModelState ObservationAdapterError Unit := do
  Prog.update (·.tell [.resync])
  reconcileRawWithEventPolicy host ⟨[], .queryTreeFallback, []⟩ [] now .invalidateAll (.rebuilt .eventOverflow)
  Prog.update fun s => { s with rawResyncPending := true }

/-- The reference a raw observation is stored under. -/
def rawReference (m : WindowModel) (references : References) (input : WindowSnapshotInput) :
    Except ObservationAdapterError WindowRef :=
  match references[input.window]? with
  | some reference => .ok reference
  | none => do
    let birth ← m.nextBirthSerial.mapError fun _ => .model
    let identityHash ← buildIdentityHash host.digest input m.desktopId m.desktopGeneration birth
    return ⟨m.desktopId, m.desktopGeneration, input.window, birth, identityHash⟩

def processUniverseChanged (previous : Option WindowSnapshot) (raw : WindowSnapshot) : Bool :=
  previous.all fun previous =>
    previous.window ≠ raw.window || previous.process.reportedPid ≠ raw.process.reportedPid

/-- The snapshot a raw observation stores. -/
def refreshedSnapshot (previous : Option WindowSnapshot) (raw : WindowSnapshot) : WindowSnapshot :=
  { raw with
    process := if processUniverseChanged previous raw then raw.process
      else (previous.map (·.process)).getD raw.process
    hasAccessibilityApplication := previous.any (·.hasAccessibilityApplication) }

def observeRaw (input : WindowSnapshotInput) (now : MonotonicMillis) :
    Prog ModelState ObservationAdapterError Unit := do
  require (validateRawInput input)
  let (_, current) ← adapt (call (·.snapshotAll now))
  let previous := current.find? (·.window.xid = input.window)
  let focus := focusProjection current
  let references := References.of (current.map (·.window))
  let m := (← Prog.read).model
  let reference ← require (rawReference host m references input)
  let references := references.insert input.window reference
  let raw ← require (normalizeSnapshot input reference m.revision (previous.bind (·.stackingIndex)) references)
  let snapshot := refreshedSnapshot previous raw
  if previous = some snapshot then pure ()
  else do
    let committed ← adapt (observe snapshot now)
    voidCorrelations (processUniverseChanged previous raw)
    Prog.update fun s => s.tell (observationNotices host.fits (s.scope s.model.revision) focus previous committed)

def removeXid (xid : UInt32) (now : MonotonicMillis) : Prog ModelState ObservationAdapterError Unit := do
  let (_, current) ← adapt (call (·.snapshotAll now))
  match current.find? (·.window.xid = xid) with
  | none => pure ()
  | some previous => do
    let focus := focusProjection current
    let _ ← adapt (call (·.destroy previous.window now))
    voidCorrelations true
    Prog.update fun s => s.tell (removalNotices host.fits (s.scope s.model.revision) focus previous)

def removeExact (window : WindowRef) (now : MonotonicMillis) :
    Prog ModelState ObservationAdapterError Unit := do
  let _ ← adapt (call (·.resolveExact window now))
  removeXid host window.xid now

/-! ## Correlations -/

/-- `ProcessCorrelationUpgrade`: evidence of another kind is refused. -/
structure ProcessCorrelationUpgrade where
  process : ProcessRef
  evidence : WindowProcessEvidence

structure ProcessCorrelationAssignment where
  window : WindowRef
  reportedPid : Option Nat
  upgrade : Option ProcessCorrelationUpgrade

def processCorrelationFromAssignment (assignment : ProcessCorrelationAssignment)
    (desktopGeneration : DesktopGeneration) : Except ControlPlaneError WindowProcessCorrelation :=
  match assignment.upgrade, assignment.reportedPid with
  | none, reportedPid => .ok (baselineProcessCorrelation reportedPid)
  | some _, none => .error .invalidRequest
  | some upgrade, some pid =>
    if upgrade.process.validate.isOk = false ∨ upgrade.process.desktopGeneration ≠ desktopGeneration ∨
        (upgrade.evidence = .procStartTime ∧ upgrade.process.pid ≠ pid) ∨
        (upgrade.evidence ≠ .procStartTime ∧ upgrade.evidence ≠ .processGroup) then
      .error .invalidRequest
    else .ok ⟨some pid, some upgrade.process, .high, [.netWmPid, upgrade.evidence], false⟩

/-- The calls of the model a request makes. -/
def asked {α : Type} (x : Prog ModelState WindowModelError α) : Prog ModelState ControlPlaneError α :=
  x.mapError mapModelError

def stale (s : ModelState) : ControlPlaneError := .staleReference (some s.model.desktopGeneration)

/-- The assignments by XID, none of them twice or of another desktop. -/
def assignmentsByXid (m : WindowModel) : List ProcessCorrelationAssignment →
    Except ControlPlaneError (Std.TreeMap UInt32 ProcessCorrelationAssignment compare) :=
  List.foldlM (fun map assignment =>
    if assignment.window.validateShape.isOk = false ∨ assignment.window.desktopId ≠ m.desktopId ∨
        assignment.window.desktopGeneration ≠ m.desktopGeneration ∨ map.contains assignment.window.xid then
      .error .invalidRequest
    else .ok (map.insert assignment.window.xid assignment)) ∅

/-- The snapshot with the process it is assigned. -/
def assigned (s : ModelState) (assignments : Std.TreeMap UInt32 ProcessCorrelationAssignment compare)
    (snapshot : WindowSnapshot) : Except ControlPlaneError WindowSnapshot :=
  match assignments[snapshot.window.xid]? with
  | none => .error s.stale
  | some assignment =>
    if assignment.window ≠ snapshot.window ∨ assignment.reportedPid ≠ snapshot.process.reportedPid then
      .error s.stale
    else do
      let process ← processCorrelationFromAssignment assignment s.model.desktopGeneration
      let snapshot := { snapshot with process := process }
      snapshot.validate.mapError fun _ => .invalidRequest
      return snapshot

/-- `replace_process_correlations` up to the authority it captures, with the revision of
its fence. -/
def replaceProcessCorrelations (expectedRevision : WindowModelRevision)
    (expectedCorrelationEpoch : Nat) (expectedGeneration : DesktopGeneration)
    (assignments : List ProcessCorrelationAssignment) (now : MonotonicMillis) :
    Prog ModelState ControlPlaneError WindowModelRevision := do
  Prog.failIf (expectedGeneration ≠ (← Prog.read).model.desktopGeneration) .permissionDenied
  Prog.failIf ((← Prog.read).maxLiveWindows < assignments.length) .resourceExhausted
  let (beforeRevision, current) ← asked (call (·.snapshotAll now))
  let s ← Prog.read
  Prog.failIf (beforeRevision ≠ expectedRevision || s.correlationEpoch ≠ expectedCorrelationEpoch) s.stale
  Prog.failIf (assignments.length ≠ current.length) s.stale
  let before := CommittedView.new beforeRevision current
  let byXid ← require (assignmentsByXid s.model assignments)
  let desired ← require (current.mapM (s.assigned byXid))
  let changed := desired.any fun snapshot =>
    before.windows[snapshot.window.xid]?.all fun previous => previous.process ≠ snapshot.process
  if !changed && s.processCorrelationAvailable then pure beforeRevision
  else do
    Prog.when changed do
      let _ ← asked (observeAll now desired)
      pure ()
    setAvailable true
    advanceCorrelationEpoch .internal
    let (afterRevision, afterWindows) ← asked (call (·.snapshotAll now))
    let after := CommittedView.new afterRevision afterWindows
    Prog.update fun s => (s.tell (transitionNotices host.fits (s.scope afterRevision) before after
      .incremental)).publish
    pure afterRevision

/-- The windows whose process is more than they report themselves, back at that. -/
def withBaseline (current : List WindowSnapshot) : List WindowSnapshot :=
  current.filterMap fun snapshot =>
    let baseline := baselineProcessCorrelation snapshot.process.reportedPid
    if snapshot.process = baseline then none else some { snapshot with process := baseline }

/-- `invalidate_process_correlations` up to the authority it captures. -/
def invalidateProcessCorrelations (now : MonotonicMillis) :
    Prog ModelState ControlPlaneError WindowModelRevision := do
  let (beforeRevision, current) ← asked (call (·.snapshotAll now))
  let before := CommittedView.new beforeRevision current
  let changes := withBaseline current
  let _ ← asked (observeAll now changes)
  let changed := changes ≠ []
  let availabilityChanged := (← Prog.read).processCorrelationAvailable
  Prog.when (changed || availabilityChanged) (advanceCorrelationEpoch .internal)
  setAvailable false
  let revision := (← Prog.read).model.revision
  Prog.when changed do
    let (_, afterWindows) ← asked (call (·.snapshotAll now))
    let after := CommittedView.new revision afterWindows
    Prog.update fun s => s.tell (transitionNotices host.fits (s.scope revision) before after .incremental)
  Prog.when (changed || availabilityChanged) (Prog.update publish)
  pure revision

/-- Every listed window is live and listed once. -/
def accessibleWindows (m : WindowModel) (current : References) :
    List WindowRef → Except ControlPlaneError References :=
  List.foldlM (fun map window =>
    if window.validateShape.isOk = false ∨ window.desktopId ≠ m.desktopId ∨
        window.desktopGeneration ≠ m.desktopGeneration ∨ current[window.xid]? ≠ some window ∨
        map.contains window.xid then
      .error .notFound
    else .ok (map.insert window.xid window)) ∅

/-- The windows whose accessibility correlation changes, with it changed. -/
def withAccessibility (desired : References) (current : List WindowSnapshot) : List WindowSnapshot :=
  current.filterMap fun snapshot =>
    let correlated := desired[snapshot.window.xid]?.any fun window => window = snapshot.window
    if snapshot.hasAccessibilityApplication = correlated then none
    else some { snapshot with hasAccessibilityApplication := correlated }

def replaceAccessibilityCorrelations (expectedRevision : WindowModelRevision)
    (windows : List WindowRef) (now : MonotonicMillis) :
    Prog ModelState ControlPlaneError WindowModelRevision := do
  Prog.failIf ((← Prog.read).maxLiveWindows < windows.length) .resourceExhausted
  let (beforeRevision, current) ← asked (call (·.snapshotAll now))
  let s ← Prog.read
  Prog.failIf (beforeRevision ≠ expectedRevision) s.stale
  let before := CommittedView.new beforeRevision current
  let desired ← require (accessibleWindows s.model (References.of (current.map (·.window))) windows)
  let changes := withAccessibility desired current
  let _ ← asked (observeAll now changes)
  if changes = [] then pure beforeRevision
  else do
    let (afterRevision, afterWindows) ← asked (call (·.snapshotAll now))
    let after := CommittedView.new afterRevision afterWindows
    Prog.update fun s => (s.tell (transitionNotices host.fits (s.scope afterRevision) before after
      .incremental)).publish
    pure afterRevision

end

end ModelState

end Xenoteer
