/-
The window events of the daemon (`WindowEventEmitter` and the event
constructors of `observation_plane.rs`): what one committed change of the window
model is told to subscribers, in order.

An event whose payload is refused is replaced by a demand to resynchronize
(`Notice.refused`). The encoded size is a parameter for metadata, whose texts
can exceed the limit; every other payload is bounded far below it.
-/
import Xenoteer.Lib.Checks
import Xenoteer.Window.Model

namespace Xenoteer

open Lib.Checks

inductive WindowLifecycleKind where
  | created
  | mapped
  | unmapped
  | destroyed
deriving DecidableEq

inductive WindowMetadataField where
  | title
  | visibleTitle
  | iconTitle
  | windowClass
  | clientMachine
  | windowTypes
  | states
  | allowedActions
  | protocols
  | workspace
  | relationships
  | processCorrelation
  | accessibilityCorrelation
deriving DecidableEq

inductive WindowModelRebuildReason where
  | startup
  | explicitResync
  | eventOverflow
  | x11Reconnect
  | suspiciousProperty
deriving DecidableEq

structure WindowFocusEvent where
  desktopId : DesktopId
  desktopGeneration : DesktopGeneration
  modelRevision : WindowModelRevision
  previousActive : Option WindowRef
  active : Option WindowRef
  previousFocused : Option WindowRef
  focused : Option WindowRef

inductive WindowEvent where
  | lifecycle (window : WindowRef) (modelRevision : WindowModelRevision) (lifecycle : WindowLifecycleKind)
  | metadata (window : WindowRef) (modelRevision : WindowModelRevision) (changed : List WindowMetadataField)
      (metadata : WindowMetadata)
  | focus (event : WindowFocusEvent)
  | geometry (window : WindowRef) (modelRevision : WindowModelRevision) (before : Option WindowGeometry)
      (after : WindowGeometry)
  | rebuilt (desktopId : DesktopId) (desktopGeneration : DesktopGeneration)
      (previousRevision : Option WindowModelRevision) (modelRevision : WindowModelRevision)
      (windowCount : Nat) (reason : WindowModelRebuildReason)

def maxWindowChangedFields : Nat := 32

def WindowFocusEvent.validate (e : WindowFocusEvent) : Except WindowValidationError Unit := do
  if e.desktopId.uuid = 0 ∨ e.desktopGeneration.uuid = 0 then throw .nilIdentifier
  each (optional fun window => do
    window.validateShape
    ensure (window.desktopId = e.desktopId && window.desktopGeneration = e.desktopGeneration) .referenceScope)
    [e.previousActive, e.active, e.previousFocused, e.focused]

def WindowEvent.validate : WindowEvent → Except WindowValidationError Unit
  | .lifecycle window _ _ => window.validateShape
  | .metadata window _ changed content => do
    window.validateShape
    if changed = [] ∨ maxWindowChangedFields < changed.length ∨ hasDuplicates changed then throw .changedFields
    content.validate
  | .focus event => event.validate
  | .geometry window _ before after => do
    window.validateShape
    optional WindowGeometry.validate before
    after.validate
  | .rebuilt desktopId desktopGeneration previousRevision modelRevision _ _ => do
    if desktopId.uuid = 0 ∨ desktopGeneration.uuid = 0 then throw .nilIdentifier
    if previousRevision.any fun previous => modelRevision.value ≤ previous.value then throw .modelRevision

/-- What the sink is told. -/
inductive Notice where
  | event (event : WindowEvent)
  | refused
  | resync

/-- Whether the encoded metadata of an event fits. -/
abbrev MetadataFits := WindowMetadata → Bool

section

variable (fits : MetadataFits)

/-- `normalized_window_event` and `offer`. -/
def WindowEvent.offer (event : WindowEvent) : Notice :=
  match event.validate with
  | .error _ => .refused
  | .ok () =>
    match event with
    | .metadata _ _ _ content => if fits content then .event event else .refused
    | _ => .event event

/-! ## Changes of one window -/

def nonFocusStateChanged (previous current : WindowObservedState) : Bool :=
  previous.mapState ≠ current.mapState || previous.minimized ≠ current.minimized ||
    previous.hidden ≠ current.hidden || previous.urgent ≠ current.urgent ||
    previous.modal ≠ current.modal || previous.sticky ≠ current.sticky

def metadataChanges (previous current : WindowSnapshot) : List WindowMetadataField :=
  let p := previous.metadata
  let c := current.metadata
  [(decide (p.title ≠ c.title), WindowMetadataField.title),
    (decide (p.visibleTitle ≠ c.visibleTitle), .visibleTitle),
    (decide (p.iconTitle ≠ c.iconTitle), .iconTitle),
    (decide (p.windowClass ≠ c.windowClass), .windowClass),
    (decide (p.clientMachine ≠ c.clientMachine), .clientMachine),
    (decide (p.windowTypes ≠ c.windowTypes), .windowTypes),
    (decide (p.states ≠ c.states) || nonFocusStateChanged previous.state current.state, .states),
    (decide (p.allowedActions ≠ c.allowedActions), .allowedActions),
    (decide (p.protocols ≠ c.protocols), .protocols),
    (decide (previous.workspace ≠ current.workspace), .workspace),
    (decide (previous.clientLeader ≠ current.clientLeader) ||
      decide (previous.transientFor ≠ current.transientFor) ||
      decide (previous.groupLeader ≠ current.groupLeader), .relationships),
    (decide (previous.process ≠ current.process), .processCorrelation),
    (decide (previous.hasAccessibilityApplication ≠ current.hasAccessibilityApplication),
      .accessibilityCorrelation)].filterMap fun (changed, field) => if changed then some field else none

/-- The metadata event of a window, unless nothing changed. -/
def metadataNotices (previous current : WindowSnapshot) (revision : WindowModelRevision) : List Notice :=
  let changed := metadataChanges previous current
  if changed = [] then []
  else [(WindowEvent.metadata current.window revision changed current.metadata).offer fits]

/-- The geometry event of a window; one that lost its geometry has no event to tell it. -/
def geometryNotices (previous current : WindowSnapshot) (revision : WindowModelRevision) : List Notice :=
  if previous.geometry = current.geometry then []
  else match current.geometry with
    | none => [.refused]
    | some after => [(WindowEvent.geometry current.window revision previous.geometry after).offer fits]

/-! ## Committed changes -/

/-- `CommittedWindowModelView`. -/
structure CommittedView where
  revision : WindowModelRevision
  windows : Std.TreeMap UInt32 WindowSnapshot compare

def CommittedView.new (revision : WindowModelRevision) (snapshots : List WindowSnapshot) : CommittedView :=
  ⟨revision, snapshots.foldl (fun windows snapshot => windows.insert snapshot.window.xid snapshot) ∅⟩

/-- The snapshots of a view in XID order. -/
def CommittedView.snapshots (v : CommittedView) : List WindowSnapshot := v.windows.toList.map Prod.snd

inductive ReconcileEventPolicy where
  | incremental
  | initialBaseline
  | rebuilt (reason : WindowModelRebuildReason)
deriving DecidableEq

/-- The first active and the first focused window. -/
structure FocusPair where
  active : Option WindowRef
  focused : Option WindowRef
deriving DecidableEq

/-- `focus_projection`, over snapshots in XID order. -/
def focusProjection (snapshots : List WindowSnapshot) : FocusPair :=
  ⟨(snapshots.find? (·.state.active)).map (·.window), (snapshots.find? (·.state.focused)).map (·.window)⟩

/-- Who emits, at which revision. -/
structure WindowEventScope where
  desktopId : DesktopId
  desktopGeneration : DesktopGeneration
  modelRevision : WindowModelRevision

section

variable (scope : WindowEventScope)

/-- The focus event of a change, unless there is none. -/
def focusNotices (previous current : FocusPair) : List Notice :=
  if previous = current then []
  else [(WindowEvent.focus ⟨scope.desktopId, scope.desktopGeneration, scope.modelRevision, previous.active,
    current.active, previous.focused, current.focused⟩).offer fits]

def lifecycleNotice (window : WindowRef) (revision : WindowModelRevision)
    (kind : WindowLifecycleKind) : Notice :=
  (WindowEvent.lifecycle window revision kind).offer fits

/-- `model_rebuilt_event`. -/
def rebuiltNotice (before after : CommittedView)
    (reason : WindowModelRebuildReason) (initial : Bool) : Notice :=
  let previous := if !initial && before.revision.value < after.revision.value then some before.revision else none
  (WindowEvent.rebuilt scope.desktopId scope.desktopGeneration previous after.revision after.windows.size
    reason).offer fits

/-- A rebuilt model is told after the changes. -/
def rebuiltNotices (before after : CommittedView) : ReconcileEventPolicy → List Notice
  | .rebuilt reason => [rebuiltNotice fits scope before after reason false]
  | .incremental | .initialBaseline => []

/-- The window of the other view that `snapshot` is the same birth as. -/
def CommittedView.same (v : CommittedView) (snapshot : WindowSnapshot) : Option WindowSnapshot :=
  v.windows[snapshot.window.xid]?.filter (·.window = snapshot.window)

/-- `emit_committed_transition`. Every old birth is told gone before a new one is told. -/
def transitionNotices (before after : CommittedView) (policy : ReconcileEventPolicy) : List Notice :=
  if policy = .initialBaseline then [rebuiltNotice fits scope before after .startup true]
  else
    let revision := after.revision
    (before.snapshots.filter fun previous => (after.same previous).isNone).map
        (fun previous => lifecycleNotice fits previous.window revision .destroyed) ++
      (after.snapshots.filter fun current => (before.same current).isNone).map
        (fun current => lifecycleNotice fits current.window revision .created) ++
      after.snapshots.flatMap (fun current => match before.same current with
        | some previous => metadataNotices fits previous current revision
        | none => []) ++
      focusNotices fits scope (focusProjection before.snapshots) (focusProjection after.snapshots) ++
      after.snapshots.flatMap (fun current => match before.same current with
        | some previous => geometryNotices fits previous current revision
        | none => []) ++
      rebuiltNotices fits scope before after policy

/-- What a refreshed window's flag makes of the window that had it. -/
def focusAfter (flag : Bool) (window : WindowRef) (previous : Option WindowRef) : Option WindowRef :=
  if flag then some window else previous.filter (·.xid ≠ window.xid)

/-- `emit_committed_observation`. -/
def observationNotices (focus : FocusPair)
    (previous : Option WindowSnapshot) (current : WindowSnapshot) : List Notice :=
  let revision := scope.modelRevision
  (match previous with
    | some previous => metadataNotices fits previous current revision
    | none => [lifecycleNotice fits current.window revision .created]) ++
    focusNotices fits scope focus ⟨focusAfter current.state.active current.window focus.active,
      focusAfter current.state.focused current.window focus.focused⟩ ++
    match previous with
    | some previous => geometryNotices fits previous current revision
    | none => []

/-- `emit_committed_removal`. -/
def removalNotices (focus : FocusPair) (previous : WindowSnapshot) : List Notice :=
  lifecycleNotice fits previous.window scope.modelRevision .destroyed ::
    focusNotices fits scope focus ⟨focusAfter false previous.window focus.active,
      focusAfter false previous.window focus.focused⟩

end

end

end Xenoteer
