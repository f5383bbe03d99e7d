/-
Raw window observations and their normalization into snapshots (the first part
of the daemon's `observation_plane.rs`, with the input types of
`xenoteer-x11/src/observe/snapshot.rs` and `inventory.rs`).

SHA-256 is a parameter: `IdentityDigest` maps the hashed fields to the text of
their digest.
-/
import Xenoteer.Observe.Atoms
import Xenoteer.Window.Geometry
import Xenoteer.Window.Model

namespace Xenoteer

open Observe (KnownAtom)

/-! ## Inputs -/

structure WindowAttributeInput where
  mapState : WindowMapState
  overrideRedirect : Bool
  inputOnly : Bool
  visual : UInt32
  colormap : UInt32

inductive PropertyWarning where
  | truncated
  | lossyText
  | unexpectedType
  | unexpectedFormat
  | malformed
  | unknownAtom
deriving DecidableEq

structure ObservedPropertyWarning where
  property : KnownAtom
  warning : PropertyWarning

structure ObservedAtom where
  id : UInt32
  known : Option KnownAtom

/-- `format!("0x{:08x}")` of an atom outside the inventory. -/
def ObservedAtom.diagnosticName (a : ObservedAtom) : Text :=
  match a.known with
  | some known => known.name
  | none => '0' :: 'x' :: lowerHex8 a.id

inductive FocusAncestryStatus where
  | noFocus
  | resolved
  | vanished
  | cycle
  | depthExceeded
  | differentRoot
deriving DecidableEq

structure RootWindowEvidenceInput where
  activeWindow : Option UInt32
  rawFocusedWindow : Option UInt32
  focusedWindow : Option UInt32
  targetContainsFocus : Bool
  focusAncestryStatus : FocusAncestryStatus

structure WindowPropertyInput where
  title : Option WindowText
  visibleTitle : Option WindowText
  iconTitle : Option WindowText
  windowClass : Option WindowClass
  clientMachine : Option WindowText
  windowTypes : List ObservedAtom
  states : List ObservedAtom
  allowedActions : List ObservedAtom
  protocols : List ObservedAtom
  reportedPid : Option Nat
  workspace : Option UInt32
  frameExtents : Option WindowFrameExtents
  clientLeader : Option UInt32
  transientFor : Option UInt32
  groupLeader : Option UInt32
  urgent : Bool
  warnings : List ObservedPropertyWarning
  warningsTruncated : Bool

structure RootGeometryInput where
  clientRect : WindowRect
  geometryRoot : UInt32

structure WindowSnapshotInput where
  window : UInt32
  attributes : WindowAttributeInput
  properties : WindowPropertyInput
  geometry : RootGeometryInput
  root : RootWindowEvidenceInput

inductive InventorySource where
  | netClientListStacking
  | netClientList
  | queryTreeFallback
deriving DecidableEq

inductive InventoryWarning where
  | property (property : KnownAtom) (warning : PropertyWarning)
  | truncated
  | invalidMember
  | duplicateMember
  | vanishedMember
  | rootMismatch
deriving DecidableEq

structure RootInventory where
  windows : List UInt32
  source : InventorySource
  warnings : List InventoryWarning

def maxSnapshotInputWarnings : Nat := 32

def maxRootWindows : Nat := 4096

inductive ObservationAdapterError where
  | invalidRawObservation
  | identityEncoding
  | tokenUnavailable
  | clockOverflow
  | model

/-! ## Checks -/

def validateRawInput (input : WindowSnapshotInput) : Except ObservationAdapterError Unit :=
  let p := input.properties
  let r := input.root
  let atoms := [p.windowTypes, p.states, p.allowedActions, p.protocols]
  if input.window = 0 ∨ input.geometry.geometryRoot = 0 ∨
      input.geometry.clientRect.coordinateSpace ≠ .rootPhysical ∨
      input.geometry.clientRect.validate.isOk = false ∨ p.reportedPid = some 0 ∨
      some 0 ∈ [p.clientLeader, p.transientFor, p.groupLeader] ∨
      some 0 ∈ [r.activeWindow, r.rawFocusedWindow, r.focusedWindow] ∨
      (r.focusAncestryStatus = .noFocus ∧
        (r.rawFocusedWindow.isSome ∨ r.focusedWindow.isSome ∨ r.targetContainsFocus = true)) ∨
      (atoms.any fun values => maxWindowAtoms < values.length) = true ∨
      (atoms.flatten.any fun atom => atom.id = 0) = true ∨
      maxSnapshotInputWarnings < p.warnings.length then
    .error .invalidRawObservation
  else .ok ()

/-- The windows of an inventory are non-zero and distinct, and come with their inputs. -/
def validateInventory (inventory : RootInventory) (inputs : List WindowSnapshotInput) :
    Except ObservationAdapterError Unit := do
  if maxRootWindows < inventory.windows.length ∨ inventory.windows.length ≠ inputs.length ∨
      inventory.warnings.contains .truncated then
    throw .invalidRawObservation
  let rec check (seen : List UInt32) : List (UInt32 × WindowSnapshotInput) → Except ObservationAdapterError Unit
    | [] => pure ()
    | (xid, input) :: rest => do
      if xid = 0 ∨ xid ∈ seen ∨ input.window ≠ xid then throw .invalidRawObservation
      validateRawInput input
      check (xid :: seen) rest
  check [] (inventory.windows.zip inputs)

/-! ## Identity -/

/-- What the identity hash of a birth is computed from. -/
structure IdentityEvidence where
  desktopId : DesktopId
  desktopGeneration : DesktopGeneration
  window : UInt32
  birthSerial : Nat
  visual : UInt32
  colormap : UInt32
  overrideRedirect : Bool
  inputOnly : Bool
  reportedPid : Option Nat
  clientLeader : Option UInt32
  windowClass : Option WindowClass

abbrev IdentityDigest := IdentityEvidence → WindowIdentityHash

def buildIdentityHash (digest : IdentityDigest) (input : WindowSnapshotInput) (desktopId : DesktopId)
    (desktopGeneration : DesktopGeneration) (birthSerial : Nat) :
    Except ObservationAdapterError WindowIdentityHash := do
  validateRawInput input
  return digest ⟨desktopId, desktopGeneration, input.window, birthSerial, input.attributes.visual,
    input.attributes.colormap, input.attributes.overrideRedirect, input.attributes.inputOnly,
    input.properties.reportedPid, input.properties.clientLeader, input.properties.windowClass⟩

/-! ## Normalization -/

def WindowAtomName.new (value : Text) : Except ObservationAdapterError WindowAtomName :=
  if h : value ≠ [] ∧ value.byteLen ≤ maxWindowAtomNameBytes ∧ value.any isControl = false then
    .ok ⟨value, h.1, h.2.1, h.2.2⟩
  else .error .invalidRawObservation

def knownAtomName (known : KnownAtom) : Except ObservationAdapterError WindowAtomName :=
  WindowAtomName.new known.name

def WindowSnapshot.pushWarning (warnings : List WindowSnapshotWarning) (warning : WindowSnapshotWarning) :
    List WindowSnapshotWarning :=
  if warnings.length < maxWindowWarnings ∧ warning ∉ warnings then warnings ++ [warning] else warnings

def normalizeWarning (observed : ObservedPropertyWarning) :
    Except ObservationAdapterError WindowSnapshotWarning := do
  let property ← knownAtomName observed.property
  return match observed.warning with
    | .malformed => .malformedProperty property
    | .truncated => .truncatedProperty property
    | .lossyText => .lossyPropertyText property
    | .unexpectedType | .unexpectedFormat | .unknownAtom => .unsupportedPropertyEncoding property

def normalizeWarnings (observed : List ObservedPropertyWarning) :
    Except ObservationAdapterError (List WindowSnapshotWarning) :=
  observed.foldlM (fun warnings observed => return WindowSnapshot.pushWarning warnings (← normalizeWarning observed)) []

/-- The distinct names, and a warning for each atom outside the inventory. -/
def normalizeAtoms (values : List ObservedAtom) (sourceProperty : KnownAtom)
    (warnings : List WindowSnapshotWarning) :
    Except ObservationAdapterError (List WindowAtomName × List WindowSnapshotWarning) :=
  values.foldlM (fun (names, warnings) value => do
    let name ← WindowAtomName.new value.diagnosticName
    let names := if name ∈ names then names else names ++ [name]
    match value.known with
    | some _ => return (names, warnings)
    | none => return (names, WindowSnapshot.pushWarning warnings (.unsupportedPropertyEncoding (← knownAtomName sourceProperty))))
    ([], warnings)

/-- `derive_frame_rect` of the adapter, which does what the core's does. -/
def observedFrameRect (client : WindowRect) (extents : WindowFrameExtents) : Option WindowRect :=
  (deriveFrameRect client extents).toOption

/-- `baseline_process_correlation`: what the window itself reports. -/
def baselineProcessCorrelation : Option Nat → WindowProcessCorrelation
  | some pid => ⟨some pid, none, .low, [.netWmPid], false⟩
  | none => ⟨none, none, .none, [], false⟩

/-- The references of the windows of one view, by XID. -/
abbrev References := Std.TreeMap UInt32 WindowRef compare

def relation (xid : Option UInt32) (references : References) : Option WindowRef := xid.bind (references[·]?)

def normalizeSnapshot (input : WindowSnapshotInput) (reference : WindowRef)
    (modelRevision : WindowModelRevision) (stackingIndex : Option UInt32) (references : References) :
    Except ObservationAdapterError WindowSnapshot := do
  validateRawInput input
  if input.window ≠ reference.xid then throw .invalidRawObservation
  let p := input.properties
  let warnings ← normalizeWarnings p.warnings
  let warnings ← (if p.warningsTruncated then
      (WindowAtomName.new "observation_warnings".toList).map fun property =>
        WindowSnapshot.pushWarning warnings (.truncatedProperty property)
    else .ok warnings)
  let frameRect := p.frameExtents.bind (observedFrameRect input.geometry.clientRect)
  let warnings := match p.frameExtents, frameRect with
    | none, _ => warnings
    | some _, some _ => WindowSnapshot.pushWarning warnings .frameExtentsUnverified
    | some _, none => WindowSnapshot.pushWarning (WindowSnapshot.pushWarning warnings .frameExtentsUnverified) .frameGeometryUnavailable
  let (windowTypes, warnings) ← normalizeAtoms p.windowTypes .netWmWindowType warnings
  let (states, warnings) ← normalizeAtoms p.states .netWmState warnings
  let (allowedActions, warnings) ← normalizeAtoms p.allowedActions .netWmAllowedActions warnings
  let (protocols, warnings) ← normalizeAtoms p.protocols .wmProtocols warnings
  let hasState (needle : KnownAtom) : Bool := p.states.any fun atom => atom.known = some needle
  let hidden := hasState .netWmStateHidden
  let snapshot : WindowSnapshot :=
    { window := reference
      xidHex := reference.xidHex
      modelRevision := modelRevision
      metadata := ⟨p.title, p.visibleTitle, p.iconTitle, p.windowClass, p.clientMachine, windowTypes, states,
        allowedActions, protocols⟩
      process := baselineProcessCorrelation p.reportedPid
      state :=
        { mapState := input.attributes.mapState
          minimized := hidden
          hidden := hidden
          urgent := p.urgent
          modal := hasState .netWmStateModal
          sticky := hasState .netWmStateSticky
          active := input.root.activeWindow = some input.window
          focused := (input.root.focusAncestryStatus = .resolved &&
            (input.root.targetContainsFocus || input.root.focusedWindow = some input.window)) ||
            hasState .netWmStateFocused }
      geometry := some ⟨input.geometry.clientRect, frameRect, input.geometry.clientRect, p.frameExtents⟩
      workspace := p.workspace
      clientLeader := relation p.clientLeader references
      transientFor := relation p.transientFor references
      groupLeader := relation p.groupLeader references
      stackingIndex := stackingIndex
      hasAccessibilityApplication := false
      warnings := warnings }
  snapshot.validate.mapError fun _ => .invalidRawObservation
  return snapshot

end Xenoteer
