/-
Window references and bounded window snapshots, with their validation
(`xenoteer-protocol/src/window.rs`, and `ProcessRef` of `process.rs`).

Validation is the source's list of checks in the source's order, so that the
error a malformed value is refused with is the source's error.
-/
import Xenoteer.Protocol.Values

namespace Xenoteer

/-! ## Ceilings -/

def windowIdentityHashBytes : Nat := 64
def maxWindowTextBytes : Nat := 4096
def maxWindowAtomNameBytes : Nat := 255
def maxWindowAtoms : Nat := 256
def maxWindowWarnings : Nat := 16
def maxWindowDimension : Nat := 65535
def maxWindowProcessEvidence : Nat := 8

inductive WindowValidationError where
  | nilIdentifier
  | windowReference
  | identityHash
  | modelRevision
  | text
  | windowClass
  | atomName
  | atomSet
  | geometryDimension
  | frameExtents
  | snapshotCoordinateSpace
  | processCorrelation
  | referenceScope
  | xidHex
  | warnings
  | changedFields
  | geometry (error : GeometryError)
deriving DecidableEq

/-! ## References -/

/-- A non-zero actor-local model revision. -/
@[ext]
structure WindowModelRevision where
  value : Nat
  nonzero : value ≠ 0

instance : DecidableEq WindowModelRevision := fun _ _ => decidable_of_iff _ WindowModelRevision.ext_iff.symm

def WindowModelRevision.new (value : Nat) : Except WindowValidationError WindowModelRevision :=
  if h : value = 0 then .error .modelRevision else .ok ⟨value, h⟩

/-- Lowercase SHA-256 projection of the first-observed identity evidence. -/
@[ext]
structure WindowIdentityHash where
  text : Text
  length : text.byteLen = windowIdentityHashBytes
  lowerHex : text.all isLowerHexDigit = true

instance : DecidableEq WindowIdentityHash := fun _ _ => decidable_of_iff _ WindowIdentityHash.ext_iff.symm

def WindowIdentityHash.new (value : Text) : Except WindowValidationError WindowIdentityHash :=
  if h : value.byteLen = windowIdentityHashBytes ∧ value.all isLowerHexDigit = true then
    .ok ⟨value, h.1, h.2⟩
  else .error .identityHash

/-- A reference to exactly one observed XID birth in one desktop lifetime. -/
structure WindowRef where
  desktopId : DesktopId
  desktopGeneration : DesktopGeneration
  xid : UInt32
  observedGeneration : Nat
  identityHash : WindowIdentityHash
deriving DecidableEq

namespace WindowRef

/-- Checks the shape of the reference only, not that its window is live. -/
def validateShape (w : WindowRef) : Except WindowValidationError Unit := do
  if w.desktopId.uuid = 0 ∨ w.desktopGeneration.uuid = 0 then throw .nilIdentifier
  if w.xid = 0 ∨ w.observedGeneration = 0 then throw .windowReference
  let _ ← WindowIdentityHash.new w.identityHash.text

def validate (w : WindowRef) : Except WindowValidationError Unit := w.validateShape

/-- `format!("0x{:08x}", self.xid)`. -/
def xidHex (w : WindowRef) : Text := '0' :: 'x' :: lowerHex8 w.xid

def sharesDesktopScope (w other : WindowRef) : Bool :=
  w.desktopId = other.desktopId && w.desktopGeneration = other.desktopGeneration

end WindowRef

/-! ## Text, class and atoms -/

structure WindowText where
  value : Text
  lossy : Bool
deriving DecidableEq

def WindowText.validate (t : WindowText) : Except WindowValidationError Unit :=
  if maxWindowTextBytes < t.value.byteLen then .error .text else .ok ()

/-- The `WM_CLASS` components `instance` and `class`. -/
structure WindowClass where
  instanceText : Option WindowText
  classText : Option WindowText
deriving DecidableEq

def WindowClass.validate (c : WindowClass) : Except WindowValidationError Unit := do
  if c.instanceText.isNone ∧ c.classText.isNone then throw .windowClass
  c.instanceText.forM WindowText.validate
  c.classText.forM WindowText.validate

structure WindowAtomName where
  text : Text
  nonempty : text ≠ []
  bounded : text.byteLen ≤ maxWindowAtomNameBytes
  printable : text.any isControl = false
deriving DecidableEq

/-! ## Geometry -/

structure WindowRect where
  coordinateSpace : CoordinateSpace
  rect : Rect
deriving DecidableEq

def WindowRect.validate (w : WindowRect) : Except WindowValidationError Unit := do
  w.rect.validate.mapError .geometry
  let size ← w.rect.size.mapError .geometry
  if maxWindowDimension < size.width.toNat ∨ maxWindowDimension < size.height.toNat then
    throw .geometryDimension

/-- Window-manager frame borders in root-physical pixels. -/
structure WindowFrameExtents where
  left : UInt32
  right : UInt32
  top : UInt32
  bottom : UInt32
deriving DecidableEq

def WindowFrameExtents.validate (e : WindowFrameExtents) : Except WindowValidationError Unit :=
  if [e.left, e.right, e.top, e.bottom].any fun extent => maxWindowDimension < extent.toNat then
    .error .frameExtents
  else .ok ()

structure WindowGeometry where
  clientRect : WindowRect
  frameRect : Option WindowRect
  contentRect : WindowRect
  frameExtents : Option WindowFrameExtents
deriving DecidableEq

def WindowGeometry.validate (g : WindowGeometry) : Except WindowValidationError Unit := do
  g.clientRect.validate
  g.contentRect.validate
  g.frameRect.forM WindowRect.validate
  if (g.clientRect :: g.frameRect.toList ++ [g.contentRect]).any
      fun value => value.coordinateSpace ≠ .rootPhysical then
    throw .snapshotCoordinateSpace
  g.frameExtents.forM WindowFrameExtents.validate

inductive WindowMapState where
  | unmapped
  | unviewable
  | viewable
deriving DecidableEq

structure WindowObservedState where
  mapState : WindowMapState
  minimized : Bool
  hidden : Bool
  urgent : Bool
  modal : Bool
  sticky : Bool
  active : Bool
  focused : Bool
deriving DecidableEq

/-! ## Process correlation -/

structure LaunchId where
  uuid : Nat
deriving DecidableEq

structure ProcessRef where
  desktopGeneration : DesktopGeneration
  pid : Nat
  procStartTicks : Nat
  launchId : LaunchId
deriving DecidableEq

inductive ProcessValidationError where
  | nilIdentifier
  | processReference

def ProcessRef.validate (p : ProcessRef) : Except ProcessValidationError Unit :=
  if p.desktopGeneration.uuid = 0 ∨ p.launchId.uuid = 0 then .error .nilIdentifier
  else if p.pid = 0 ∨ p.procStartTicks = 0 then .error .processReference
  else .ok ()

inductive WindowProcessConfidence where
  | none
  | low
  | medium
  | high
deriving DecidableEq

inductive WindowProcessEvidence where
  | netWmPid
  | procStartTime
  | processGroup
  | clientLeader
  | wmClass
  | wmCommand
  | clientMachine
  | uniqueCandidate
deriving DecidableEq

structure WindowProcessCorrelation where
  reportedPid : Option Nat
  managedProcess : Option ProcessRef
  confidence : WindowProcessConfidence
  evidence : List WindowProcessEvidence
  conflict : Bool
deriving DecidableEq

namespace WindowProcessCorrelation

def hasIdentityAnchor (p : WindowProcessCorrelation) : Bool :=
  p.evidence.contains .procStartTime || p.evidence.contains .processGroup ||
    p.evidence.contains .clientLeader

def validate (p : WindowProcessCorrelation) (desktopGeneration : DesktopGeneration) :
    Except WindowValidationError Unit := do
  if p.reportedPid = some 0 ∨ maxWindowProcessEvidence < p.evidence.length ∨ hasDuplicates p.evidence then
    throw .processCorrelation
  p.managedProcess.forM fun process => do
    process.validate.mapError fun _ => .processCorrelation
    if process.desktopGeneration ≠ desktopGeneration then throw .referenceScope
  if p.evidence.contains .netWmPid ∧ p.reportedPid.isNone then throw .processCorrelation
  if p.confidence = .none ∧ (p.evidence ≠ [] ∨ p.managedProcess.isSome ∨ p.conflict) then
    throw .processCorrelation
  if p.confidence ≠ .none ∧ p.evidence = [] then throw .processCorrelation
  if p.managedProcess.isSome ∧ ¬ p.hasIdentityAnchor then throw .processCorrelation
  if p.confidence = .high ∧
      (p.managedProcess.isNone ∨ p.conflict ∨ ¬ p.hasIdentityAnchor ∨ p.evidence.length < 2) then
    throw .processCorrelation
  if p.conflict ∧ (p.reportedPid.isNone ∨ p.managedProcess.isNone ∨ ¬ p.evidence.contains .netWmPid ∨
      ¬ p.hasIdentityAnchor) then
    throw .processCorrelation

end WindowProcessCorrelation

/-! ## Snapshots -/

structure WindowMetadata where
  title : Option WindowText
  visibleTitle : Option WindowText
  iconTitle : Option WindowText
  windowClass : Option WindowClass
  clientMachine : Option WindowText
  windowTypes : List WindowAtomName
  states : List WindowAtomName
  allowedActions : List WindowAtomName
  protocols : List WindowAtomName
deriving DecidableEq

def WindowMetadata.validate (m : WindowMetadata) : Except WindowValidationError Unit := do
  [m.title, m.visibleTitle, m.iconTitle, m.clientMachine].forM fun text => text.forM WindowText.validate
  m.windowClass.forM WindowClass.validate
  [m.windowTypes, m.states, m.allowedActions, m.protocols].forM fun values =>
    if maxWindowAtoms < values.length ∨ hasDuplicates values then throw .atomSet else pure ()

inductive WindowSnapshotWarning where
  | malformedProperty (property : WindowAtomName)
  | truncatedProperty (property : WindowAtomName)
  | lossyPropertyText (property : WindowAtomName)
  | unsupportedPropertyEncoding (property : WindowAtomName)
  | processEvidenceConflict
  | frameGeometryUnavailable
  | frameExtentsUnverified
deriving DecidableEq

/-- A complete bounded observation of one window. -/
structure WindowSnapshot where
  window : WindowRef
  xidHex : Text
  modelRevision : WindowModelRevision
  metadata : WindowMetadata
  process : WindowProcessCorrelation
  state : WindowObservedState
  geometry : Option WindowGeometry
  workspace : Option UInt32
  clientLeader : Option WindowRef
  transientFor : Option WindowRef
  groupLeader : Option WindowRef
  stackingIndex : Option UInt32
  hasAccessibilityApplication : Bool
  warnings : List WindowSnapshotWarning
deriving DecidableEq

def WindowSnapshot.validate (s : WindowSnapshot) : Except WindowValidationError Unit := do
  s.window.validateShape
  if s.xidHex ≠ s.window.xidHex then throw .xidHex
  s.metadata.validate
  s.process.validate s.window.desktopGeneration
  s.geometry.forM WindowGeometry.validate
  [s.clientLeader, s.transientFor, s.groupLeader].forM fun related => related.forM fun related => do
    related.validateShape
    if !s.window.sharesDesktopScope related then throw .referenceScope
  if maxWindowWarnings < s.warnings.length then throw .warnings
  if hasDuplicates s.warnings ∨ s.process.conflict ≠ s.warnings.contains .processEvidenceConflict then
    throw .warnings

/-- A snapshot that validates has a reference of valid shape: the first check
of the snapshot is the check of its reference. -/
theorem WindowSnapshot.validateShape_of_validate {s : WindowSnapshot} (h : s.validate = .ok ()) :
    s.window.validateShape = .ok () := by
  cases hw : s.window.validateShape with
  | ok u => rfl
  | error e =>
    rw [WindowSnapshot.validate, hw] at h
    cases h

/-! ## Values of the runs on fixed inputs -/

/-- The hash of the letter `a`, 64 times. -/
def WindowIdentityHash.allA : WindowIdentityHash :=
  ⟨List.replicate 64 'a', by decide +kernel, by decide +kernel⟩

/-- The `birth`-th window of the first desktop, under XID 1. -/
def WindowRef.nth (birth : Nat) : WindowRef := ⟨⟨1⟩, ⟨1⟩, 1, birth, .allA⟩

/-- A viewable window without properties. -/
def WindowSnapshot.bare (window : WindowRef) : WindowSnapshot :=
  { window := window, xidHex := window.xidHex, modelRevision := ⟨1, by decide⟩,
    metadata := ⟨none, none, none, none, none, [], [], [], []⟩,
    process := ⟨none, none, .none, [], false⟩,
    state := ⟨.viewable, false, false, false, false, false, false, false⟩,
    geometry := none, workspace := none, clientLeader := none, transientFor := none, groupLeader := none,
    stackingIndex := none, hasAccessibilityApplication := false, warnings := [] }

end Xenoteer
