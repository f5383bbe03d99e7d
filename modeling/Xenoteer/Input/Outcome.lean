/-
What is asked of the input actor and what it answers (`input/command.rs`,
`input/outcome.rs`). A cancellation token and an exact-target check are asked
from the environment, so a command here only says whether it has a check.
-/
import Xenoteer.Input.Action
import Xenoteer.Input.KeyboardRequest
import Xenoteer.Protocol.Values

namespace Xenoteer

/-! ## Commands -/

/-- An endpoint resolved against the pointer at execution time. -/
inductive PointerEndpoint where
  | root (target : RootPoint)
  | relative (delta : PointerDelta)

structure PointerMoveRequest where
  target : RootPoint
  options : MotionOptions

structure PointerMoveRelativeRequest where
  delta : PointerDelta
  options : MotionOptions

structure PointerClickRequest where
  endpoint : Option PointerEndpoint
  options : MotionOptions
  button : LogicalButton
  count : Nat
  preClickDwellMs : Nat
  pressDurationMs : Nat
  interClickIntervalMs : Nat

structure PointerDragRequest where
  endpoint : PointerEndpoint
  options : MotionOptions
  button : LogicalButton
  pressDwellMs : Nat
  releaseDwellMs : Nat

/-- What happens to a local point outside the window. -/
inductive WindowPointerBoundsPolicy where
  | reject
  | clamp
  | allow

/-- A window-local click, resolved from live geometry. -/
structure WindowPointerClickRequest where
  window : UInt32
  coordinateSpace : CoordinateSpace
  point : Point
  boundsPolicy : WindowPointerBoundsPolicy
  options : MotionOptions
  button : LogicalButton
  count : Nat
  preClickDwellMs : Nat
  pressDurationMs : Nat
  interClickIntervalMs : Nat
  expectedRootTarget : Option RootPoint

inductive InputPreconditionFailure where
  | targetStale
  | focusLost
  | unavailable

inductive InputOperation where
  | pointer (action : InputAction)
  | pointerMove (request : PointerMoveRequest)
  | pointerMoveRelative (request : PointerMoveRelativeRequest)
  | pointerClick (request : PointerClickRequest)
  | pointerDrag (request : PointerDragRequest)
  | windowPointerClick (request : WindowPointerClickRequest)
  | pointerScroll (action : ScrollAction)
  | keyboard (action : KeyboardAction)

structure ActionContext where
  commandId : CommandId
  deadline : Option Instant

/-- An ordinary command of the queue. -/
structure InputCommand where
  context : ActionContext
  operation : InputOperation
  hasPrecondition : Bool

def requestedPointerAction : InputAction → Option RootPoint
  | .move plan => some plan.endPoint
  | .click action => action.movement.map (·.endPoint)
  | .drag action => some action.movement.endPoint
  | .scroll _ | .key | .button _ _ _ => none

def requestedPointer : InputOperation → Option RootPoint
  | .pointer action => requestedPointerAction action
  | .pointerMove request => some request.target
  | _ => none

/-! ## Observations -/

/-- The pointer and the mask of the logical buttons one to five. -/
structure PointerObservation where
  pointer : RootPoint
  logicalButtons : Vector Bool 5

/-- The mask bit of a logical number, when it has one. -/
def maskBit (logicalButtons : Vector Bool 5) (number : UInt8) : Option Bool :=
  if number = 0 then none else logicalButtons[number.toNat - 1]?

def logicalButtonReleased (logical : LogicalButton) (observed : Vector Bool 5) : Bool :=
  maskBit observed logical.number ≠ some true

def logicalButtonPressed (logical : LogicalButton) (observed : Vector Bool 5) : Bool :=
  maskBit observed logical.number ≠ some false

/-! ## Results -/

structure KeyboardOutcomeEvidence where
  model : KeyboardModelDiagnostics
  bindings : List KeyboardBindingEvidence
  textScalarCount : Option Nat
  requestedTextMode : Option PhysicalTextMode
  currentLayoutScalars : Nat
  temporaryMappingScalars : Nat
  temporaryMappingsInstalled : Nat
  temporaryMappingsRestored : Nat
  temporaryMappingRestorationProven : Option Bool

/-- The effects of an action; aggregated when key identities could tell text. -/
inductive InputEffectEvidence where
  | journal (journal : EffectJournal)
  | redactedKeyboard (provisional confirmed : Nat)

def InputEffectEvidence.fromJournal (effects : EffectJournal) (redactKeyboard : Bool) :
    InputEffectEvidence :=
  if !redactKeyboard then .journal effects
  else .redactedKeyboard (effects.records.countP (·.certainty = .provisional))
    (effects.records.countP (·.certainty = .confirmed))

/-- Evidence of one conservative release pass. -/
structure CleanupReport where
  attempted : Nat
  confirmed : Nat
  observedLogicalButtons : Option (Vector Bool 5)
  unobservableButtons : List PhysicalButton
  observedPressedKeys : Option (List PhysicalKey)
  residualOwnedButtons : List PhysicalButton
  residualOwnedKeys : List PhysicalKey
  temporaryMappingRestoreAttempted : Bool
  temporaryMappingRestoreProven : Bool
  succeeded : Bool

/-- The counts of a report, without physical key identities. -/
structure RedactedCleanup where
  attempted : Nat
  confirmed : Nat
  residualOwnedKeyCount : Nat
  residualOwnedButtonCount : Nat
  pointerObservationAvailable : Bool
  observedLogicalButtons : Option (Vector Bool 5)
  keyObservationAvailable : Bool
  ownedButtonsProvenReleased : Bool
  ownedKeysProvenReleased : Bool
  temporaryMappingRestoreAttempted : Bool
  temporaryMappingRestoreProven : Bool
  succeeded : Bool

inductive InputCleanupEvidence where
  | detailed (report : CleanupReport)
  | redactedKeyboard (redacted : RedactedCleanup)

namespace InputCleanupEvidence

def redactKeyboard : InputCleanupEvidence → InputCleanupEvidence
  | .detailed report => .redactedKeyboard
    { attempted := report.attempted, confirmed := report.confirmed
      residualOwnedKeyCount := report.residualOwnedKeys.length
      residualOwnedButtonCount := report.residualOwnedButtons.length
      pointerObservationAvailable := report.observedLogicalButtons.isSome
      observedLogicalButtons := report.observedLogicalButtons
      keyObservationAvailable := report.observedPressedKeys.isSome
      ownedButtonsProvenReleased := report.residualOwnedButtons.isEmpty
      ownedKeysProvenReleased := report.residualOwnedKeys.isEmpty
      temporaryMappingRestoreAttempted := report.temporaryMappingRestoreAttempted
      temporaryMappingRestoreProven := report.temporaryMappingRestoreProven
      succeeded := report.succeeded }
  | .redactedKeyboard redacted => .redactedKeyboard redacted

def fromControlReport (report : CleanupReport) : InputCleanupEvidence :=
  let exposesKeyIdentity := (report.observedPressedKeys.any fun keys => !keys.isEmpty) ||
    !report.residualOwnedKeys.isEmpty
  if exposesKeyIdentity then (InputCleanupEvidence.detailed report).redactKeyboard else .detailed report

end InputCleanupEvidence

inductive InputOutcomeKind where
  | completed
  | cancelledAfterEffect
  | deadlineExceededAfterEffect

structure InputOutcome where
  commandId : CommandId
  kind : InputOutcomeKind
  eventsEmitted : Nat
  completedUnits : Nat
  requestedPointer : Option RootPoint
  observedPointer : Option RootPoint
  observedLogicalButtons : Option (Vector Bool 5)
  buttonObservationPartial : Bool
  effects : InputEffectEvidence
  keyboard : Option KeyboardOutcomeEvidence

inductive InputFailureKind where
  | cancelledBeforeEffect
  | deadlineExceededBeforeEffect
  | healthRejected
  | targetStale
  | focusLost
  | preconditionUnavailable
  | stateRejected
  | unsupportedOperation
  | unsupportedByBackend
  | modifierConflict
  | modifierConflictAfterEffect
  | textNotRepresentable
  | keyboardMappingChangedBeforeEffect
  | keyboardMappingChangedAfterEffect
  | temporaryMappingInstallFailed
  | temporaryMappingRestoreFailed
  | backendUnavailable
  | checkedRequestFailed
  | barrierFailed
  | postconditionFailed
  | buttonMappingChangedAfterEffect
  | resetFailed
  | actorStopped
  | controlQueueFull
  | actorPanicked
deriving DecidableEq

structure InputFailure where
  commandId : Option CommandId
  kind : InputFailureKind
  eventsEmitted : Nat
  completedUnits : Nat
  progressKnown : Bool
  requestedPointer : Option RootPoint
  lastObservedPointer : Option RootPoint
  observedLogicalButtons : Option (Vector Bool 5)
  buttonObservationPartial : Bool
  effects : Option InputEffectEvidence
  cleanup : Option InputCleanupEvidence
  keyboard : Option KeyboardOutcomeEvidence

inductive ActorThreadState where
  | starting
  | running
  | stopped
  | panicked
deriving DecidableEq

structure InputHealthSnapshot where
  input : InputHealth
  thread : ActorThreadState
  buttonMapping : Option ButtonMapping
  minKeycode : UInt8
  maxKeycode : UInt8
  keyboardModel : KeyboardModelDiagnostics

inductive ControlOutcome where
  | probe (snapshot : InputHealthSnapshot)
  | reset (cleanup : InputCleanupEvidence)
  | shutdown (cleanup : InputCleanupEvidence)

end Xenoteer
