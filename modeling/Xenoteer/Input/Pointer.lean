/-
Pointer actions (`run_action` of `input/execute.rs`): moves, clicks, drags,
scrolls and single button transitions, each a sequence of batches with the
places in between where the host may stop.
-/
import Xenoteer.Input.Batch

namespace Xenoteer

open Lib Prog

structure ActionError where
  kind : InputFailureKind
  eventsEmitted : Nat
  completedUnits : Nat
  requestedPointer : Option RootPoint
  lastObservedPointer : Option RootPoint
  observedButtons : Option (Vector Bool 5)
  buttonObservationPartial : Bool
  progressKnown : Bool

structure ActionProgress where
  eventsEmitted : Nat := 0
  completedUnits : Nat := 0
  requestedPointer : Option RootPoint := none
  observedPointer : Option RootPoint := none
  observedButtons : Option (Vector Bool 5) := none
  buttonObservationPartial : Bool := false
  stopped : Option BoundaryStop := none

namespace ActionProgress

section

variable (progress : ActionProgress)

def error (kind : InputFailureKind) : ActionError :=
  { kind, eventsEmitted := progress.eventsEmitted, completedUnits := progress.completedUnits
    requestedPointer := progress.requestedPointer, lastObservedPointer := progress.observedPointer
    observedButtons := progress.observedButtons
    buttonObservationPartial := progress.buttonObservationPartial
    progressKnown := kind ≠ .actorPanicked }

def stop (stopped : BoundaryStop) : ActionProgress := { progress with stopped := some stopped }

def observe (observation : PointerObservation) : ActionProgress :=
  { progress with
    observedPointer := some observation.pointer, observedButtons := some observation.logicalButtons }

def absorbBatchSuccess (batch : BatchSuccess) : ActionProgress :=
  { progress.observe batch.observation with eventsEmitted := progress.eventsEmitted + batch.sent }

def absorbBatchFailure (failure : BatchFailure) : ActionError :=
  let progress := { progress with eventsEmitted := progress.eventsEmitted + failure.sent }
  let progress := match failure.observation with
    | some observation => progress.observe observation
    | none => progress
  let progress :=
    if failure.kind = .mappingChanged then { progress with buttonObservationPartial := true } else progress
  progress.error failure.publicKind

end

end ActionProgress

/-- A window click that is checked again before each press. -/
structure WindowClickRevalidation where
  request : WindowPointerClickRequest
  expectedTarget : RootPoint
  hasPrecondition : Bool

def inputPreconditionFailureKind : InputPreconditionFailure → InputFailureKind
  | .targetStale => .targetStale
  | .focusLost => .focusLost
  | .unavailable => .preconditionUnavailable

/-- `XTEST_RELEASE_SETTLE_DELAY`. -/
def xtestReleaseSettleDelayMs : Nat := 25

namespace InputEngine

variable (env : Environment) {ε α : Type}

/-! ## Steps of an action -/

section

variable (progress : ActionProgress)

/-- A batch of an action; what it emitted counts also when it fails. -/
def runBatchFor (events : List PlannedEvent)
    (mappingSensitive confirmNow : Bool) : EngineM ActionError BatchSuccess :=
  mapError progress.absorbBatchFailure (runBatch env events mappingSensitive confirmNow)

def drainForAction : EngineM ActionError Unit := do
  match ← drainEvents env with
  | .ok () => return ()
  | .error fault =>
    applyBackendFault fault
    fail (progress.error (backendPublicKind fault))

/-- The physical button of a logical one in the current mapping. -/
def resolveButton (logical : LogicalButton) : EngineM ActionError PhysicalButton := do
  match (← read).buttonMapping.physicalFor logical with
  | .ok button => return button
  | .error _ => fail (progress.error .unsupportedByBackend)

def notePointer (observation : PointerObservation) (s : InputEngine) : InputEngine :=
  { s with lastPointer := some observation.pointer }

def requireObservedStart (plan : MotionPlan) (progress : ActionProgress) :
    EngineM ActionError ActionProgress := do
  match ← observePointer env with
  | .error fault =>
    let kind ← barrierFault fault
    fail (progress.error kind)
  | .ok observation =>
    update (notePointer observation)
    let progress := progress.observe observation
    failIf (observation.pointer ≠ plan.start) (progress.error .postconditionFailed)
    return progress

def confirmObservedBatch : EngineM ActionError Unit := do
  match ← confirmBatch with
  | .ok () => return ()
  | .error _ =>
    markPanicked
    fail (progress.error .actorPanicked)

def failObservedBatch : EngineM ActionError α := do
  match ← onState (·.failBatch .postconditionFailed) with
  | .ok () => fail (progress.error .postconditionFailed)
  | .error _ =>
    markPanicked
    fail (progress.error .actorPanicked)

end

/-- A release that the batch's observation does not show yet is awaited and
read back once. -/
def confirmDelayedButtonRelease (logical : LogicalButton) (releaseDelayMs : Nat)
    (progress : ActionProgress) : EngineM ActionError ActionProgress := do
  if progress.observedButtons.any (logicalButtonReleased logical) then return progress
  else
    waitForInputDelay env (max releaseDelayMs xtestReleaseSettleDelayMs)
    match ← observeNoted env with
    | .error fault =>
      let kind ← barrierFault fault
      fail (progress.error kind)
    | .ok observation =>
      let progress := progress.observe observation
      if logicalButtonReleased logical observation.logicalButtons then return progress
      else failObservedBatch progress

/-! ## Window clicks -/

/-- The rectangle that the coordinates of a window click are in. -/
def clickRect (geometry : WindowGeometryContext) : CoordinateSpace → Except InputFailureKind WindowRect
  | .windowClient => .ok geometry.window.clientRect
  | .windowFrame => match geometry.window.frameRect with
    | some frame => .ok frame
    | none => .error .unsupportedByBackend
  | .rootPhysical | .atspiScreen => .error .stateRejected

/-- The largest coordinate is that of the size, or `i32::MAX`. -/
def clampAxis (value : Int32) (extent : UInt32) : Int32 :=
  Int32.ofInt (max 0 (min value.toInt (min (extent.toNat - 1 : Int) i32Max)))

def isInside (point : Point) (size : Size) : Bool :=
  0 ≤ point.x.toInt && 0 ≤ point.y.toInt && point.x.toInt < size.width.toNat &&
    point.y.toInt < size.height.toNat

section

variable (request : WindowPointerClickRequest)

/-- The requested point under the bounds policy. -/
def clickPoint (size : Size) : Except InputFailureKind Point :=
  match request.boundsPolicy with
  | .reject => if isInside request.point size then .ok request.point else .error .stateRejected
  | .clamp => .ok ⟨clampAxis request.point.x size.width, clampAxis request.point.y size.height⟩
  | .allow => .ok request.point

def resolveErrorKind : WindowGeometryResolveError → InputFailureKind
  | .frameGeometryUnavailable | .unsupportedCoordinateSpace => .unsupportedByBackend
  | _ => .stateRejected

/-- The root point of a window-local click in the given geometry. -/
def resolveClickIn (geometry : WindowGeometryContext) : Except InputFailureKind RootPoint := do
  let selected ← clickRect geometry request.coordinateSpace
  let size ← selected.rect.size.mapError fun _ => .stateRejected
  let point ← clickPoint request size
  let resolved ← (geometry.resolveLocalPoint request.coordinateSpace point .allowOffscreen).mapError
    resolveErrorKind
  match RootPoint.new resolved.x.toInt resolved.y.toInt with
  | none => .error .stateRejected
  | some target =>
    if request.expectedRootTarget.any (· ≠ target) then .error .postconditionFailed else .ok target

/-- The same from live geometry. -/
def resolveWindowClickTarget : EngineM InputFailureKind RootPoint := do
  match ← ask (env.observeWindowGeometry · request.window) (.observeWindowGeometry request.window) with
  | .error fault =>
    applyBackendFault fault
    fail (backendPublicKind fault)
  | .ok geometry =>
    match resolveClickIn request geometry with
    | .ok target => return target
    | .error kind => fail kind

end

def evaluatePrecondition (hasPrecondition : Bool) : EngineM InputFailureKind Unit := do
  if hasPrecondition then
    match ← ask env.evaluatePrecondition .evaluatePrecondition with
    | .ok () => return ()
    | .error failure => fail (inputPreconditionFailureKind failure)
  else return ()

def revalidateWindowClick (staged : WindowClickRevalidation) (progress : ActionProgress) :
    EngineM ActionError ActionProgress := do
  let liveTarget ← mapError progress.error (resolveWindowClickTarget env staged.request)
  failIf (liveTarget ≠ staged.expectedTarget) (progress.error .postconditionFailed)
  match ← observePointer env with
  | .error fault =>
    applyBackendFault fault
    fail (progress.error (backendPublicKind fault))
  | .ok observation =>
    update (notePointer observation)
    let progress := progress.observe observation
    failIf (observation.pointer ≠ liveTarget) (progress.error .postconditionFailed)
    mapError progress.error (evaluatePrecondition env staged.hasPrecondition)
    return progress

def runWindowClickDwell (dwellMs : Nat) : EngineM ε Unit :=
  if 0 < dwellMs then waitForInputDelay env dwellMs else pure ()

/-- The dwell of a window click runs before its last check; the host may stop
after it. -/
def windowClickDwell (staged : Option WindowClickRevalidation) (dwellMs : Nat) (deadline : Option Instant)
    (progress : ActionProgress) : EngineM ActionError (Option BoundaryStop) := do
  match staged with
  | none => return none
  | some _ =>
    runWindowClickDwell env dwellMs
    drainForAction env progress
    boundaryStop env deadline

def windowClickCheck (staged : Option WindowClickRevalidation) (deadline : Option Instant)
    (progress : ActionProgress) : EngineM ActionError (ActionProgress × Option BoundaryStop) := do
  match staged with
  | none => return (progress, none)
  | some staged =>
    let progress ← revalidateWindowClick env staged progress
    let stop ← boundaryStop env deadline
    return (progress, stop)

/-! ## Actions -/

/-- The motion segments of a move or a click. `finish` is applied when the
last one is done. -/
def motionSegments (deadline : Option Instant) (finish : ActionProgress → ActionProgress) :
    Nat → List (List MotionSample) → ActionProgress → EngineM ActionError ActionProgress
  | _, [], progress => pure (finish progress)
  | index, segment :: rest, progress => do
    match ← (if 0 < index then boundaryStop env deadline else pure none) with
    | some stopped => return progress.stop stopped
    | none =>
      let batch ← runBatchFor env progress (motionSampleEvents segment) false true
      let progress := progress.absorbBatchSuccess batch
      if ← deadlineElapsed env deadline then
        return { (if rest.isEmpty then finish progress else progress) with stopped := some .deadline }
      else motionSegments deadline finish (index + 1) rest progress

def oneUnit (progress : ActionProgress) : ActionProgress := { progress with completedUnits := 1 }

def runMove (plan : MotionPlan) (deadline : Option Instant) : EngineM ActionError ActionProgress := do
  let progress ← requireObservedStart env plan { requestedPointer := some plan.endPoint }
  match ← boundaryStop env deadline with
  | some stopped => return progress.stop stopped
  | none =>
    if plan.eventCount = 0 then
      match ← observePointer env with
      | .ok observation =>
        update (notePointer observation)
        return oneUnit (progress.observe observation)
      | .error fault =>
        let kind ← barrierFault fault
        fail (progress.error kind)
    else motionSegments env deadline oneUnit 0 plan.segments progress

/-- The movement before a click. A stop ends the action. -/
def clickMovement (movement : Option MotionPlan) (deadline : Option Instant) (progress : ActionProgress) :
    EngineM ActionError ActionProgress := do
  match movement with
  | none => return progress
  | some movement =>
    let progress ← requireObservedStart env movement progress
    match ← boundaryStop env deadline with
    | some stopped => return progress.stop stopped
    | none =>
      let progress ← motionSegments env deadline id 0 movement.segments progress
      failIf (progress.stopped.isNone && progress.observedPointer ≠ some movement.endPoint)
        (progress.error .postconditionFailed)
      return progress

/-- Press and release, read back and confirmed. -/
def pressAndRelease (action : ClickAction) (button : PhysicalButton) (pressDelay : Nat)
    (deadline : Option Instant) (progress : ActionProgress) : EngineM ActionError ActionProgress := do
  let batch ← runBatchFor env progress (buttonPair button pressDelay action.pressDurationMs) true false
  let progress := progress.absorbBatchSuccess batch
  let progress ← confirmDelayedButtonRelease env action.logicalButton action.pressDurationMs progress
  confirmObservedBatch progress
  failIf (action.movement.any fun movement => batch.observation.pointer ≠ movement.endPoint)
    (progress.error .postconditionFailed)
  let progress := { progress with
    buttonObservationPartial := 5 < action.logicalButton.number
    completedUnits := progress.completedUnits + 1 }
  let stop ← deadlineStop env deadline
  return { progress with stopped := stop }

def clickOnce (action : ClickAction) (staged : Option WindowClickRevalidation) (index : Nat)
    (deadline : Option Instant) (progress : ActionProgress) : EngineM ActionError ActionProgress := do
  match ← boundaryStop env deadline with
  | some stopped => return progress.stop stopped
  | none =>
    drainForAction env progress
    match ← boundaryStop env deadline with
    | some stopped => return progress.stop stopped
    | none =>
      let delayMs := if index = 0 then action.preClickDwellMs else action.interClickIntervalMs
      match ← windowClickDwell env staged delayMs deadline progress with
      | some stopped => return progress.stop stopped
      | none =>
        let button ← resolveButton progress action.logicalButton
        let progress := { progress with buttonObservationPartial := 5 < action.logicalButton.number }
        failIf (decide (button ∈ (← read).state.pressedButtons)) (progress.error .stateRejected)
        let (progress, stop) ← windowClickCheck env staged deadline progress
        match stop with
        | some stopped => return progress.stop stopped
        | none =>
          pressAndRelease env action button (if staged.isSome then 0 else delayMs) deadline progress

def clicks (action : ClickAction) (staged : Option WindowClickRevalidation) (deadline : Option Instant) :
    Nat → ActionProgress → EngineM ActionError ActionProgress
  | 0, progress => pure progress
  | remaining + 1, progress => do
    let progress ← clickOnce env action staged (action.count - (remaining + 1)) deadline progress
    if progress.stopped.isSome then return progress
    else clicks action staged deadline remaining progress

def runClick (action : ClickAction) (staged : Option WindowClickRevalidation) (deadline : Option Instant) :
    EngineM ActionError ActionProgress := do
  let progress ← clickMovement env action.movement deadline
    { requestedPointer := action.movement.map (·.endPoint) }
  if progress.stopped.isSome then return progress
  else clicks env action staged deadline action.count progress

/-- The motion of a drag. It may stop before and after every segment; the
release follows in any case. The count is of the segments that were sent. -/
def dragSegments (deadline : Option Instant) :
    List (List MotionSample) → Nat → ActionProgress → EngineM ActionError (ActionProgress × Nat)
  | [], traversed, progress => pure (progress, traversed)
  | segment :: rest, traversed, progress => do
    match ← boundaryStop env deadline with
    | some stopped => return (progress.stop stopped, traversed)
    | none =>
      let batch ← runBatchFor env progress (motionSampleEvents segment) true true
      let progress := progress.absorbBatchSuccess batch
      match ← boundaryStop env deadline with
      | some stopped => return (progress.stop stopped, traversed + 1)
      | none => dragSegments deadline rest (traversed + 1) progress

def dragRelease (action : DragAction) (button : PhysicalButton) (traversedAll : Bool)
    (progress : ActionProgress) : EngineM ActionError ActionProgress := do
  let batch ← runBatchFor env progress [buttonEvent button false action.releaseDwellMs false] true false
  let progress := progress.absorbBatchSuccess batch
  let progress ← confirmDelayedButtonRelease env action.logicalButton action.releaseDwellMs progress
  confirmObservedBatch progress
  failIf (traversedAll && batch.observation.pointer ≠ action.movement.endPoint)
    (progress.error .postconditionFailed)
  return if traversedAll then oneUnit progress else progress

/-- The press of a drag and everything after it. -/
def dragPressed (action : DragAction) (button : PhysicalButton) (deadline : Option Instant)
    (progress : ActionProgress) : EngineM ActionError ActionProgress := do
  let batch ← runBatchFor env progress
    [buttonEvent button true 0 false, motionEvent action.movement.start action.pressDwellMs] true false
  let progress := progress.absorbBatchSuccess batch
  if logicalButtonPressed action.logicalButton batch.observation.logicalButtons then
    confirmObservedBatch progress
    let stop ← boundaryStop env deadline
    let progress := { progress with stopped := stop }
    let (progress, traversed) ← (if progress.stopped.isNone then
      dragSegments env deadline action.movement.segments 0 progress else pure (progress, 0))
    dragRelease env action button (traversed = action.movement.segments.length) progress
  else failObservedBatch progress

def runDrag (action : DragAction) (deadline : Option Instant) : EngineM ActionError ActionProgress := do
  let progress ← requireObservedStart env action.movement
    { requestedPointer := some action.movement.endPoint }
  drainForAction env progress
  match ← boundaryStop env deadline with
  | some stopped => return progress.stop stopped
  | none =>
    let button ← resolveButton progress action.logicalButton
    let progress := { progress with buttonObservationPartial := 5 < action.logicalButton.number }
    failIf (decide (button ∈ (← read).state.pressedButtons)) (progress.error .stateRejected)
    dragPressed env action button deadline progress

def scrollOnce (action : ScrollAction) (index : Nat) (deadline : Option Instant)
    (progress : ActionProgress) : EngineM ActionError ActionProgress := do
  match ← boundaryStop env deadline with
  | some stopped => return progress.stop stopped
  | none =>
    drainForAction env progress
    match ← boundaryStop env deadline with
    | some stopped => return progress.stop stopped
    | none =>
      let button ← resolveButton progress action.logicalButton
      let progress := { progress with buttonObservationPartial := 5 < action.logicalButton.number }
      failIf (decide (button ∈ (← read).state.pressedButtons)) (progress.error .stateRejected)
      let delay := if index = 0 then 0 else action.intervalMs
      let batch ← runBatchFor env progress (buttonPair button delay 0) true false
      let progress := progress.absorbBatchSuccess batch
      if logicalButtonReleased action.logicalButton batch.observation.logicalButtons then
        confirmObservedBatch progress
        let stop ← deadlineStop env deadline
        return { progress with completedUnits := progress.completedUnits + 1, stopped := stop }
      else failObservedBatch progress

def scrollNotches (action : ScrollAction) (deadline : Option Instant) :
    Nat → ActionProgress → EngineM ActionError ActionProgress
  | 0, progress => pure progress
  | remaining + 1, progress => do
    let progress ← scrollOnce env action (action.count - (remaining + 1)) deadline progress
    if progress.stopped.isSome then return progress
    else scrollNotches action deadline remaining progress

/-- The mask shows the button as the transition wants it. Without a mask bit,
or when the mapping changed, nothing is asked. -/
def buttonAsExpected (mapping : ButtonMapping) (mappingChanged : Bool) (button : PhysicalButton)
    (direction : ButtonDirection) (logicalButtons : Vector Bool 5) : Bool :=
  match if mappingChanged then none else mapping.logicalFor button with
  | none => true
  | some logical => match maskBit logicalButtons logical with
    | none => true
    | some pressed => pressed = (direction = .down)

def hasMaskBit (logical : Option UInt8) : Bool := logical.any fun number => 1 ≤ number && number ≤ 5

def runButton (button : PhysicalButton) (direction : ButtonDirection) (allowRedundant : Bool)
    (deadline : Option Instant) : EngineM ActionError ActionProgress := do
  match ← boundaryStop env deadline with
  | some stopped => return { stopped := some stopped }
  | none =>
    let before := (← read).buttonMapping.logicalFor button
    let progress : ActionProgress := { buttonObservationPartial := !hasMaskBit before }
    let batch ← runBatchFor env progress [buttonEvent button (direction = .down) 0 allowRedundant]
      false false
    let mapping := (← read).buttonMapping
    let logical := if batch.mappingChanged then none else mapping.logicalFor button
    let progress := { progress.absorbBatchSuccess batch with
      buttonObservationPartial := !hasMaskBit logical }
    if buttonAsExpected mapping batch.mappingChanged button direction batch.observation.logicalButtons then
      confirmObservedBatch progress
      let stop ← deadlineStop env deadline
      return { oneUnit progress with stopped := stop }
    else failObservedBatch progress

def runAction (action : InputAction) (deadline : Option Instant)
    (staged : Option WindowClickRevalidation) : EngineM ActionError ActionProgress :=
  match action with
  | .move plan => runMove env plan deadline
  | .click action => runClick env action staged deadline
  | .drag action => runDrag env action deadline
  | .scroll action => runScroll action
  | .button button direction allowRedundant => runButton env button direction allowRedundant deadline
  | .key => fail (({} : ActionProgress).error .unsupportedOperation)
where
  runScroll (action : ScrollAction) : EngineM ActionError ActionProgress :=
    scrollNotches env action deadline action.count {}

end InputEngine

end Xenoteer
