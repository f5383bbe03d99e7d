/-
The calls of the input engine (`input/execute.rs`): an operation, a probe, a
reset of everything that may be down, and the cleanup after an unwinding.
-/
import Xenoteer.Input.Pointer
import Xenoteer.Input.Keyboard

namespace Xenoteer

open Lib Prog

namespace InputEngine

variable (env : Environment) {ε φ α : Type}

/-! ## Failures -/

section

variable (s : InputEngine)

section

variable (context : ActionContext)

def failureBefore (kind : InputFailureKind) (requestedPointer : Option RootPoint) : InputFailure :=
  { commandId := some context.commandId, kind, eventsEmitted := 0, completedUnits := 0
    progressKnown := true, requestedPointer, lastObservedPointer := s.lastPointer
    observedLogicalButtons := none, buttonObservationPartial := false, effects := none
    cleanup := none, keyboard := none }

def invariantFailure (requestedPointer : Option RootPoint) : InputFailure :=
  { s.failureBefore context .actorPanicked requestedPointer with progressKnown := false }

def actorFailure (kind : InputFailureKind) (cleanup : Option CleanupReport) : InputFailure :=
  { commandId := none, kind, eventsEmitted := 0, completedUnits := 0
    progressKnown := kind ≠ .actorPanicked, requestedPointer := none
    lastObservedPointer := s.lastPointer, observedLogicalButtons := none
    buttonObservationPartial := false, effects := none
    cleanup := cleanup.map .fromControlReport, keyboard := none }

def finishFailure (error : ActionError) (effects : Option EffectJournal)
    (cleanup : Option InputCleanupEvidence) : InputFailure :=
  { commandId := some context.commandId, kind := error.kind, eventsEmitted := error.eventsEmitted
    completedUnits := error.completedUnits, progressKnown := error.progressKnown
    requestedPointer := error.requestedPointer, lastObservedPointer := error.lastObservedPointer
    observedLogicalButtons := error.observedButtons
    buttonObservationPartial := error.buttonObservationPartial
    effects := effects.map .journal, cleanup, keyboard := none }

def keyboardDiagnostics (redactScalar : Bool) : KeyboardModelDiagnostics :=
  let diagnostics := env.diagnostics s.trace
  if redactScalar || s.pendingKeyboardRestore.isSome then { diagnostics with keymapFingerprint := none }
  else diagnostics

def keyboardOutcomeEvidence (progress : KeyboardProgress) : KeyboardOutcomeEvidence :=
  { model := s.keyboardDiagnostics env progress.redactScalarEvidence, bindings := progress.bindings
    textScalarCount := progress.textScalarCount, requestedTextMode := progress.requestedTextMode
    currentLayoutScalars := progress.currentLayoutScalars
    temporaryMappingScalars := progress.temporaryMappingScalars
    temporaryMappingsInstalled := progress.temporaryMappingsInstalled
    temporaryMappingsRestored := progress.temporaryMappingsRestored
    temporaryMappingRestorationProven := progress.temporaryMappingRestorationProven }

def keyboardRunFailure (error : KeyboardRunError)
    (effects : Option EffectJournal) (cleanup : Option InputCleanupEvidence) : InputFailure :=
  let progress := error.progress
  { commandId := some context.commandId, kind := error.kind, eventsEmitted := progress.eventsEmitted
    completedUnits := progress.completedUnits, progressKnown := error.progressKnown
    requestedPointer := none, lastObservedPointer := progress.pointer.map (·.pointer)
    observedLogicalButtons := progress.pointer.map (·.logicalButtons)
    buttonObservationPartial := false
    effects := effects.map (.fromJournal · progress.redactScalarEvidence)
    cleanup := cleanup.map fun cleanup =>
      if progress.redactScalarEvidence then cleanup.redactKeyboard else cleanup
    keyboard := some (s.keyboardOutcomeEvidence env progress) }

end

def snapshot (thread : ActorThreadState) : InputHealthSnapshot :=
  { input := s.state.health, thread, buttonMapping := some s.buttonMapping, minKeycode := s.minKeycode
    maxKeycode := s.maxKeycode, keyboardModel := s.keyboardDiagnostics env false }

/-! ## Reset -/

def cleanupButtons (actions : List CleanupAction) : List PhysicalButton :=
  actions.filterMap fun
    | .releaseButton button => some button
    | .releaseKey _ _ => none

def cleanupKeys (actions : List CleanupAction) : List PhysicalKey :=
  actions.filterMap fun
    | .releaseButton _ => none
    | .releaseKey key _ => some key

/-- The release of one member of the cleanup set. What the state does not own
is released as well but not recorded. -/
def plannedRelease : CleanupAction → PlannedEvent
  | .releaseButton button =>
    { backend := .button button false 0
      effect := if button ∈ s.state.pressedButtons then .buttonRelease button false
        else .untrackedRelease }
  | .releaseKey key _ =>
    { backend := .key key false 0
      effect := if s.ownsKey key then .keyRelease key else .untrackedRelease }

end

/-- What the release pass of a reset found. -/
structure ReleaseEvidence where
  batch : Except BatchFailure BatchSuccess
  keys : Option (List PhysicalKey)
  keyFault : Option BackendFault

namespace ReleaseEvidence

def failureKind (evidence : ReleaseEvidence) : Option BatchFailureKind :=
  match evidence.batch with
  | .ok _ => none
  | .error failure => some failure.kind

def attempted (evidence : ReleaseEvidence) : Nat :=
  match evidence.batch with
  | .ok batch => batch.attempted
  | .error failure => failure.attempted

def pointer (evidence : ReleaseEvidence) : Option PointerObservation :=
  match evidence.batch with
  | .ok batch => some batch.observation
  | .error failure => failure.observation

/-- The requests passed their checks. -/
def requestsValid (evidence : ReleaseEvidence) : Bool := evidence.failureKind.isNone

end ReleaseEvidence

/-- The mask bit of a button, when it has one. -/
def observedButton (mapping : ButtonMapping) (observation : PointerObservation) (button : PhysicalButton) :
    Option Bool :=
  (mapping.logicalFor button).bind (maskBit observation.logicalButtons)

/-- No released button is observed down. -/
def buttonsValid (mapping : ButtonMapping) (pointer : Option PointerObservation)
    (buttons : List PhysicalButton) : Bool :=
  pointer.any fun observation =>
    buttons.all fun button => observedButton mapping observation button ≠ some true

/-- The buttons no mask bit tells about, up to the first one observed down. -/
def unobservableButtons (mapping : ButtonMapping) (pointer : Option PointerObservation)
    (buttons : List PhysicalButton) : List PhysicalButton :=
  match pointer with
  | none => []
  | some observation =>
    (buttons.takeWhile fun button => observedButton mapping observation button ≠ some true).filter
      fun button => observedButton mapping observation button = none

def keysValid (evidence : ReleaseEvidence) (keys : List PhysicalKey) : Bool :=
  keys.isEmpty || evidence.keys.any fun pressed => keys.all (· ∉ pressed)

/-- A failed key query matters when keys were released or the connection is
lost. -/
def keyRequestValid (evidence : ReleaseEvidence) (keys : List PhysicalKey) : Bool :=
  evidence.keyFault.all fun fault => keys.isEmpty && fault.kind ≠ .connection

/-- The key query of a reset, unless the connection or the state is gone. -/
def queryKeys (batch : Except BatchFailure BatchSuccess) : EngineM ε ReleaseEvidence := do
  let failureKind := ReleaseEvidence.failureKind ⟨batch, none, none⟩
  if failureKind = some .connection || failureKind = some .state then return ⟨batch, none, none⟩
  else
    match ← observeKeysNoted env with
    | .ok keys => return ⟨batch, some keys, none⟩
    | .error fault =>
      applyConnectionFault fault
      return ⟨batch, none, some fault⟩

def panicIf (condition : Bool) : EngineM ε Unit := if condition then markPanicked else pure ()

structure ResetProgress where
  proofSucceeded : Bool
  invariantFailed : Bool
  confirmedBatch : Bool := false

/-- A retry on a poisoned engine may leave its batch behind. Returns whether
it did, and whether an invariant failed. -/
def abandonPoisoned (applies : Bool) (evidence : ReleaseEvidence) (invariantFailed : Bool) :
    EngineM ε (Bool × Bool) := do
  if applies && evidence.failureKind ≠ some .state then
    match ← onState (·.abandonPoisonedResetBatch) with
    | .ok () => return (true, invariantFailed)
    | .error e =>
      if e = .noPendingBatch && !evidence.requestsValid then return (true, invariantFailed)
      else
        markPanicked
        return (false, true)
  else return (false, invariantFailed)

/-- A refused operation of the state is a broken invariant. -/
def orPanic (progress : ResetProgress) (result : Except InputStateError α) : EngineM ε ResetProgress :=
  match result with
  | .ok _ => pure progress
  | .error _ => do
    markPanicked
    return { progress with invariantFailed := true }

/-- The batch of a reset is confirmed, or failed when the observations speak
against it. -/
def settleReset (poisonedRetryFailure : Bool) (releaseCount : Nat) (evidence : ReleaseEvidence)
    (progress : ResetProgress) : EngineM ε ResetProgress := do
  let (abandoned, invariantFailed) ←
    abandonPoisoned (poisonedRetryFailure && 0 < releaseCount) evidence progress.invariantFailed
  let progress := { progress with invariantFailed }
  if progress.proofSucceeded then
    if 0 < releaseCount then
      match ← confirmBatch with
      | .ok () => return { progress with confirmedBatch := true }
      | .error _ =>
        markPanicked
        return { progress with proofSucceeded := false, invariantFailed := true }
    else return { progress with confirmedBatch := true }
  else if poisonedRetryFailure && (abandoned || releaseCount = 0) then return progress
  else if evidence.requestsValid && 0 < releaseCount then
    (onState (·.failBatch .postconditionFailed)) >>= orPanic progress
  else if evidence.requestsValid then
    (onState (·.transitionHealth (.requireReset .postconditionFailed))) >>= orPanic progress
  else return progress

/-- The keyboard mapping is written back, whatever the releases came to. -/
def restoreInReset (attempted : Bool) (progress : ResetProgress) :
    EngineM ε (ResetProgress × Option InputFailureKind) := do
  if attempted then
    match ← attempt (restorePendingKeyboardMapping env {}) with
    | .ok _ => return (progress, none)
    | .error e => return ({ progress with proofSucceeded := false }, some e.kind)
  else return (progress, none)

/-- The health transition a reset ends with. -/
def resetTransition (healthBefore current : InputHealth) (serviceRecovered : Bool) : Option HealthEvent :=
  if serviceRecovered then
    match healthBefore with
    | .resetRequired _ => some .resetSucceeded
    | _ => none
  else
    match current with
    | .resetRequired _ => some .resetFailed
    | _ => none

def isPoisonedHealth : InputHealth → Bool
  | .poisoned _ => true
  | _ => false

/-- The end of a reset. Returns whether the service recovered. -/
def concludeReset (healthBefore : InputHealth) (progress : ResetProgress) :
    EngineM ε (ResetProgress × Bool) := do
  let serviceRecovered := progress.proofSucceeded && !isPoisonedHealth healthBefore
  let s ← read
  let event := if progress.invariantFailed then none
    else resetTransition healthBefore s.state.health serviceRecovered
  let transition ← (match event with
    | none => pure (.ok ())
    | some event => onState (·.transitionHealth event))
  let broken : ResetProgress := { progress with proofSucceeded := false, invariantFailed := true }
  panicIf (!transition.isOk)
  match ← onState InputState.finishAction with
  | .ok _ =>
    return if transition.isOk then (progress, serviceRecovered) else (broken, false)
  | .error _ =>
    markPanicked
    let _ ← onState InputState.finishAction
    return (broken, false)

/-- A list with the new elements of another behind it. -/
def appendNew [DecidableEq α] (first second : List α) : List α :=
  second.foldl (fun all a => if a ∈ all then all else all ++ [a]) first

def cleanupReport (s : InputEngine) (evidence : ReleaseEvidence) (unobservable : List PhysicalButton)
    (confirmed : Nat) (restoreAttempted restoreProven succeeded : Bool) : CleanupReport :=
  let residual := s.conservativeCleanupActions
  { attempted := evidence.attempted, confirmed
    observedLogicalButtons := evidence.pointer.map (·.logicalButtons)
    unobservableButtons := unobservable, observedPressedKeys := evidence.keys
    residualOwnedButtons := appendNew s.state.pressedButtons (cleanupButtons residual)
    residualOwnedKeys := appendNew (s.state.pressedKeys.map (·.key)) (cleanupKeys residual)
    temporaryMappingRestoreAttempted := restoreAttempted
    temporaryMappingRestoreProven := restoreProven, succeeded }

/-- The releases of a reset, sent and read back. -/
def releaseOwned (cleanup : List CleanupAction) : EngineM ε ReleaseEvidence := do
  let s ← read
  let batch ← attempt (runBatch env (cleanup.map s.plannedRelease) (!(cleanupButtons cleanup).isEmpty) false)
  panicIf (ReleaseEvidence.failureKind ⟨batch, none, none⟩ = some .state)
  queryKeys env batch

def answerReset (progress : ResetProgress) (serviceRecovered : Bool)
    (restoreFailure : Option InputFailureKind)
    (report : CleanupReport) : EngineM InputFailure CleanupReport := do
  let s ← read
  if progress.invariantFailed then fail (s.actorFailure .actorPanicked (some report))
  else match restoreFailure with
    | some kind => fail (s.actorFailure kind (some report))
    | none =>
      if serviceRecovered then return report else fail (s.actorFailure .resetFailed (some report))

/-- A reset whose action has begun. -/
def runReset (healthBefore : InputHealth) : EngineM InputFailure CleanupReport := do
  let begun ← read
  let cleanup := begun.conservativeCleanupActions
  let restoreAttempted := begun.pendingKeyboardRestore.isSome
  let releaseCount := (planCleanup begun.state).length
  let evidence ← releaseOwned env cleanup
  let s ← read
  let buttons := cleanupButtons cleanup
  let keys := cleanupKeys cleanup
  let proof := evidence.requestsValid && buttonsValid s.buttonMapping evidence.pointer buttons &&
    keysValid evidence keys && keyRequestValid evidence keys
  let progress ← settleReset (isPoisonedHealth healthBefore && !proof) releaseCount evidence
    { proofSucceeded := proof
      invariantFailed := evidence.failureKind = some .state || s.actorPanicked }
  let (progress, restoreFailure) ← restoreInReset env restoreAttempted progress
  let (progress, serviceRecovered) ← concludeReset healthBefore progress
  let report := (← read).cleanupReport evidence
    (unobservableButtons s.buttonMapping evidence.pointer buttons)
    (if progress.confirmedBatch then cleanup.length else 0) restoreAttempted
    (restoreAttempted && restoreFailure.isNone) progress.proofSucceeded
  update fun s => if progress.proofSucceeded then
    { s with capturedKeys := [], synthesizedModifiers := [] } else s
  answerReset progress serviceRecovered restoreFailure report

def resetOwnedInput : EngineM InputFailure CleanupReport := do
  let healthBefore := (← read).state.health
  mark (.resetStarted healthBefore)
  match ← onState (·.beginAction .reset) with
  | .error _ =>
    markPanicked
    let _ ← onState InputState.finishAction
    let s ← read
    fail (s.actorFailure .actorPanicked none)
  | .ok () => runReset env healthBefore

/-! ## Operations -/

section

variable (context : ActionContext)

def failBefore (kind : InputFailureKind) (requested : Option RootPoint) : EngineM InputFailure α := do
  let s ← read
  fail (s.failureBefore context kind requested)

def stopFailureKind : BoundaryStop → InputFailureKind
  | .cancelled => .cancelledBeforeEffect
  | .deadline => .deadlineExceededBeforeEffect

section

variable (requested : Option RootPoint)

def refuseIfStopped : EngineM InputFailure Unit := do
  match ← boundaryStop env context.deadline with
  | some stopped => failBefore context (stopFailureKind stopped) requested
  | none => return ()

def drainBefore : EngineM InputFailure Unit := do
  match ← drainEvents env with
  | .ok () => return ()
  | .error fault =>
    applyBackendFault fault
    failBefore context (backendPublicKind fault) requested

def requireHealthy : EngineM InputFailure Unit := do
  if (← read).state.health ≠ .healthy then failBefore context .healthRejected requested else return ()

/-- Whether the transition makes sense for what is owned. -/
def preflight (s : InputEngine) : InputAction → Except InputFailureKind Unit
  | .button button direction false =>
    let owned : Bool := button ∈ s.state.pressedButtons
    if (direction = .down && owned) || (direction = .up && !owned) then .error .stateRejected else .ok ()
  | _ => .ok ()

def checkPrecondition (hasPrecondition : Bool) (requested : Option RootPoint) :
    EngineM InputFailure Unit := do
  match ← attempt (evaluatePrecondition env hasPrecondition) with
  | .ok () => return ()
  | .error kind => failBefore context kind requested

/-- An action is run and finished. An action that cannot be finished is a
broken invariant; its journal is what a second try gives. -/
def performAction (run : EngineM φ α) :
    EngineM ε (Except φ α × Except (Option EffectJournal) EffectJournal) := do
  let result ← attempt run
  let s ← read
  mark (.actionEnded (!result.isOk) s.state.health)
  match ← onState InputState.finishAction with
  | .ok journal => return (result, .ok journal)
  | .error _ =>
    markPanicked
    let again ← onState InputState.finishAction
    return (result, .error again.toOption)

def beginOrdinary : EngineM InputFailure Unit := do
  match ← onState (·.beginAction .ordinary) with
  | .ok () => return ()
  | .error _ =>
    markPanicked
    let _ ← onState InputState.finishAction
    let s ← read
    fail (s.invariantFailure context requested)

end

/-- The cleanup after a failed action, when its failure asks for one. -/
def cleanupAfter (kind : InputFailureKind) : EngineM ε (Option InputCleanupEvidence) := do
  if kind = .actorPanicked || (← read).state.health = .healthy then return none
  else
    match ← attempt (resetOwnedInput env) with
    | .ok report => return some (.fromControlReport report)
    | .error failure => return failure.cleanup

/-- How an action that ran to its end is reported. Without an effect a stop
is a failure. -/
def outcomeKind (stopped : Option BoundaryStop) (eventsEmitted : Nat) :
    Except InputFailureKind InputOutcomeKind :=
  match stopped, eventsEmitted with
  | none, _ => .ok .completed
  | some stopped, 0 => .error (stopFailureKind stopped)
  | some .cancelled, _ => .ok .cancelledAfterEffect
  | some .deadline, _ => .ok .deadlineExceededAfterEffect

def actionOutcome (kind : InputOutcomeKind) (progress : ActionProgress)
    (journal : EffectJournal) : InputOutcome :=
  { commandId := context.commandId, kind, eventsEmitted := progress.eventsEmitted
    completedUnits := progress.completedUnits, requestedPointer := progress.requestedPointer
    observedPointer := progress.observedPointer, observedLogicalButtons := progress.observedButtons
    buttonObservationPartial := progress.buttonObservationPartial, effects := .journal journal
    keyboard := none }

/-- A stop before the first effect. -/
def actionStopped (kind : InputFailureKind) (progress : ActionProgress)
    (journal : EffectJournal) : InputFailure :=
  finishFailure context { progress.error kind with eventsEmitted := 0, completedUnits := 0 }
    (some journal) none

def answerAction (result : Except ActionError ActionProgress)
    (finished : Except (Option EffectJournal) EffectJournal) : EngineM InputFailure InputOutcome := do
  match result, finished with
  | .ok progress, .error effects =>
    fail (finishFailure context (progress.error .actorPanicked) effects none)
  | .error e, .error effects =>
    fail (finishFailure context { e with kind := .actorPanicked, progressKnown := false } effects none)
  | .ok progress, .ok journal =>
    match outcomeKind progress.stopped progress.eventsEmitted with
    | .error kind => fail (actionStopped context kind progress journal)
    | .ok kind => return actionOutcome context kind progress journal
  | .error e, .ok journal =>
    let cleanup ← cleanupAfter env e.kind
    fail (finishFailure context e (some journal) cleanup)

def executePreparedAction (action : InputAction) (hasPrecondition : Bool)
    (staged : Option WindowClickRevalidation) : EngineM InputFailure InputOutcome := do
  let requested := requestedPointerAction action
  refuseIfStopped env context requested
  drainBefore env context requested
  refuseIfStopped env context requested
  requireHealthy context requested
  match action, preflight (← read) action with
  | .key, _ => failBefore context .unsupportedOperation requested
  | _, .error kind => failBefore context kind requested
  | action, .ok () =>
    checkPrecondition env context hasPrecondition requested
    beginOrdinary context requested
    let (result, finished) ← performAction (runAction env action context.deadline staged)
    answerAction env context result finished

/-- The pointer before a planned movement. -/
def observeStart (requested : Option RootPoint) : EngineM InputFailure RootPoint := do
  match ← observePointer env with
  | .error fault =>
    applyBackendFault fault
    failBefore context (backendPublicKind fault) requested
  | .ok observation =>
    update (notePointer observation)
    return observation.pointer

def resolvePointerEndpoint (endpoint : PointerEndpoint) : EngineM InputFailure (RootPoint × RootPoint) := do
  let requested := match endpoint with
    | .root target => some target
    | .relative _ => none
  refuseIfStopped env context requested
  drainBefore env context requested
  requireHealthy context requested
  let start ← observeStart env context requested
  match endpoint with
  | .root target => return (start, target)
  | .relative delta =>
    match start.checkedAdd delta with
    | some target => return (start, target)
    | none => failBefore context .stateRejected none

/-- A value built from the request, or a rejection. -/
def orReject (requested : Option RootPoint) (result : Except φ α) : EngineM InputFailure α :=
  match result with
  | .ok value => pure value
  | .error _ => failBefore context .stateRejected requested

/-- The same steps as for a click or drag endpoint at the target. -/
def executePointerMove (request : PointerMoveRequest) (hasPrecondition : Bool) :
    EngineM InputFailure InputOutcome := do
  let (start, target) ← resolvePointerEndpoint env context (.root request.target)
  let plan ← orReject context (some target) (planMotion env.arithmetic start target request.options)
  executePreparedAction env context (.move plan) hasPrecondition none

def executePointerMoveRelative (request : PointerMoveRelativeRequest)
    (hasPrecondition : Bool) : EngineM InputFailure InputOutcome := do
  let (start, target) ← resolvePointerEndpoint env context (.relative request.delta)
  let plan ← orReject context (some target) (planMotion env.arithmetic start target request.options)
  executePreparedAction env context (.move plan) hasPrecondition none

def clickMotion (request : PointerClickRequest) : EngineM InputFailure (Option MotionPlan) := do
  match request.endpoint with
  | none => return none
  | some endpoint =>
    let (start, target) ← resolvePointerEndpoint env context endpoint
    let plan ← orReject context (some target) (planMotion env.arithmetic start target request.options)
    return some plan

def executePointerClick (request : PointerClickRequest) (hasPrecondition : Bool) :
    EngineM InputFailure InputOutcome := do
  let movement ← clickMotion env context request
  let action ← orReject context (movement.map (·.endPoint))
    (ClickAction.new movement request.button request.count request.preClickDwellMs request.pressDurationMs
      request.interClickIntervalMs defaultDoubleClickThresholdMs)
  executePreparedAction env context (.click action) hasPrecondition none

def executePointerDrag (request : PointerDragRequest) (hasPrecondition : Bool) :
    EngineM InputFailure InputOutcome := do
  let (start, target) ← resolvePointerEndpoint env context request.endpoint
  let movement ← orReject context (some target) (planMotion env.arithmetic start target request.options)
  let action ← orReject context (some target)
    (DragAction.new movement request.button request.pressDwellMs request.releaseDwellMs)
  executePreparedAction env context (.drag action) hasPrecondition none

/-- The check runs once here and again before each press. -/
def executeWindowPointerClick (request : WindowPointerClickRequest)
    (hasPrecondition : Bool) : EngineM InputFailure InputOutcome := do
  refuseIfStopped env context none
  drainBefore env context none
  requireHealthy context none
  match ← attempt (resolveWindowClickTarget env request) with
  | .error kind => failBefore context kind none
  | .ok target =>
    let start ← observeStart env context (some target)
    let movement ← orReject context (some target) (planMotion env.arithmetic start target request.options)
    let action ← orReject context (some target)
      (ClickAction.new (some movement) request.button request.count request.preClickDwellMs
        request.pressDurationMs request.interClickIntervalMs defaultDoubleClickThresholdMs)
    checkPrecondition env context hasPrecondition (some target)
    executePreparedAction env context (.click action) false (some ⟨request, target, hasPrecondition⟩)

def keyboardOutcome (s : InputEngine) (context : ActionContext) (kind : InputOutcomeKind)
    (progress : KeyboardProgress) (journal : EffectJournal) : InputOutcome :=
  { commandId := context.commandId, kind, eventsEmitted := progress.eventsEmitted
    completedUnits := progress.completedUnits, requestedPointer := none
    observedPointer := progress.pointer.map (·.pointer)
    observedLogicalButtons := progress.pointer.map (·.logicalButtons), buttonObservationPartial := false
    effects := .fromJournal journal progress.redactScalarEvidence
    keyboard := some (s.keyboardOutcomeEvidence env progress) }

/-- The answer to a keyboard action that ran. -/
def answerKeyboard (result : Except KeyboardRunError KeyboardProgress)
    (finished : Except (Option EffectJournal) EffectJournal) : EngineM InputFailure InputOutcome := do
  let s ← read
  match result, finished with
  | .ok progress, .error effects =>
    fail (s.keyboardRunFailure env context (progress.failure .actorPanicked) effects none)
  | .error e, .error effects =>
    fail (s.keyboardRunFailure env context (e.progress.failure .actorPanicked) effects none)
  | .ok progress, .ok journal =>
    match outcomeKind progress.stopped progress.eventsEmitted with
    | .error kind => fail (s.keyboardRunFailure env context (progress.failure kind) (some journal) none)
    | .ok kind => return s.keyboardOutcome env context kind progress journal
  | .error e, .ok journal =>
    let cleanup ← cleanupAfter env e.kind
    let s ← read
    fail (s.keyboardRunFailure env context e (some journal) cleanup)

def executeKeyboard (action : KeyboardAction) (hasPrecondition : Bool) :
    EngineM InputFailure InputOutcome := do
  refuseIfStopped env context none
  drainBefore env context none
  refuseIfStopped env context none
  let s ← read
  if s.state.health ≠ .healthy || s.pendingKeyboardRestore.isSome then
    failBefore context .healthRejected none
  else
    checkPrecondition env context hasPrecondition none
    beginOrdinary context none
    mark .keyboardStarted
    let (result, finished) ← performAction (runKeyboardAction env action context.deadline)
    answerKeyboard env context result finished

def executeOperationWithPrecondition (operation : InputOperation)
    (hasPrecondition : Bool) : EngineM InputFailure InputOutcome :=
  match operation with
  | .pointer action => executePreparedAction env context action hasPrecondition none
  | .pointerMove request => executePointerMove env context request hasPrecondition
  | .pointerMoveRelative request => executePointerMoveRelative env context request hasPrecondition
  | .pointerClick request => executePointerClick env context request hasPrecondition
  | .pointerDrag request => executePointerDrag env context request hasPrecondition
  | .windowPointerClick request => executeWindowPointerClick env context request hasPrecondition
  | .pointerScroll action => executePreparedAction env context (.scroll action) hasPrecondition none
  | .keyboard action => executeKeyboard env context action hasPrecondition

end

def failActor (kind : InputFailureKind) : EngineM InputFailure α := do
  let s ← read
  fail (s.actorFailure kind none)

/-- A model that is not there is not probed. -/
def probeModel : EngineM InputFailure Unit := do
  match ← synchronizePreflight env with
  | .ok _ => return ()
  | .error fault =>
    if fault.kind = .unavailable then return ()
    else
      let kind ← keyboardModelFailure fault false
      failActor kind

def probe : EngineM InputFailure InputHealthSnapshot := do
  match ← drainEvents env with
  | .error fault =>
    applyBackendFault fault
    failActor (backendPublicKind fault)
  | .ok () =>
    probeModel env
    match ← observePointer env with
    | .error fault =>
      let kind ← barrierFault fault
      failActor kind
    | .ok observation =>
      update (notePointer observation)
      let s ← read
      return s.snapshot env .running

/-! ## After an unwinding -/

/-- Every event is sent, whatever the earlier ones came to. Returns the
number accepted and whether all were. -/
def sendAll : List BackendEvent → Nat → Bool → EngineM ε (Nat × Bool)
  | [], accepted, allOk => pure (accepted, allOk)
  | event :: rest, accepted, allOk => do
    match ← sendEvent env event with
    | .ok () => sendAll rest (accepted + 1) allOk
    | .error _ => sendAll rest accepted false

/-- Releases that are sent and checked without the state. -/
def emergencyRelease (events : List BackendEvent) : EngineM ε Bool := do
  let (accepted, sent) ← sendAll env events 0 true
  let check ← checkCookies env 0 accepted none
  return sent && check.isNone

def reconcileButtons (observation : PointerObservation) (s : InputEngine) : InputEngine :=
  { s with
    sentPressLedger := s.sentPressLedger.reconcileButtons s.buttonMapping observation.logicalButtons }

def emergencyReleaseButtons : EngineM ε Bool := do
  let buttons := cleanupButtons (← read).conservativeCleanupActions
  let requestsOk ← emergencyRelease env (buttons.map (.button · false 0))
  match ← observePointer env with
  | .error _ => return false
  | .ok observation =>
    update (reconcileButtons observation)
    let s ← read
    return requestsOk && buttons.all fun button =>
      observedButton s.buttonMapping observation button = some false

def emergencyReleaseKeys (modifier : Bool) : EngineM ε Bool := do
  let keys := cleanupKeys ((← read).conservativeCleanupActions.filter (CleanupAction.isKey modifier))
  let requestsOk ← emergencyRelease env (keys.map (.key · false 0))
  match ← observeKeysNoted env with
  | .error _ => return false
  | .ok pressed => return requestsOk && keys.all (· ∉ pressed)

/-- A stage that unwinds counts as failed, and the next one runs. -/
def stage (x : EngineM Empty Bool) : EngineM ε Bool := do
  match ← catchUnwind x with
  | some (.ok done) => return done
  | _ => return false

def emergencyRestore : EngineM ε Bool := do
  match ← attempt (restorePendingKeyboardMapping env {}) with
  | .ok _ => return true
  | .error _ => return false

def emergencyCleanupAfterPanic : EngineM ε Bool := do
  let buttonsReleased ← stage (emergencyReleaseButtons env)
  let nonmodifiersReleased ← stage (emergencyReleaseKeys env false)
  let modifiersReleased ← stage (emergencyReleaseKeys env true)
  let mappingRestored ← stage (emergencyRestore env)
  return buttonsReleased && nonmodifiersReleased && modifiersReleased && mappingRestored

/-! ## Runs -/

inductive ControlKind where
  | probe
  | reset
  | shutdown

inductive Call where
  | operation (command : InputCommand)
  | control (kind : ControlKind)

inductive Answer where
  | operation (result : Except InputFailure InputOutcome)
  | control (result : Except InputFailure ControlOutcome)

def control : ControlKind → EngineM InputFailure ControlOutcome
  | .probe => do return .probe (← probe env)
  | .reset => do return .reset (.fromControlReport (← resetOwnedInput env))
  | .shutdown => do return .shutdown (.fromControlReport (← resetOwnedInput env))

/-- The actor answers for a call that unwound. -/
def operationResult (s : InputEngine) (command : InputCommand) :
    Exit InputFailure InputOutcome → Except InputFailure InputOutcome
  | .ok outcome => .ok outcome
  | .error failure => .error failure
  | .unwound => .error { s.invariantFailure command.context (requestedPointer command.operation) with
      lastObservedPointer := none }

/-- A control request that succeeds on an engine that panicked is answered as failed. -/
def controlResult (s : InputEngine) : Exit InputFailure ControlOutcome → Except InputFailure ControlOutcome
  | .error failure => .error failure
  | .ok outcome => if s.actorPanicked then .error panicked else .ok outcome
  | .unwound => .error panicked
where
  panicked : InputFailure := { s.actorFailure .actorPanicked none with lastObservedPointer := none }

/-- The actor runs the emergency cleanup after a call that unwound, and after
one that returned and left the engine panicked. -/
def guarded (exit : Exit φ α) (s : InputEngine) : InputEngine :=
  match exit with
  | .unwound => ((do let _ ← emergencyCleanupAfterPanic env; markPanicked : EngineM Empty Unit).run s).2
  | _ => if s.actorPanicked then ((emergencyCleanupAfterPanic env : EngineM Empty Bool).run s).2 else s

def step (s : InputEngine) : Call → Answer × InputEngine
  | .operation command =>
    let (exit, s) := (executeOperationWithPrecondition env command.context command.operation
      command.hasPrecondition).run s
    (.operation (s.operationResult command exit), guarded env exit s)
  | .control kind =>
    let (exit, s) := (control env kind).run s
    (.control (s.controlResult exit), guarded env exit s)

end InputEngine

end Xenoteer
