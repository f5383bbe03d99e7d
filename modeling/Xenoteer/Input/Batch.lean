/-
One batch of events (`input/execute.rs`): every event is noted in the ledger
and sent, the effects are recorded, the cookies are checked, then the pointer
is observed and the event queue drained. What cannot be proved to have
happened leaves the input state uncertain (`applyBatchUncertainty`).
-/
import Xenoteer.Input.Environment

namespace Xenoteer

open Lib Prog

inductive StateEffect where
  | motion (point : RootPoint)
  | buttonPress (button : PhysicalButton) (allowRedundant : Bool)
  | buttonRelease (button : PhysicalButton) (allowRedundant : Bool)
  | keyRelease (key : PhysicalKey)
  | keyPress (key : PhysicalKey) (modifier : Bool)
  | untrackedRelease
deriving DecidableEq

structure PlannedEvent where
  backend : BackendEvent
  effect : StateEffect

inductive BatchFailureKind where
  | connection
  | checkedRequest
  | barrier
  | mappingChanged
  | state
deriving DecidableEq

structure BatchSuccess where
  attempted : Nat
  sent : Nat
  observation : PointerObservation
  mappingChanged : Bool

structure BatchFailure where
  kind : BatchFailureKind
  attempted : Nat
  sent : Nat
  observation : Option PointerObservation

def BatchFailure.publicKind (failure : BatchFailure) : InputFailureKind :=
  match failure.kind with
  | .connection => .backendUnavailable
  | .checkedRequest => .checkedRequestFailed
  | .barrier => .barrierFailed
  | .mappingChanged => .buttonMappingChangedAfterEffect
  | .state => .actorPanicked

inductive BoundaryStop where
  | cancelled
  | deadline

/-! ## Planned events -/

def buttonEvent (button : PhysicalButton) (pressed : Bool) (delayMs : Nat) (allowRedundant : Bool) :
    PlannedEvent :=
  { backend := .button button pressed delayMs
    effect := if pressed then .buttonPress button allowRedundant else .buttonRelease button allowRedundant }

def buttonPair (button : PhysicalButton) (pressDelay releaseDelay : Nat) : List PlannedEvent :=
  [buttonEvent button true pressDelay false, buttonEvent button false releaseDelay false]

def motionEvent (point : RootPoint) (delayMs : Nat) : PlannedEvent :=
  { backend := .motion point delayMs, effect := .motion point }

def motionSampleEvents (samples : List MotionSample) : List PlannedEvent :=
  samples.map fun sample => motionEvent sample.point sample.delayMs

def keyPlannedEvent (key : PhysicalKey) (pressed : Bool) (delayMs : Nat) (modifier : Bool) : PlannedEvent :=
  { backend := .key key pressed delayMs
    effect := if pressed then .keyPress key modifier else .keyRelease key }

/-! ## The ledger -/

namespace SentPressLedger

section

variable (ledger : SentPressLedger)

/-- Presses are noted, before they are sent. -/
def note (event : PlannedEvent) : SentPressLedger :=
  match event.backend, event.effect with
  | .key key true _, .keyPress _ modifier =>
    { ledger with
      keys := ledger.keys.set key.keycode true
      modifierKeys :=
        if modifier then ledger.modifierKeys.set key.keycode true else ledger.modifierKeys }
  | .button button true _, .buttonPress _ _ =>
    { ledger with buttons := ledger.buttons.set button.detail true }
  | _, _ => ledger

/-- A noted key that was not observed pressed is up. -/
def reconcileKeys (pressed : List PhysicalKey) : SentPressLedger :=
  let isUp : UInt8 → Bool := fun detail =>
    minPhysicalKeycode ≤ detail && ledger.keys detail && !(pressed.any (·.keycode = detail))
  { ledger with
    keys := fun detail => ledger.keys detail && !isUp detail
    modifierKeys := fun detail => ledger.modifierKeys detail && !isUp detail }

/-- The mask shows the button up. -/
def shownUp (mapping : ButtonMapping) (logicalButtons : Vector Bool 5) (button : PhysicalButton) : Bool :=
  match mapping.logicalFor button with
  | some logical => maskBit logicalButtons logical = some false
  | none => false

/-- A noted button whose mask bit is clear is up. -/
def reconcileButtons (mapping : ButtonMapping) (logicalButtons : Vector Bool 5) : SentPressLedger :=
  { ledger with
    buttons := fun detail => ledger.buttons detail && !(match PhysicalButton.new detail with
        | .ok button => shownUp mapping logicalButtons button
        | .error _ => false) }

/-- The buttons a batch released are cleared. -/
def clearReleased (events : List PlannedEvent) : SentPressLedger :=
  events.foldl (fun ledger event =>
    match event.backend with
    | .button button false _ => { ledger with buttons := ledger.buttons.set button.detail false }
    | _ => ledger) ledger

end

end SentPressLedger

/-- Details from 255 down to `low`. -/
def detailsDown (low : Nat) : List UInt8 := ((List.range' low (256 - low)).reverse).map UInt8.ofNat

namespace InputEngine

variable {ε α : Type}

/-! ## Health -/

def transitionHealth (event : HealthEvent) (s : InputEngine) : InputEngine :=
  { s with state := (s.state.transitionHealth event).2 }

def markPanicked : EngineM ε Unit :=
  update fun s => { s.transitionHealth .actorPanicked with invariantFailed := true }

def actorPanicked (s : InputEngine) : Bool :=
  s.invariantFailed || s.state.health = .poisoned .actorPanicked

section

variable (fault : BackendFault)

def faultEvent : HealthEvent :=
  if fault.kind = .connection then .connectionLost else .requireReset .checkedRequestFailed

def applyBackendFault : EngineM ε Unit := update (transitionHealth (faultEvent fault))

/-- Only a lost connection counts. -/
def applyConnectionFault : EngineM ε Unit :=
  update fun s => if fault.kind = .connection then s.transitionHealth .connectionLost else s

def backendPublicKind : InputFailureKind :=
  if fault.kind = .connection then .backendUnavailable else .checkedRequestFailed

/-- A pointer observation failed that was made as a barrier. -/
def barrierFault : EngineM ε InputFailureKind := do
  if fault.kind = .connection then
    applyBackendFault fault
    return .backendUnavailable
  else
    update (transitionHealth (.requireReset .barrierFailed))
    return .barrierFailed

end

/-! ## Calls -/

variable (env : Environment)

def deadlineElapsed (deadline : Option Instant) : EngineM ε Bool :=
  match deadline with
  | none => pure false
  | some deadline => ⟨fun s =>
    let now := env.now s.trace
    (.ok (deadline ≤ now), s.addEntry (.now now))⟩

def isCancelled : EngineM ε Bool := ⟨fun s =>
  let cancelled := env.isCancelled s.trace
  (.ok cancelled, s.addEntry (.isCancelled cancelled))⟩

/-- Whether the host stops here, and why. -/
def boundaryStop (deadline : Option Instant) : EngineM ε (Option BoundaryStop) := do
  if ← isCancelled env then return some .cancelled
  else if ← deadlineElapsed env deadline then return some .deadline
  else return none

def deadlineStop (deadline : Option Instant) : EngineM ε (Option BoundaryStop) := do
  if ← deadlineElapsed env deadline then return some .deadline else return none

def applyDrainedMapping (drained : DrainedEvents) (s : InputEngine) : InputEngine :=
  { s with buttonMapping := drained.pointerMapping.getD s.buttonMapping }

/-- The event queue is drained, and a new mapping is in force. -/
def drainApplied : EngineM ε (Except BackendFault DrainedEvents) := do
  match ← ask env.drainEvents .drainEvents with
  | .error fault => return .error fault
  | .ok drained =>
    update (applyDrainedMapping drained)
    return .ok drained

def drainEvents : EngineM ε (Except BackendFault Unit) := do
  let drained ← drainApplied env
  return drained.map fun _ => ()

def sendEvent (event : BackendEvent) : EngineM ε (Except BackendFault Unit) :=
  ask (env.sendEvent · event) (.sendEvent event)

def observePointer : EngineM ε (Except BackendFault PointerObservation) :=
  ask env.observePointer .observePointer

/-- The pointer and the buttons the mask shows up. -/
def noteObservation (observation : PointerObservation) (s : InputEngine) : InputEngine :=
  { s with
    lastPointer := some observation.pointer
    sentPressLedger :=
      s.sentPressLedger.reconcileButtons s.buttonMapping observation.logicalButtons }

/-- An observation that clears the ledger of what it shows up. -/
def observeNoted : EngineM ε (Except BackendFault PointerObservation) := do
  match ← observePointer env with
  | .error fault => return .error fault
  | .ok observation =>
    update (noteObservation observation)
    return .ok observation

def observeKeys : EngineM ε (Except BackendFault (List PhysicalKey)) := ask env.observeKeys .observeKeys

/-- The same for keys. -/
def observeKeysNoted : EngineM ε (Except BackendFault (List PhysicalKey)) := do
  match ← observeKeys env with
  | .error fault => return .error fault
  | .ok pressed =>
    update fun s => { s with sentPressLedger := s.sentPressLedger.reconcileKeys pressed }
    return .ok pressed

def synchronizePreflight : EngineM ε (Except KeyboardModelFault ModelPreflight) :=
  ask env.synchronizePreflight .synchronizePreflight

/-- The wait itself cannot fail. -/
def waitForInputDelay (durationMs : Nat) : EngineM ε Unit := do
  let _ ← ask (env.waitForInputDelay · durationMs) (.waitForInputDelay durationMs)

/-! ## The batch -/

def applyEffect (state : InputState) : StateEffect → Except InputStateError Unit × InputState
  | .motion point => state.submitPointerMotion point
  | .buttonPress button allowRedundant => state.submitButtonPress button allowRedundant
  | .buttonRelease button allowRedundant => state.submitButtonRelease button allowRedundant
  | .keyRelease key => state.submitKeyRelease key
  | .keyPress key modifier => state.submitKeyPress key modifier
  | .untrackedRelease => (.ok (), state)

def confirmBatch : EngineM ε (Except InputStateError Unit) := do
  match ← onState InputState.confirmBatch with
  | .error e => return .error e
  | .ok () =>
    mark .batchConfirmed
    return .ok ()

def uncertaintyReason : BatchFailureKind → ResetReason
  | .barrier => .barrierFailed
  | .mappingChanged => .postconditionFailed
  | .connection | .checkedRequest | .state => .checkedRequestFailed

def applyBatchUncertainty (state : InputState) (kind : BatchFailureKind) (recorded : Nat) : InputState :=
  match kind with
  | .state => (state.transitionHealth .actorPanicked).2
  | .connection => (state.transitionHealth .connectionLost).2
  | _ =>
    if 0 < recorded then (state.failBatch (uncertaintyReason kind)).2
    else (state.transitionHealth (.requireReset (uncertaintyReason kind))).2

structure BatchCounts where
  attempted : Nat
  sent : Nat
  recorded : Nat

inductive SendStop where
  | fault (fault : BackendFault)
  | state

/-- A press is noted before it is handed over. -/
def sendNoted (event : PlannedEvent) : EngineM ε (Except BackendFault Unit) := do
  update fun s => { s with sentPressLedger := s.sentPressLedger.note event }
  sendEvent env event.backend

/-- The send loop. An untracked release is sent but not recorded. -/
def sendEvents : List PlannedEvent → BatchCounts → EngineM ε (BatchCounts × Option SendStop)
  | [], counts => pure (counts, none)
  | event :: rest, counts => do
    match ← sendNoted env event with
    | .error fault => return ({ counts with attempted := counts.attempted + 1 }, some (.fault fault))
    | .ok () =>
      match ← onState (applyEffect · event.effect) with
      | .error _ =>
        return ({ counts with attempted := counts.attempted + 1, sent := counts.sent + 1 }, some .state)
      | .ok () =>
        sendEvents rest
          { attempted := counts.attempted + 1, sent := counts.sent + 1
            recorded := if event.effect = .untrackedRelease then counts.recorded else counts.recorded + 1 }

/-- The fault kept of two: the later one, unless only the earlier is of the
connection. -/
def keepFault (current : Option BackendFault) (fault : BackendFault) : Option BackendFault :=
  match current with
  | none => some fault
  | some kept => if kept.kind ≠ .connection ∨ fault.kind = .connection then some fault else some kept

/-- All cookies are checked, also after a fault. -/
def checkCookies : Nat → Nat → Option BackendFault → EngineM ε (Option BackendFault)
  | _, 0, failure => pure failure
  | index, remaining + 1, failure => do
    match ← ask (env.checkCookie · index) (.checkCookie index) with
    | .ok () => checkCookies (index + 1) remaining failure
    | .error fault => checkCookies (index + 1) remaining (keepFault failure fault)

/-- What the send loop and the checks come to. -/
def sendFailureKind (stop : Option SendStop) (check : Option BackendFault) : Option BatchFailureKind :=
  match stop, check with
  | none, none => none
  | some .state, _ => some .state
  | some (.fault fault), check =>
    if fault.kind = .connection ∨ check.map (·.kind) = some .connection then some .connection
    else some .checkedRequest
  | none, some fault => if fault.kind = .connection then some .connection else some .checkedRequest

def failBatch (kind : BatchFailureKind) (counts : BatchCounts) (observation : Option PointerObservation) :
    EngineM BatchFailure α := do
  update fun s => { s with state := applyBatchUncertainty s.state kind counts.recorded }
  fail ⟨kind, counts.attempted, counts.sent, observation⟩

/-- The end of a batch whose requests all passed. -/
def settleBatch (events : List PlannedEvent) (mappingSensitive confirmNow : Bool) (counts : BatchCounts) :
    EngineM BatchFailure BatchSuccess := do
  match ← observeNoted env with
  | .error fault =>
    failBatch (if fault.kind = .connection then .connection else .barrier) counts none
  | .ok observation =>
    match ← drainApplied env with
    | .error fault =>
      failBatch (if fault.kind = .connection then .connection else .checkedRequest) counts
        (some observation)
    | .ok drained =>
      if mappingSensitive && drained.pointerMapping.isSome then
        failBatch .mappingChanged counts (some observation)
      else
        match ← (if confirmNow && 0 < counts.recorded then confirmBatch else pure (.ok ())) with
        | .error _ => failBatch .state counts (some observation)
        | .ok () =>
          update fun s => { s with sentPressLedger := s.sentPressLedger.clearReleased events }
          return ⟨counts.attempted, counts.sent, observation, drained.pointerMapping.isSome⟩

def releasedButton : BackendEvent → Option PhysicalButton
  | .button button false _ => some button
  | _ => none

def pressedButton : BackendEvent → Option PhysicalButton
  | .button button true _ => some button
  | _ => none

/-- The buttons that the events release and neither the state owns nor they
press. -/
def unownedReleases (state : InputState) (events : List PlannedEvent) : List PhysicalButton :=
  (events.filterMap (releasedButton ·.backend)).filter fun button =>
    button ∉ state.pressedButtons && button ∉ events.filterMap (pressedButton ·.backend)

def runBatch (events : List PlannedEvent) (mappingSensitive confirmNow : Bool) :
    EngineM BatchFailure BatchSuccess := do
  mark (.batchStarted (unownedReleases (← read).state events))
  let (counts, stop) ← sendEvents env events ⟨0, 0, 0⟩
  let check ← checkCookies env 0 counts.sent none
  match sendFailureKind stop check with
  | some kind => failBatch kind counts none
  | none => settleBatch env events mappingSensitive confirmNow counts

/-! ## Cleanup -/

/-- Adds an action unless its button or key has one. -/
def addCleanup (actions : List CleanupAction) (action : CleanupAction) : List CleanupAction :=
  if actions.any (·.target = action.target) then actions else actions ++ [action]

/-- The noted keys of one modifier class. -/
def ledgerKeys (ledger : SentPressLedger) (modifier : Bool) : List CleanupAction :=
  (detailsDown 8).filterMap fun detail =>
    if ledger.keys detail && ledger.modifierKeys detail == modifier then
      (PhysicalKey.new detail).toOption.map (.releaseKey · modifier)
    else none

def ledgerButtons (ledger : SentPressLedger) : List CleanupAction :=
  (detailsDown 1).filterMap fun detail =>
    if ledger.buttons detail then (PhysicalButton.new detail).toOption.map .releaseButton else none

/-- Everything that may be down: what the state owns and what the ledger
notes, buttons first, then keys, then modifiers. -/
def conservativeCleanupActions (s : InputEngine) : List CleanupAction :=
  let owned := planCleanup s.state
  let actions := (ledgerButtons s.sentPressLedger).foldl addCleanup (owned.filter CleanupAction.isButton)
  [false, true].foldl (fun actions modifier =>
    (ledgerKeys s.sentPressLedger modifier).foldl addCleanup
      (actions ++ owned.filter (CleanupAction.isKey modifier))) actions

end InputEngine

end Xenoteer
