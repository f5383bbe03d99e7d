/-
Owned physical input and the health of its actor (`input/state.rs`).

Three lists say what the actor holds down: the owned buttons, the owned keys
and the releases that were submitted but not confirmed yet. Effects are
submitted in batches inside an action; a batch is confirmed, failed or
abandoned as a whole. A fallible `&mut self` method is a function to its
result and the state it leaves, which on an error is not always the state it
found (`appendEffect` opens the batch before it records).
-/
import Xenoteer.Input.Effect

namespace Xenoteer

inductive ResetReason where
  | checkedRequestFailed
  | barrierFailed
  | postconditionFailed
  | cancelledAfterEffect
deriving DecidableEq

inductive PoisonReason where
  | connectionLost
  | resetFailed
  | actorPanicked
  | temporaryKeyboardMappingRestoreFailed
deriving DecidableEq

inductive InputHealth where
  | healthy
  | resetRequired (reason : ResetReason)
  | poisoned (reason : PoisonReason)
deriving DecidableEq

inductive HealthEvent where
  | requireReset (reason : ResetReason)
  | resetSucceeded
  | resetFailed
  | connectionLost
  | actorPanicked
  | temporaryKeyboardMappingRestoreFailed
deriving DecidableEq

namespace HealthEvent

/-- The outcomes of a reset, which only a reset action may declare. -/
def isResetOutcome : HealthEvent → Bool
  | .resetSucceeded | .resetFailed => true
  | _ => false

/-- Failures after which the current batch can never be checked. -/
def isTerminal : HealthEvent → Bool
  | .connectionLost | .actorPanicked | .temporaryKeyboardMappingRestoreFailed => true
  | _ => false

end HealthEvent

inductive ActionPurpose where
  | ordinary
  | reset
deriving DecidableEq

/-- An owned key and its modifier classification at press time. -/
structure OwnedKey where
  key : PhysicalKey
  modifier : Bool

inductive PendingRelease where
  | button (button : PhysicalButton)
  | key (key : PhysicalKey)
deriving DecidableEq

inductive InputStateError where
  | effectJournal (error : EffectJournalError)
  | actionAlreadyActive
  | actionPurposeNotAllowed (purpose : ActionPurpose) (health : InputHealth)
  | noActiveAction
  | noPendingBatch
  | unresolvedBatch
  | resetTransitionRequiresResetAction (event : HealthEvent)
  | poisonedBatchAbandonNotAllowed (purpose : Option ActionPurpose) (health : InputHealth)
  | buttonAlreadyPressed (button : PhysicalButton)
  | buttonNotPressed (button : PhysicalButton)
  | keyAlreadyPressed (key : PhysicalKey)
  | keyNotPressed (key : PhysicalKey)
  | resetHasOwnedInput
  | illegalHealthTransition (current : InputHealth) (attempted : HealthEvent)
deriving DecidableEq

structure InputState where
  pressedButtons : List PhysicalButton
  pressedKeys : List OwnedKey
  effects : Option EffectJournal
  actionPurpose : Option ActionPurpose
  batchCheckpoint : Option Nat
  pendingReleases : List PendingRelease
  health : InputHealth

namespace InputState

def new : InputState :=
  { pressedButtons := [], pressedKeys := [], effects := none, actionPurpose := none,
    batchCheckpoint := none,
    pendingReleases := [], health := .healthy }

section

variable (s : InputState)

/-- A batch is open, or releases wait for one to be confirmed. -/
def unresolved : Bool := s.batchCheckpoint.isSome || !s.pendingReleases.isEmpty

def beginAction (purpose : ActionPurpose) : Except InputStateError Unit × InputState :=
  if s.effects.isSome then (.error .actionAlreadyActive, s)
  else if s.unresolved then (.error .unresolvedBatch, s)
  else if purpose = .ordinary ∧ s.health ≠ .healthy then
    (.error (.actionPurposeNotAllowed purpose s.health), s)
  else (.ok (), { s with effects := some .new, actionPurpose := some purpose })

def finishAction : Except InputStateError EffectJournal × InputState :=
  if s.unresolved then (.error .unresolvedBatch, s)
  else match s.effects with
    | none => (.error .noActiveAction, s)
    | some journal => (.ok journal, { s with effects := none, actionPurpose := none })

def ensurePressAllowed : Except InputStateError Unit :=
  match s.actionPurpose with
  | none => .error .noActiveAction
  | some purpose =>
    if purpose ≠ .ordinary ∨ s.health ≠ .healthy then .error (.actionPurposeNotAllowed purpose s.health)
    else .ok ()

/-- Opens the batch if none is open, and records the effect in it. The batch
stays open when the journal is full. -/
def appendEffect (effect : Effect) : Except InputStateError Unit × InputState :=
  match s.effects with
  | none => (.error .noActiveAction, s)
  | some journal =>
    let s := { s with batchCheckpoint := some (s.batchCheckpoint.getD journal.checkpoint) }
    match journal.recordProvisional effect with
    | (.error e, journal) => (.error (.effectJournal e), { s with effects := some journal })
    | (.ok _, journal) => (.ok (), { s with effects := some journal })

def submitPointerMotion (point : RootPoint) : Except InputStateError Unit × InputState :=
  match s.ensurePressAllowed with
  | .error e => (.error e, s)
  | .ok () => s.appendEffect (.pointerMoved point)

def submitButtonPress (button : PhysicalButton) (allowRedundant : Bool) :
    Except InputStateError Unit × InputState :=
  match s.ensurePressAllowed with
  | .error e => (.error e, s)
  | .ok () =>
    if button ∈ s.pressedButtons then
      if !allowRedundant then (.error (.buttonAlreadyPressed button), s)
      else s.appendEffect (.buttonPressed button)
    else match s.appendEffect (.buttonPressed button) with
      | (.error e, s) => (.error e, s)
      | (.ok (), s) => (.ok (), { s with pressedButtons := s.pressedButtons ++ [button] })

def submitButtonRelease (button : PhysicalButton) (allowRedundant : Bool) :
    Except InputStateError Unit × InputState :=
  let isOwned : Bool := button ∈ s.pressedButtons
  let alreadyPending : Bool := .button button ∈ s.pendingReleases
  if (!isOwned || alreadyPending) && !allowRedundant then (.error (.buttonNotPressed button), s)
  else match s.appendEffect (.buttonReleased button) with
    | (.error e, s) => (.error e, s)
    | (.ok (), s) =>
      (.ok (), if isOwned && !alreadyPending then
        { s with pendingReleases := s.pendingReleases ++ [.button button] } else s)

def submitKeyPress (key : PhysicalKey) (modifier : Bool) : Except InputStateError Unit × InputState :=
  match s.ensurePressAllowed with
  | .error e => (.error e, s)
  | .ok () =>
    if s.pressedKeys.any (·.key = key) then (.error (.keyAlreadyPressed key), s)
    else match s.appendEffect (.keyPressed key modifier) with
      | (.error e, s) => (.error e, s)
      | (.ok (), s) => (.ok (), { s with pressedKeys := s.pressedKeys ++ [⟨key, modifier⟩] })

def submitKeyRelease (key : PhysicalKey) : Except InputStateError Unit × InputState :=
  match s.pressedKeys.find? (·.key = key) with
  | none => (.error (.keyNotPressed key), s)
  | some owned =>
    if .key key ∈ s.pendingReleases then (.error (.keyNotPressed key), s)
    else match s.appendEffect (.keyReleased key owned.modifier) with
      | (.error e, s) => (.error e, s)
      | (.ok (), s) => (.ok (), { s with pendingReleases := s.pendingReleases ++ [.key key] })

/-- One confirmed release: the first owned entry of the button or key goes. -/
def applyRelease : PendingRelease → InputState
  | .button button => { s with pressedButtons := s.pressedButtons.erase button }
  | .key key => { s with pressedKeys := s.pressedKeys.eraseP (·.key = key) }

def confirmBatch : Except InputStateError Unit × InputState :=
  match s.batchCheckpoint with
  | none => (.error .noPendingBatch, s)
  | some checkpoint =>
    match s.effects with
    | none => (.error .noActiveAction, s)
    | some journal =>
      match journal.confirmSince checkpoint with
      | (.error e, journal) => (.error (.effectJournal e), { s with effects := some journal })
      | (.ok (), journal) =>
        let s := s.pendingReleases.foldl applyRelease { s with effects := some journal }
        (.ok (), { s with pendingReleases := [], batchCheckpoint := none })

/-- The health that a legal transition leads to. -/
def nextHealth (event : HealthEvent) : Except InputStateError InputHealth :=
  match s.health, event with
  | .healthy, .requireReset reason | .resetRequired _, .requireReset reason => .ok (.resetRequired reason)
  | .resetRequired _, .resetSucceeded =>
    if !s.pressedButtons.isEmpty || !s.pressedKeys.isEmpty || !s.pendingReleases.isEmpty then
      .error .resetHasOwnedInput
    else .ok .healthy
  | .resetRequired _, .resetFailed => .ok (.poisoned .resetFailed)
  | .healthy, .connectionLost | .resetRequired _, .connectionLost => .ok (.poisoned .connectionLost)
  | .healthy, .actorPanicked | .resetRequired _, .actorPanicked => .ok (.poisoned .actorPanicked)
  | .healthy, .temporaryKeyboardMappingRestoreFailed
  | .resetRequired _, .temporaryKeyboardMappingRestoreFailed =>
    .ok (.poisoned .temporaryKeyboardMappingRestoreFailed)
  | current, attempted => .error (.illegalHealthTransition current attempted)

def transitionHealth (event : HealthEvent) : Except InputStateError Unit × InputState :=
  if event.isResetOutcome && (s.actionPurpose ≠ some .reset || s.unresolved) then
    (.error (.resetTransitionRequiresResetAction event), s)
  else match s.nextHealth event with
    | .error e => (.error e, s)
    | .ok health =>
      if event.isTerminal then (.ok (), { s with pendingReleases := [], batchCheckpoint := none, health })
      else (.ok (), { s with health })

def failBatch (reason : ResetReason) : Except InputStateError Unit × InputState :=
  match s.batchCheckpoint with
  | none => (.error .noPendingBatch, s)
  | some _ =>
    match s.transitionHealth (.requireReset reason) with
    | (.error e, s) => (.error e, s)
    | (.ok (), s) => (.ok (), { s with pendingReleases := [], batchCheckpoint := none })

def isPoisoned : Bool :=
  match s.health with
  | .poisoned _ => true
  | _ => false

def abandonPoisonedResetBatch : Except InputStateError Unit × InputState :=
  match s.batchCheckpoint with
  | none => (.error .noPendingBatch, s)
  | some _ =>
    if s.actionPurpose ≠ some .reset ∨ s.isPoisoned = false then
      (.error (.poisonedBatchAbandonNotAllowed s.actionPurpose s.health), s)
    else (.ok (), { s with pendingReleases := [], batchCheckpoint := none })

end

end InputState

inductive InputOp where
  | beginAction (purpose : ActionPurpose)
  | finishAction
  | submitPointerMotion (point : RootPoint)
  | submitButtonPress (button : PhysicalButton) (allowRedundant : Bool)
  | submitButtonRelease (button : PhysicalButton) (allowRedundant : Bool)
  | submitKeyPress (key : PhysicalKey) (modifier : Bool)
  | submitKeyRelease (key : PhysicalKey)
  | confirmBatch
  | failBatch (reason : ResetReason)
  | abandonPoisonedResetBatch
  | transitionHealth (event : HealthEvent)
deriving DecidableEq

/-- What an operation returns; `finish_action` returns the journal. -/
abbrev InputReply := Except InputStateError (Option EffectJournal)

namespace InputState

/-- A call that returns no journal. -/
def plain (r : Except InputStateError Unit × InputState) :
    InputReply × InputState := (r.1.map fun _ => none, r.2)

def step (s : InputState) : InputOp → InputReply × InputState
  | .beginAction purpose => plain (s.beginAction purpose)
  | .finishAction => (s.finishAction.1.map some, s.finishAction.2)
  | .submitPointerMotion point => plain (s.submitPointerMotion point)
  | .submitButtonPress button allowRedundant => plain (s.submitButtonPress button allowRedundant)
  | .submitButtonRelease button allowRedundant => plain (s.submitButtonRelease button allowRedundant)
  | .submitKeyPress key modifier => plain (s.submitKeyPress key modifier)
  | .submitKeyRelease key => plain (s.submitKeyRelease key)
  | .confirmBatch => plain s.confirmBatch
  | .failBatch reason => plain (s.failBatch reason)
  | .abandonPoisonedResetBatch => plain s.abandonPoisonedResetBatch
  | .transitionHealth event => plain (s.transitionHealth event)

end InputState

end Xenoteer
