/-
Keyboard actions (`run_keyboard_action` of `input/execute.rs`): held keys,
chords and physical text. Bindings are resolved and validated inside the
actor, before and after the events; text that the layout cannot represent may
be typed through a temporary mapping of an unused keycode.
-/
import Xenoteer.Input.Batch

namespace Xenoteer

open Lib Prog

structure KeyboardProgress where
  eventsEmitted : Nat := 0
  completedUnits : Nat := 0
  stopped : Option BoundaryStop := none
  bindings : List KeyboardBindingEvidence := []
  textScalarCount : Option Nat := none
  requestedTextMode : Option PhysicalTextMode := none
  currentLayoutScalars : Nat := 0
  temporaryMappingScalars : Nat := 0
  temporaryMappingsInstalled : Nat := 0
  temporaryMappingsRestored : Nat := 0
  temporaryMappingRestorationProven : Option Bool := none
  redactScalarEvidence : Bool := false
  pointer : Option PointerObservation := none

structure KeyboardRunError where
  kind : InputFailureKind
  progress : KeyboardProgress
  progressKnown : Bool

/-- The generation after a key batch, and whether the one change that the
first synthetic key may cause was accepted. -/
structure KeyBatchPostflight where
  model : ModelPreflight
  acceptedInitialXtestSetMap : Bool

namespace KeyboardProgress

section

variable (progress : KeyboardProgress)

def failure (kind : InputFailureKind) : KeyboardRunError :=
  { kind, progress, progressKnown := kind ≠ .actorPanicked }

def stop (stopped : BoundaryStop) : KeyboardProgress :=
  { progress with stopped := some stopped }

/-- The evidence of bindings that do not stand for text. -/
def record (bindings : List CapturedKeyBinding) : KeyboardProgress :=
  if progress.redactScalarEvidence then progress
  else { progress with bindings := progress.bindings ++ bindings.map (·.evidence) }

def absorb (sent : Nat) (observation : Option PointerObservation) : KeyboardProgress :=
  { progress with
    eventsEmitted := progress.eventsEmitted + sent
    pointer := observation.or progress.pointer }

end

end KeyboardProgress

def hasDuplicateKeys (keys : List PhysicalKey) : Bool := !decide keys.Nodup

def unicodeKeysym (scalar : Char) : UInt32 :=
  let value := scalar.val
  if (0x20 ≤ value && value ≤ 0x7e) || (0xa0 ≤ value && value ≤ 0xff) then value else 0x01000000 ||| value

namespace InputEngine

variable (env : Environment) {ε α β : Type}

def ownsKey (s : InputEngine) (key : PhysicalKey) : Bool := s.state.pressedKeys.any (·.key = key)

/-! ## Failures of the keyboard model -/

def modelFailureKind (kind : KeyboardModelFaultKind) (afterEffect : Bool) : InputFailureKind :=
  match kind with
  | .unavailable | .notSafe | .platform => .unsupportedByBackend
  | .conflict => if afterEffect then .modifierConflictAfterEffect else .modifierConflict
  | .notRepresentable => .textNotRepresentable
  | .mappingChanged =>
    if afterEffect then .keyboardMappingChangedAfterEffect else .keyboardMappingChangedBeforeEffect
  | .connection => .backendUnavailable

section

variable (fault : KeyboardModelFault)

def noteModelFault (s : InputEngine) : InputEngine :=
  if fault.kind = .connection then s.transitionHealth .connectionLost else s

def keyboardModelFailure (afterEffect : Bool) : EngineM ε InputFailureKind := do
  update (noteModelFault fault)
  return modelFailureKind fault.kind afterEffect

def keyboardIdentifierFailure (identifier : KeyIdentifier)
    (afterEffect : Bool) : EngineM ε InputFailureKind :=
  if fault.kind = .notRepresentable && !identifier.isScalar then pure .unsupportedByBackend
  else keyboardModelFailure fault afterEffect

def temporaryMappingPreflightFailure : EngineM ε InputFailureKind :=
  match fault.kind with
  | .notRepresentable | .notSafe | .platform | .unavailable => pure .temporaryMappingInstallFailed
  | .conflict | .mappingChanged | .connection => keyboardModelFailure fault false

end

/-- The value of a call, or the failure its fault translates to. -/
def orFailure (translate : KeyboardModelFault → EngineM InputFailureKind InputFailureKind) :
    Except KeyboardModelFault α → EngineM InputFailureKind α
  | .ok value => pure value
  | .error fault => do
    let kind ← translate fault
    fail kind

/-! ## The pending key batch -/

def confirmPendingKeyBatch : EngineM InputFailureKind Unit := do
  match ← confirmBatch with
  | .ok () => return ()
  | .error _ =>
    markPanicked
    fail .actorPanicked

def failPendingKeyBatch (reason : ResetReason) : EngineM InputFailureKind Unit := do
  match ← onState (·.failBatch reason) with
  | .ok () => return ()
  | .error _ =>
    markPanicked
    fail .actorPanicked

/-- The batch is failed, and the call with it. -/
def rejectKeyBatch (reason : ResetReason) (kind : InputFailureKind) : EngineM InputFailureKind α := do
  failPendingKeyBatch reason
  fail kind

/-- The batch is failed for a fault of the model that followed it. -/
def rejectAfterFault (translate : KeyboardModelFault → EngineM InputFailureKind InputFailureKind) :
    Except KeyboardModelFault α → EngineM InputFailureKind α
  | .ok value => pure value
  | .error fault => do
    failPendingKeyBatch .postconditionFailed
    let kind ← translate fault
    fail kind

/-! ## Bindings -/

def keyboardResolutionContext (intent : KeyboardResolutionIntent) :
    EngineM InputFailureKind KeyboardResolutionContext := do
  let owned := (← read).state.pressedKeys.map (·.key.keycode)
  match KeyboardResolutionContext.new intent owned with
  | .ok context => return context
  | .error _ =>
    markPanicked
    fail .actorPanicked

def resolveSynchronized (identifier : KeyIdentifier) (context : KeyboardResolutionContext) :
    EngineM ε (Except KeyboardModelFault CapturedKeyBinding) :=
  ask (env.resolveSynchronized · identifier context) (.resolveSynchronized identifier context)

def validateBinding (binding : CapturedKeyBinding) (context : KeyboardResolutionContext) :
    EngineM ε (Except KeyboardModelFault ModelPreflight) :=
  ask (env.validateBinding · binding context) (.validateBinding binding context)

/-- All identities in one generation. -/
def resolveBindings (context : KeyboardResolutionContext) :
    List KeyIdentifier → Option Nat → EngineM InputFailureKind (List CapturedKeyBinding)
  | [], _ => pure []
  | identifier :: rest, generation => do
    let binding ← (resolveSynchronized env identifier context) >>=
      orFailure (keyboardIdentifierFailure · identifier false)
    failIf (generation.any (· ≠ binding.generation)) .keyboardMappingChangedBeforeEffect
    let bindings ← resolveBindings context rest (some binding.generation)
    return binding :: bindings

def validateBindings (context : KeyboardResolutionContext) :
    List CapturedKeyBinding → EngineM InputFailureKind Unit
  | [] => pure ()
  | binding :: rest => do
    let preflight ← (validateBinding env binding context) >>=
      orFailure (keyboardIdentifierFailure · binding.identifier false)
    failIf (preflight.generation ≠ binding.generation) .keyboardMappingChangedBeforeEffect
    validateBindings context rest

def resolveAndValidateBindings (identifiers : List KeyIdentifier) (context : KeyboardResolutionContext) :
    EngineM InputFailureKind (List CapturedKeyBinding) := do
  let bindings ← resolveBindings env context identifiers none
  validateBindings env context bindings
  return bindings

/-! ## One batch of keys -/

def noteKeyboardEffect (sent : Nat) (s : InputEngine) : InputEngine :=
  { s with keyboardEffectEmitted := s.keyboardEffectEmitted || 0 < sent }

/-- Owned keys that were to stay are down, and the others are up. -/
def keysAsExpected (state : InputState) (expectedUp pressed : List PhysicalKey) : Bool :=
  (state.pressedKeys.all fun owned => owned.key ∈ expectedUp || owned.key ∈ pressed) &&
    expectedUp.all (· ∉ pressed)

/-- What is checked after the events: the pressed keys and the model. -/
def keyPostflight (accepts : ModelPreflight → Bool) (expectedGeneration : Nat)
    (expectedUp : List PhysicalKey) (enforceGeneration : Bool) :
    EngineM InputFailureKind KeyBatchPostflight := do
  match ← observeKeysNoted env with
  | .error fault =>
    if fault.kind = .connection then
      applyBackendFault fault
      fail .backendUnavailable
    else rejectKeyBatch .barrierFailed .barrierFailed
  | .ok pressed =>
    match ← synchronizePreflight env with
    | .error fault =>
      let kind ← keyboardModelFailure fault true
      if (← read).state.health = .healthy then rejectKeyBatch .postconditionFailed kind else fail kind
    | .ok preflight =>
      if enforceGeneration && preflight.generation ≠ expectedGeneration && !accepts preflight then
        rejectKeyBatch .postconditionFailed .keyboardMappingChangedAfterEffect
      else if keysAsExpected (← read).state expectedUp pressed then return ⟨preflight, accepts preflight⟩
      else rejectKeyBatch .postconditionFailed .postconditionFailed

/-- The first synthetic key may make the server set its map once; the new
generation is the same map. -/
def isInitialXtestSetMap (firstKeyboardEffect : Bool) (sent expectedGeneration : Nat)
    (preFingerprint : Option Nat) (preflight : ModelPreflight) : Bool :=
  firstKeyboardEffect && 0 < sent && preflight.generation = min (expectedGeneration + 1) u64Max &&
    preflight.mappingInvalidations = 1 && preflight.structuralSetMapInvalidations = 1 &&
    preFingerprint.isSome && preflight.keymapFingerprint = preFingerprint

def runKeyBatch (events : List PlannedEvent) (expectedGeneration : Nat) (expectedUp : List PhysicalKey)
    (enforceGeneration : Bool) (progress : KeyboardProgress) :
    EngineM KeyboardRunError (KeyboardProgress × KeyBatchPostflight) := do
  let before ← read
  match ← attempt (runBatch env events false false) with
  | .error failure =>
    update (noteKeyboardEffect failure.sent)
    fail ((progress.absorb failure.sent failure.observation).failure failure.publicKind)
  | .ok batch =>
    update (noteKeyboardEffect batch.sent)
    let progress := progress.absorb batch.sent (some batch.observation)
    let accepts := isInitialXtestSetMap (!before.keyboardEffectEmitted) batch.sent expectedGeneration
      (env.diagnostics before.trace).keymapFingerprint
    let post ← mapError progress.failure
      (keyPostflight env accepts expectedGeneration expectedUp enforceGeneration)
    return (progress, post)

/-- The bindings mean the same in the generation that was accepted. -/
def revalidateAcross (context : KeyboardResolutionContext) (postflight : KeyBatchPostflight) :
    List CapturedKeyBinding → EngineM InputFailureKind Unit
  | [] => pure ()
  | binding :: rest => do
    let current ← (resolveSynchronized env binding.identifier context) >>=
      rejectAfterFault (keyboardIdentifierFailure · binding.identifier true)
    if current.generation ≠ postflight.model.generation ||
        !binding.physicallyEquivalentAcrossGeneration current then
      rejectKeyBatch .postconditionFailed .keyboardMappingChangedAfterEffect
    else revalidateAcross context postflight rest

/-- The bindings still hold in their own generation. -/
def revalidateSame (context : KeyboardResolutionContext) :
    List CapturedKeyBinding → EngineM InputFailureKind Unit
  | [] => pure ()
  | binding :: rest => do
    let preflight ← (validateBinding env binding context) >>=
      rejectAfterFault (keyboardIdentifierFailure · binding.identifier true)
    if preflight.generation ≠ binding.generation then
      rejectKeyBatch .postconditionFailed .keyboardMappingChangedAfterEffect
    else revalidateSame context rest

def validateCompleteBindingsAfterEffect (bindings : List CapturedKeyBinding)
    (context : KeyboardResolutionContext) (postflight : KeyBatchPostflight) :
    EngineM InputFailureKind Unit := do
  match bindings.head? with
  | none => fail .stateRejected
  | some first =>
    if postflight.model.generation = first.generation then revalidateSame env context bindings
    else if !postflight.acceptedInitialXtestSetMap then
      rejectKeyBatch .postconditionFailed .keyboardMappingChangedAfterEffect
    else
      revalidateAcross env context postflight bindings
      let final ← (synchronizePreflight env) >>= rejectAfterFault (keyboardModelFailure · true)
      if final.generation ≠ postflight.model.generation || final.mappingInvalidations ≠ 0 ||
          final.keymapFingerprint ≠ postflight.model.keymapFingerprint then
        rejectKeyBatch .postconditionFailed .keyboardMappingChangedAfterEffect
      else return ()

/-! ## Complete presses -/

/-- The modifiers that must be pressed for the bindings, each once. -/
def missingModifiers (s : InputEngine) (callerKeys : List PhysicalKey) :
    List RequiredModifierBinding → List (PhysicalKey × Bool) → List (PhysicalKey × Bool)
  | [], order => order
  | modifier :: rest, order =>
    if !modifier.alreadyActive && modifier.key ∉ callerKeys && !s.ownsKey modifier.key &&
        !order.any (·.1 = modifier.key) then
      missingModifiers s callerKeys rest (order ++ [(modifier.key, true)])
    else missingModifiers s callerKeys rest order

/-- Missing modifiers, then the caller's modifiers, then its other keys. -/
def pressOrder (s : InputEngine) (bindings : List CapturedKeyBinding) : List (PhysicalKey × Bool) :=
  missingModifiers s (bindings.map (·.key)) (bindings.flatMap (·.requiredModifiers)) [] ++
    (bindings.filter (·.isModifier)).map (·.key, true) ++
    (bindings.filter (!·.isModifier)).map (·.key, false)

/-- All keys are pressed with one direction; the first event has the delay. -/
def keyEvents (pressed : Bool) (delayMs : Nat) : List (PhysicalKey × Bool) → List PlannedEvent
  | [] => []
  | (key, modifier) :: rest =>
    keyPlannedEvent key pressed delayMs modifier ::
      rest.map fun (key, modifier) => keyPlannedEvent key pressed 0 modifier

section

variable (step : KeyboardSequenceStep)

/-- Pressed in order and released in the opposite one. -/
def stepEvents (order : List (PhysicalKey × Bool)) : List PlannedEvent :=
  keyEvents true step.delayBeforeMs order ++ keyEvents false step.holdMs order.reverse

/-- The caller's keys are free and distinct. -/
def callerKeysFree (s : InputEngine) (bindings : List CapturedKeyBinding) : Bool :=
  !hasDuplicateKeys (bindings.map (·.key)) && !bindings.any fun binding => s.ownsKey binding.key

/-- The batch of a complete press, checked and confirmed. -/
def runCompleteBatch (bindings : List CapturedKeyBinding)
    (order : List (PhysicalKey × Bool)) (context : KeyboardResolutionContext) (generation : Nat)
    (progress : KeyboardProgress) : EngineM KeyboardRunError (KeyboardProgress × Bool) := do
  let (progress, post) ← runKeyBatch env (stepEvents step order) generation (order.map (·.1)) false progress
  mapError progress.failure (validateCompleteBindingsAfterEffect env bindings context post)
  mapError progress.failure confirmPendingKeyBatch
  return (progress, true)

def runKeyboardStep (deadline : Option Instant) (progress : KeyboardProgress) :
    EngineM KeyboardRunError (KeyboardProgress × Bool) := do
  let context ← mapError progress.failure (keyboardResolutionContext .physicalKey)
  let bindings ← mapError progress.failure (resolveAndValidateBindings env step.keys context)
  match ← boundaryStop env deadline with
  | some stopped => return (progress.stop stopped, false)
  | none =>
    match bindings.head? with
    | none => fail (progress.failure .stateRejected)
    | some first =>
      let s ← read
      failIf (!s.callerKeysFree bindings) (progress.failure .stateRejected)
      let order := s.pressOrder bindings
      failIf (hasDuplicateKeys (order.map (·.1))) (progress.failure .stateRejected)
      runCompleteBatch env step bindings order context first.generation (progress.record bindings)

/-- The same for bindings that were resolved already; the order is not
checked for duplicates again. -/
def runResolvedCompleteStep (bindings : List CapturedKeyBinding)
    (context : KeyboardResolutionContext) (deadline : Option Instant) (recordBindingEvidence : Bool)
    (progress : KeyboardProgress) : EngineM KeyboardRunError (KeyboardProgress × Bool) := do
  match ← boundaryStop env deadline with
  | some stopped => return (progress.stop stopped, false)
  | none =>
    match bindings.head? with
    | none => fail (progress.failure .stateRejected)
    | some first =>
      let s ← read
      failIf (!s.callerKeysFree bindings) (progress.failure .stateRejected)
      runCompleteBatch env step bindings (s.pressOrder bindings) context first.generation
        (if recordBindingEvidence then progress.record bindings else progress)

end

def runExactScalar (scalar : Char) (delayBeforeMs : Nat) (deadline : Option Instant)
    (progress : KeyboardProgress) : EngineM KeyboardRunError (KeyboardProgress × Bool) := do
  match KeyboardSequenceStep.press (.scalar scalar) 0 delayBeforeMs with
  | .error _ => fail (progress.failure .stateRejected)
  | .ok step =>
    let context ← mapError progress.failure (keyboardResolutionContext .exactText)
    let bindings ← mapError progress.failure (resolveAndValidateBindings env step.keys context)
    runResolvedCompleteStep env step bindings context deadline false progress

/-! ## Held keys -/

/-- The modifiers a held key relies on, and those of them that must be
pressed for it. -/
def holdModifiers (s : InputEngine) :
    List RequiredModifierBinding → List PhysicalKey → List PhysicalKey → List PhysicalKey × List PhysicalKey
  | [], synthesized, newlyPressed => (synthesized, newlyPressed)
  | modifier :: rest, synthesized, newlyPressed =>
    if modifier.key ∈ synthesized then holdModifiers s rest synthesized newlyPressed
    else if s.synthesizedModifiers.any (·.key = modifier.key) then
      holdModifiers s rest (synthesized ++ [modifier.key]) newlyPressed
    else if !modifier.alreadyActive && !s.ownsKey modifier.key then
      holdModifiers s rest (synthesized ++ [modifier.key]) (newlyPressed ++ [modifier.key])
    else holdModifiers s rest synthesized newlyPressed

section

variable (references : List SynthesizedModifierRef)

/-- One more reference to a synthesized modifier. -/
def addReference (key : PhysicalKey) : List SynthesizedModifierRef :=
  if references.any (·.key = key) then
    references.modify (references.findIdx (·.key = key)) fun existing =>
      { existing with references := min (existing.references + 1) (2 ^ 16 - 1) }
  else references ++ [⟨key, 1⟩]

def dropReference (key : PhysicalKey) : List SynthesizedModifierRef :=
  references.modify (references.findIdx (·.key = key)) fun existing =>
    { existing with references := existing.references - 1 }

/-- The binding means after the press what it meant before. -/
def heldEquivalent (binding postBinding : CapturedKeyBinding) (post : KeyBatchPostflight) : Bool :=
  if post.acceptedInitialXtestSetMap then
    postBinding.generation = post.model.generation &&
      binding.physicallyEquivalentAcrossGeneration postBinding
  else binding.physicallyEquivalent postBinding

/-- The end of a key down: what the key resolves to now is compared, and the
hold recorded. -/
def captureHold (identifier : KeyIdentifier) (binding : CapturedKeyBinding)
    (synthesized : List PhysicalKey) (post : KeyBatchPostflight) : EngineM InputFailureKind Unit := do
  let postContext ← keyboardResolutionContext .physicalKey
  let postBinding ← (resolveSynchronized env identifier postContext) >>=
    rejectAfterFault (keyboardIdentifierFailure · identifier true)
  if !heldEquivalent binding postBinding post then
    rejectKeyBatch .postconditionFailed .keyboardMappingChangedAfterEffect
  else
    confirmPendingKeyBatch
    update fun s => { s with
      synthesizedModifiers := synthesized.foldl addReference s.synthesizedModifiers
      capturedKeys := s.capturedKeys ++
        [⟨identifier, if post.acceptedInitialXtestSetMap then postBinding else binding, synthesized⟩] }

def runKeyboardDown (identifier : KeyIdentifier) (deadline : Option Instant) (progress : KeyboardProgress) :
    EngineM KeyboardRunError (KeyboardProgress × Bool) := do
  failIf ((← read).capturedKeys.any (·.identifier = identifier)) (progress.failure .stateRejected)
  let context ← mapError progress.failure (keyboardResolutionContext .physicalKey)
  let bindings ← mapError progress.failure (resolveAndValidateBindings env [identifier] context)
  match bindings.getLast? with
  | none => fail (progress.failure .stateRejected)
  | some binding =>
    match ← boundaryStop env deadline with
    | some stopped => return (progress.stop stopped, false)
    | none =>
      let s ← read
      failIf (s.ownsKey binding.key) (progress.failure .stateRejected)
      let (synthesized, newlyPressed) := holdModifiers s binding.requiredModifiers [] []
      let events := newlyPressed.map (keyPlannedEvent · true 0 true) ++
        [keyPlannedEvent binding.key true 0 binding.isModifier]
      let (progress, post) ←
        runKeyBatch env events binding.generation [] true (progress.record [binding])
      mapError progress.failure (captureHold env identifier binding synthesized post)
      return (progress, true)

def reinsertHold (position : Nat) (hold : CapturedKeyHold) (s : InputEngine) : InputEngine :=
  { s with capturedKeys := s.capturedKeys.insertIdx position hold }

/-- The modifiers that only this hold relies on, last one first. -/
def releasableModifiers (hold : CapturedKeyHold) : List PhysicalKey :=
  hold.synthesizedModifiers.reverse.filter fun key =>
    (references.find? (·.key = key)).any (·.references = 1)

end

/-- Whether the captured binding still holds. A fault other than of the
connection is kept for later: the key must be released all the same. -/
def heldGeneration (hold : CapturedKeyHold) (position : Nat) (context : KeyboardResolutionContext) :
    EngineM InputFailureKind (HeldBindingGeneration × Option InputFailureKind) := do
  match ← ask (env.validateHeldBinding · hold.binding hold.identifier context)
      (.validateHeldBinding hold.binding hold.identifier context) with
  | .ok generation => return (generation, none)
  | .error fault =>
    if fault.kind = .connection then
      update (reinsertHold position hold)
      let kind ← keyboardIdentifierFailure fault hold.identifier false
      fail kind
    else
      let deferred ← keyboardIdentifierFailure fault hold.identifier true
      let s ← read
      let current := ((env.diagnostics s.trace).generation).getD hold.binding.generation
      return (.stale hold.binding.generation current, some deferred)

def releaseHold (hold : CapturedKeyHold) (position : Nat) (held : HeldBindingGeneration)
    (deferred : Option InputFailureKind) (progress : KeyboardProgress) :
    EngineM KeyboardRunError (KeyboardProgress × Bool) := do
  let releaseModifiers := releasableModifiers (← read).synthesizedModifiers hold
  let events := keyPlannedEvent hold.binding.key false 0 hold.binding.isModifier ::
    releaseModifiers.map (keyPlannedEvent · false 0 true)
  match ← attempt (runKeyBatch env events hold.binding.generation (hold.binding.key :: releaseModifiers)
      false progress) with
  | .error e =>
    update (reinsertHold position hold)
    fail e
  | .ok (progress, post) =>
    mapError progress.failure confirmPendingKeyBatch
    update fun s => { s with
      synthesizedModifiers :=
        (hold.synthesizedModifiers.foldl dropReference s.synthesizedModifiers).filter (0 < ·.references) }
    match deferred with
    | some kind => fail (progress.failure kind)
    | none =>
      failIf (held ≠ .current || post.model.generation ≠ hold.binding.generation)
        (progress.failure .keyboardMappingChangedAfterEffect)
      return (progress, true)

def runKeyboardUp (identifier : KeyIdentifier) (deadline : Option Instant) (progress : KeyboardProgress) :
    EngineM KeyboardRunError (KeyboardProgress × Bool) := do
  let position := (← read).capturedKeys.findIdx (·.identifier = identifier)
  match (← read).capturedKeys[position]? with
  | none => fail (progress.failure .stateRejected)
  | some hold =>
    update fun s => { s with capturedKeys := s.capturedKeys.eraseIdx position }
    let context ← mapError progress.failure (keyboardResolutionContext .physicalKey)
    let (held, deferred) ← mapError progress.failure (heldGeneration env hold position context)
    match ← boundaryStop env deadline with
    | some stopped =>
      update (reinsertHold position hold)
      return (progress.stop stopped, false)
    | none => releaseHold env hold position held deferred (progress.record [hold.binding])

/-! ## Temporary mappings -/

def readKeyboardMapping (key : PhysicalKey) : EngineM ε (Except BackendFault CoreKeyboardMapping) :=
  ask (env.readKeyboardMapping · key) (.readKeyboardMapping key)

def writeVerified (key : PhysicalKey) (mapping : CoreKeyboardMapping)
    (accepts : CoreKeyboardMapping → Bool) : EngineM BackendFault Unit := do
  match ← ask (env.writeKeyboardMapping · key mapping) (.writeKeyboardMapping key mapping) with
  | .error fault => fail fault
  | .ok () =>
    match ← readKeyboardMapping env key with
    | .error fault => fail fault
    | .ok observed => if accepts observed then return () else fail ⟨.request⟩

def markRestoreFailed (progress : KeyboardProgress) (connection : Bool) : EngineM KeyboardRunError α := do
  let progress := { progress with temporaryMappingRestorationProven := some false }
  if connection then
    update (transitionHealth .connectionLost)
    fail (progress.failure .backendUnavailable)
  else
    update (transitionHealth .temporaryKeyboardMappingRestoreFailed)
    fail (progress.failure .temporaryMappingRestoreFailed)

def restorePendingKeyboardMapping (progress : KeyboardProgress) :
    EngineM KeyboardRunError KeyboardProgress := do
  match (← read).pendingKeyboardRestore with
  | none => return progress
  | some pending =>
    match ← attempt (writeVerified env pending.key pending.original (· = pending.original)) with
    | .error fault => markRestoreFailed progress (fault.kind = .connection)
    | .ok () =>
      match ← synchronizePreflight env with
      | .error fault => markRestoreFailed progress (fault.kind = .connection)
      | .ok _ =>
        update fun s => { s with pendingKeyboardRestore := none }
        mark (.restoreDropped pending.key)
        return { progress with
          temporaryMappingsRestored := progress.temporaryMappingsRestored + 1
          temporaryMappingRestorationProven := some true }

def validateReservation (reservation : KeyboardReservation) :
    EngineM ε (Except KeyboardModelFault ModelPreflight) :=
  ask (env.validateReservation · reservation) (.validateReservation reservation)

/-- A well-formed row without symbols. -/
def isBlankRow (row : CoreKeyboardMapping) : Bool :=
  row.keysymsPerKeycode ≠ 0 && row.keysyms.length = row.keysymsPerKeycode.toNat && row.keysyms.all (· = 0)

/-- A free keycode with its blank row. -/
def reserveBlankKeycode : EngineM InputFailureKind (KeyboardReservation × CoreKeyboardMapping) := do
  let reservation ← (ask env.reserveUnusedKeycode .reserveUnusedKeycode) >>= orFailure fun fault =>
    if fault.kind = .notRepresentable then pure .temporaryMappingInstallFailed
    else keyboardModelFailure fault false
  let _ ← (validateReservation env reservation) >>= orFailure (keyboardModelFailure · false)
  failIf ((← read).ownsKey reservation.key) .stateRejected
  match ← readKeyboardMapping env reservation.key with
  | .error fault =>
    applyConnectionFault fault
    fail (backendPublicKind fault)
  | .ok original =>
    failIf (!isBlankRow original) .unsupportedByBackend
    let _ ← (validateReservation env reservation) >>= orFailure (keyboardModelFailure · false)
    return (reservation, original)

/-- The scalar's symbol in the first column. -/
def temporaryRow (original : CoreKeyboardMapping) (scalar : Char) : CoreKeyboardMapping :=
  { original with keysyms := (List.replicate original.keysyms.length 0).set 0 (unicodeKeysym scalar) }

/-- The row as read back: the server may mirror the symbol into column 2. -/
def isInstalled (installed observed : CoreKeyboardMapping) : Bool :=
  observed.keysymsPerKeycode = installed.keysymsPerKeycode &&
    observed.keysyms.length = installed.keysyms.length &&
    observed.keysyms.head? = installed.keysyms.head? &&
    (List.range observed.keysyms.length).all fun index =>
      index = 0 || observed.keysyms[index]? = some 0 ||
        (index = 2 && observed.keysyms[index]? = installed.keysyms.head?)

/-- The original row is kept before the first write. -/
def storeRestore (reservation : KeyboardReservation) (original : CoreKeyboardMapping) : EngineM ε Unit := do
  update fun s => { s with pendingKeyboardRestore := some ⟨reservation.key, original⟩ }
  mark (.restoreStored reservation.key original)

/-- The scalar through the installed mapping. -/
def typeInstalled (scalar : Char) (delayBeforeMs : Nat) (reservation : KeyboardReservation)
    (context : KeyboardResolutionContext) (deadline : Option Instant) (progress : KeyboardProgress) :
    EngineM KeyboardRunError (KeyboardProgress × Bool) := do
  let _ ← mapError progress.failure
    ((synchronizePreflight env) >>= orFailure (keyboardModelFailure · false))
  let binding ← mapError progress.failure ((resolveSynchronized env (.scalar scalar) context) >>=
    orFailure temporaryMappingPreflightFailure)
  failIf (binding.key ≠ reservation.key) (progress.failure .temporaryMappingInstallFailed)
  let validation ← mapError progress.failure ((validateBinding env binding context) >>=
    orFailure temporaryMappingPreflightFailure)
  failIf (validation.generation ≠ binding.generation) (progress.failure .temporaryMappingInstallFailed)
  match KeyboardSequenceStep.press (.scalar scalar) 0 delayBeforeMs with
  | .error _ => fail (progress.failure .stateRejected)
  | .ok step => runResolvedCompleteStep env step [binding] context deadline false progress

/-- The mapping did not install: the original goes back at once. -/
def abandonInstall (fault : BackendFault) (progress : KeyboardProgress) : EngineM KeyboardRunError α := do
  let connectionLost : Bool := fault.kind = .connection
  applyConnectionFault fault
  match ← attempt (restorePendingKeyboardMapping env progress) with
  | .ok progress =>
    fail (progress.failure
      (if connectionLost then .backendUnavailable else .temporaryMappingInstallFailed))
  | .error e => fail (e.progress.failure (if connectionLost then .backendUnavailable else e.kind))

/-- The scalar is typed and the original row written back, unless the failure
left that to the reset. -/
def typeAndRestore (scalar : Char) (delayBeforeMs : Nat) (reservation : KeyboardReservation)
    (context : KeyboardResolutionContext) (deadline : Option Instant) (progress : KeyboardProgress) :
    EngineM KeyboardRunError (KeyboardProgress × Bool) := do
  match ← attempt (typeInstalled env scalar delayBeforeMs reservation context deadline progress) with
  | .error e =>
    if (← read).state.health ≠ .healthy then fail e
    else
      let progress ← restorePendingKeyboardMapping env e.progress
      fail (progress.failure e.kind)
  | .ok (progress, typed) =>
    let progress ← restorePendingKeyboardMapping env progress
    return (if typed then
      { progress with temporaryMappingScalars := progress.temporaryMappingScalars + 1 } else progress, typed)

def runTemporaryScalar (scalar : Char) (delayBeforeMs : Nat) (deadline : Option Instant)
    (progress : KeyboardProgress) : EngineM KeyboardRunError (KeyboardProgress × Bool) := do
  match ← boundaryStop env deadline with
  | some stopped => return (progress.stop stopped, false)
  | none =>
    let context ← mapError progress.failure (keyboardResolutionContext .exactText)
    let (reservation, original) ← mapError progress.failure (reserveBlankKeycode env)
    match ← boundaryStop env deadline with
    | some stopped => return (progress.stop stopped, false)
    | none =>
      let installed := temporaryRow original scalar
      storeRestore reservation original
      let progress := { progress with temporaryMappingRestorationProven := some false }
      match ← attempt (writeVerified env reservation.key installed (isInstalled installed)) with
      | .error fault => abandonInstall env fault progress
      | .ok () =>
        typeAndRestore env scalar delayBeforeMs reservation context deadline
          { progress with temporaryMappingsInstalled := progress.temporaryMappingsInstalled + 1 }

/-! ## Actions -/

/-- A character in the current layout or, when it is not there and the mode
allows, through a temporary mapping. -/
def typeScalar (mode : PhysicalTextMode) (delayMs : Nat) (deadline : Option Instant) (index : Nat)
    (scalar : Char) (progress : KeyboardProgress) : EngineM KeyboardRunError (KeyboardProgress × Bool) := do
  let delayBeforeMs := if index = 0 then 0 else delayMs
  mark (.scalarStarted index mode false)
  match ← attempt (runExactScalar env scalar delayBeforeMs deadline progress) with
  | .ok (progress, true) =>
    return ({ progress with currentLayoutScalars := progress.currentLayoutScalars + 1 }, true)
  | .ok (progress, false) => return (progress, false)
  | .error e =>
    if e.kind = .textNotRepresentable && mode = .extendedTemporaryMapping then
      mark (.scalarStarted index mode true)
      runTemporaryScalar env scalar delayBeforeMs deadline e.progress
    else fail e

/-- The units of a sequence or a text in order. The host may stop between
them. -/
def keyboardUnits (runUnit :
    Nat → β → KeyboardProgress → EngineM KeyboardRunError (KeyboardProgress × Bool))
    (deadline : Option Instant) : Nat → List β → KeyboardProgress →
    EngineM KeyboardRunError KeyboardProgress
  | _, [], progress => pure progress
  | index, unit :: rest, progress => do
    match ← boundaryStop env deadline with
    | some stopped => return progress.stop stopped
    | none =>
      match ← runUnit index unit progress with
      | (progress, false) => return progress
      | (progress, true) =>
        let progress := { progress with completedUnits := progress.completedUnits + 1 }
        if rest.isEmpty then
          let stop ← deadlineStop env deadline
          return { progress with stopped := stop }
        else
          match ← boundaryStop env deadline with
          | some stopped => return progress.stop stopped
          | none => keyboardUnits runUnit deadline (index + 1) rest progress

/-- A key down or up is one unit. -/
def singleUnit (deadline : Option Instant) :
    KeyboardProgress × Bool → EngineM KeyboardRunError KeyboardProgress
  | (progress, false) => pure progress
  | (progress, true) => do
    let stop ← deadlineStop env deadline
    return { progress with completedUnits := 1, stopped := stop }

def runKeyboardAction (action : KeyboardAction) (deadline : Option Instant) :
    EngineM KeyboardRunError KeyboardProgress :=
  let progress : KeyboardProgress := { redactScalarEvidence := action.kind.containsScalarIdentifier }
  match action.kind with
  | .down identifier => runKeyboardDown env identifier deadline progress >>= singleUnit env deadline
  | .up identifier => runKeyboardUp env identifier deadline progress >>= singleUnit env deadline
  | .sequence steps =>
    keyboardUnits env (fun _ step progress => runKeyboardStep env step deadline progress) deadline 0 steps
      progress
  | .text scalars mode delayMs =>
    keyboardUnits env (typeScalar env mode delayMs deadline) deadline 0 scalars
      { progress with textScalarCount := some scalars.length, requestedTextMode := some mode }

end InputEngine

end Xenoteer
