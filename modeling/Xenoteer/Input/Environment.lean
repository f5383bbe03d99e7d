/-
The input engine's surroundings (`input/backend.rs`, the `ActorKeyboardModel`
trait, the cancellation token, the clock and the caller's check), and the
record of what the engine asked them.

The surroundings are a strategy: each call is answered as a function of
everything that happened before it, so a value, a fault or an unwinding may
come at any moment. The trace holds every call with its answer, in order, and
the few moments of the engine's own work that statements about it name.
-/
import Xenoteer.Lib.Prog
import Xenoteer.Input.Outcome
import Xenoteer.Window.Geometry

namespace Xenoteer

open Lib

inductive BackendFaultKind where
  | connection
  | request
  | capability
deriving DecidableEq

structure BackendFault where
  kind : BackendFaultKind

structure BackendStartup where
  buttonMapping : ButtonMapping
  minKeycode : UInt8
  maxKeycode : UInt8

/-- What `drain_events` found. Keyboard changes are read from the keyboard
model instead. -/
structure DrainedEvents where
  pointerMapping : Option ButtonMapping

inductive BackendEvent where
  | motion (point : RootPoint) (delayMs : Nat)
  | button (button : PhysicalButton) (pressed : Bool) (delayMs : Nat)
  | key (key : PhysicalKey) (pressed : Bool) (delayMs : Nat)

structure CoreKeyboardMapping where
  keysymsPerKeycode : UInt8
  keysyms : List UInt32
deriving DecidableEq

/-- Moments of the engine's own work. -/
inductive EngineMark where
  /-- The batch releases these buttons, which were not owned when it started. -/
  | batchStarted (unowned : List PhysicalButton)
  | batchConfirmed
  | resetStarted (health : InputHealth)
  /-- `run_action` or `run_keyboard_action` ended. -/
  | actionEnded (failed : Bool) (health : InputHealth)
  | keyboardStarted
  /-- A character of a text is tried, with the current layout or a temporary
  mapping. -/
  | scalarStarted (index : Nat) (mode : PhysicalTextMode) (temporary : Bool)
  | restoreStored (key : PhysicalKey) (original : CoreKeyboardMapping)
  | restoreDropped (key : PhysicalKey)

/-- A call with its answer, or a mark. -/
inductive Entry where
  | drainEvents (answer : Exit BackendFault DrainedEvents)
  | sendEvent (event : BackendEvent) (answer : Exit BackendFault Unit)
  | checkCookie (index : Nat) (answer : Exit BackendFault Unit)
  | observePointer (answer : Exit BackendFault PointerObservation)
  | observeKeys (answer : Exit BackendFault (List PhysicalKey))
  | waitForInputDelay (durationMs : Nat) (answer : Exit Empty Unit)
  | observeWindowGeometry (window : UInt32) (answer : Exit BackendFault WindowGeometryContext)
  | readKeyboardMapping (key : PhysicalKey) (answer : Exit BackendFault CoreKeyboardMapping)
  | writeKeyboardMapping (key : PhysicalKey) (mapping : CoreKeyboardMapping)
      (answer : Exit BackendFault Unit)
  | synchronizePreflight (answer : Exit KeyboardModelFault ModelPreflight)
  | resolveSynchronized (identifier : KeyIdentifier) (context : KeyboardResolutionContext)
      (answer : Exit KeyboardModelFault CapturedKeyBinding)
  | validateBinding (binding : CapturedKeyBinding) (context : KeyboardResolutionContext)
      (answer : Exit KeyboardModelFault ModelPreflight)
  | validateHeldBinding (binding : CapturedKeyBinding) (expected : KeyIdentifier)
      (context : KeyboardResolutionContext) (answer : Exit KeyboardModelFault HeldBindingGeneration)
  | reserveUnusedKeycode (answer : Exit KeyboardModelFault KeyboardReservation)
  | validateReservation (reservation : KeyboardReservation)
      (answer : Exit KeyboardModelFault ModelPreflight)
  | evaluatePrecondition (answer : Exit InputPreconditionFailure Unit)
  | isCancelled (answer : Bool)
  | now (answer : Instant)
  | mark (mark : EngineMark)

/-- Oldest first. -/
abbrev EngineTrace := List Entry

structure Environment where
  drainEvents : EngineTrace → Exit BackendFault DrainedEvents
  sendEvent : EngineTrace → BackendEvent → Exit BackendFault Unit
  /-- The cookie of the batch's `index`-th accepted event. -/
  checkCookie : EngineTrace → Nat → Exit BackendFault Unit
  observePointer : EngineTrace → Exit BackendFault PointerObservation
  observeKeys : EngineTrace → Exit BackendFault (List PhysicalKey)
  waitForInputDelay : EngineTrace → Nat → Exit Empty Unit
  observeWindowGeometry : EngineTrace → UInt32 → Exit BackendFault WindowGeometryContext
  readKeyboardMapping : EngineTrace → PhysicalKey → Exit BackendFault CoreKeyboardMapping
  writeKeyboardMapping : EngineTrace → PhysicalKey → CoreKeyboardMapping → Exit BackendFault Unit
  /-- What the keyboard model knows of itself; reading it changes nothing. -/
  diagnostics : EngineTrace → KeyboardModelDiagnostics
  synchronizePreflight : EngineTrace → Exit KeyboardModelFault ModelPreflight
  resolveSynchronized : EngineTrace → KeyIdentifier → KeyboardResolutionContext →
    Exit KeyboardModelFault CapturedKeyBinding
  validateBinding : EngineTrace → CapturedKeyBinding → KeyboardResolutionContext →
    Exit KeyboardModelFault ModelPreflight
  validateHeldBinding : EngineTrace → CapturedKeyBinding → KeyIdentifier → KeyboardResolutionContext →
    Exit KeyboardModelFault HeldBindingGeneration
  reserveUnusedKeycode : EngineTrace → Exit KeyboardModelFault KeyboardReservation
  validateReservation : EngineTrace → KeyboardReservation → Exit KeyboardModelFault ModelPreflight
  evaluatePrecondition : EngineTrace → Exit InputPreconditionFailure Unit
  isCancelled : EngineTrace → Bool
  now : EngineTrace → Instant
  arithmetic : MotionArithmetic

/-! ## The engine -/

/-- A set of the 256 values of an X11 detail (`[u64; 4]`). -/
abbrev DetailSet := UInt8 → Bool

def DetailSet.set (bits : DetailSet) (detail : UInt8) (value : Bool) : DetailSet :=
  fun other => if other = detail then value else bits other

/-- Presses handed to the backend that no observation has shown up since. -/
structure SentPressLedger where
  keys : DetailSet
  modifierKeys : DetailSet
  buttons : DetailSet

def SentPressLedger.empty : SentPressLedger := ⟨fun _ => false, fun _ => false, fun _ => false⟩

structure CapturedKeyHold where
  identifier : KeyIdentifier
  binding : CapturedKeyBinding
  synthesizedModifiers : List PhysicalKey

structure SynthesizedModifierRef where
  key : PhysicalKey
  references : Nat

structure PendingTemporaryRestore where
  key : PhysicalKey
  original : CoreKeyboardMapping

/-- The engine. In place of the connections it owns it has the trace of what
it asked them. -/
structure InputEngine where
  trace : EngineTrace
  state : InputState
  buttonMapping : ButtonMapping
  minKeycode : UInt8
  maxKeycode : UInt8
  lastPointer : Option RootPoint
  invariantFailed : Bool
  capturedKeys : List CapturedKeyHold
  synthesizedModifiers : List SynthesizedModifierRef
  pendingKeyboardRestore : Option PendingTemporaryRestore
  sentPressLedger : SentPressLedger
  keyboardEffectEmitted : Bool

/-- What an engine method does: it may change the engine, return, fail or
unwind. -/
abbrev EngineM (ε α : Type) := Prog InputEngine ε α

namespace InputEngine

/-- The engine after startup. -/
def fresh (startup : BackendStartup) : InputEngine :=
  { trace := [], state := .new, buttonMapping := startup.buttonMapping, minKeycode := startup.minKeycode
    maxKeycode := startup.maxKeycode, lastPointer := none, invariantFailed := false, capturedKeys := []
    synthesizedModifiers := [], pendingKeyboardRestore := none, sentPressLedger := .empty
    keyboardEffectEmitted := false }

/-- Rounds of `synchronize_preflight` until two in a row name one generation
or the model is unavailable. The answers are those of the successive rounds. -/
def stabilize : List (Exit KeyboardModelFault ModelPreflight) → Option Nat → Exit BackendFault Unit
  | [], _ => .error ⟨.capability⟩
  | .unwound :: _, _ => .unwound
  | .error fault :: _, _ =>
    if fault.kind = .unavailable then .ok ()
    else .error ⟨if fault.kind = .connection then .connection else .capability⟩
  | .ok preflight :: rest, stable =>
    if stable = some preflight.generation then .ok () else stabilize rest (some preflight.generation)

/-- The engine, when the backend starts and the keyboard model is stable
within eight rounds. -/
def newWithKeyboard (startup : Exit BackendFault BackendStartup)
    (preflights : Nat → Exit KeyboardModelFault ModelPreflight) : Exit BackendFault InputEngine :=
  match startup with
  | .unwound => .unwound
  | .error fault => .error fault
  | .ok startup =>
    match stabilize ((List.range 8).map preflights) none with
    | .unwound => .unwound
    | .error fault => .error fault
    | .ok () => .ok (fresh startup)

/-- An engine that has started. -/
abbrev Started := { engine : InputEngine // ∃ startup preflights, newWithKeyboard startup preflights = .ok engine }

variable {ε φ α : Type}

def addEntry (s : InputEngine) (entry : Entry) : InputEngine := { s with trace := s.trace ++ [entry] }

/-- One call: the answer is recorded, and a fault is a value. -/
def ask (answer : EngineTrace → Exit φ α) (entry : Exit φ α → Entry) : EngineM ε (Except φ α) :=
  ⟨fun s =>
    let given := answer s.trace
    let s := s.addEntry (entry given)
    match given with
    | .ok value => (.ok (.ok value), s)
    | .error fault => (.ok (.error fault), s)
    | .unwound => (.unwound, s)⟩

def mark (m : EngineMark) : EngineM ε Unit := Prog.update (·.addEntry (.mark m))

/-- An operation of the input state. -/
def onState (f : InputState → Except InputStateError α × InputState) :
    EngineM ε (Except InputStateError α) :=
  ⟨fun s => (.ok (f s.state).1, { s with state := (f s.state).2 })⟩

end InputEngine

end Xenoteer
