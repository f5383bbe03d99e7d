/-
Keyboard identities and bindings (`keyboard.rs`, `input/keyboard_model.rs`)
and the keyboard actions admitted to the actor (`input/keyboard_action.rs`).

The keyboard model itself resolves identities against the server's keymap; it
answers the engine's questions and is part of the environment. A build with
the native model is described, so every fault kind exists.
-/
import Xenoteer.Input.Effect

namespace Xenoteer

/-! ## Identities and bindings -/

/-- The closed named-key vocabulary. -/
inductive NamedKey where
  | backspace | tab | enter | escape | space | insert | delete | home | endKey | pageUp | pageDown
  | arrowLeft | arrowUp | arrowRight | arrowDown | shift | control | alt | metaKey | superKey | shiftLeft
  | shiftRight | controlLeft | controlRight | altLeft | altRight | metaLeft | metaRight | superLeft
  | superRight | hyperLeft | hyperRight | altGraph | capsLock | numLock | scrollLock | printScreen
  | pause | contextMenu | f1 | f2 | f3 | f4 | f5 | f6 | f7 | f8 | f9 | f10 | f11 | f12 | f13 | f14
  | f15 | f16 | f17 | f18 | f19 | f20 | f21 | f22 | f23 | f24
deriving DecidableEq

inductive KeyIdentifier where
  | named (key : NamedKey)
  | scalar (value : Char)
  | raw (keycode : UInt8)
deriving DecidableEq

def KeyIdentifier.isScalar : KeyIdentifier → Bool
  | .scalar _ => true
  | _ => false

inductive KeyboardModelAvailability where
  | available
  | featureDisabled

inductive KeyboardModelFaultKind where
  | unavailable
  | conflict
  | notRepresentable
  | mappingChanged
  /-- `Unsafe`: no modifier provider can be used safely. -/
  | notSafe
  | connection
  | platform
deriving DecidableEq

structure KeyboardModelFault where
  kind : KeyboardModelFaultKind

structure KeyboardModelDiagnostics where
  availability : KeyboardModelAvailability
  generation : Option Nat
  keymapFingerprint : Option Nat

structure ModelPreflight where
  generation : Nat
  mappingInvalidations : Nat
  structuralSetMapInvalidations : Nat
  keymapFingerprint : Option Nat

inductive HeldBindingGeneration where
  | current
  | stale (captured current : Nat)
deriving DecidableEq

structure RequiredModifierBinding where
  key : PhysicalKey
  alreadyActive : Bool

/-- One resolved physical binding. The model's own token in it is never read
by the engine. -/
structure CapturedKeyBinding where
  identifier : KeyIdentifier
  key : PhysicalKey
  concreteNamedKey : Option NamedKey
  layout : Nat
  level : Nat
  generation : Nat
  isModifier : Bool
  requiredModifiers : List RequiredModifierBinding

structure KeyboardBindingEvidence where
  key : PhysicalKey
  concreteNamedKey : Option NamedKey
  layout : Nat
  level : Nat
  generation : Nat
  isModifier : Bool
  requiredModifiers : List PhysicalKey

namespace CapturedKeyBinding

def evidence (binding : CapturedKeyBinding) : KeyboardBindingEvidence :=
  { key := binding.key, concreteNamedKey := binding.concreteNamedKey, layout := binding.layout
    level := binding.level, generation := binding.generation, isModifier := binding.isModifier
    requiredModifiers := binding.requiredModifiers.map (·.key) }

/-- The same physical meaning in a rebuilt generation. -/
def physicallyEquivalentAcrossGeneration (binding other : CapturedKeyBinding) : Bool :=
  binding.identifier = other.identifier && binding.key = other.key &&
    binding.concreteNamedKey = other.concreteNamedKey && binding.layout = other.layout &&
    binding.level = other.level && binding.isModifier = other.isModifier &&
    binding.requiredModifiers.map (·.key) = other.requiredModifiers.map (·.key)

def physicallyEquivalent (binding other : CapturedKeyBinding) : Bool :=
  binding.physicallyEquivalentAcrossGeneration other && binding.generation = other.generation

end CapturedKeyBinding

structure KeyboardReservation where
  key : PhysicalKey

inductive KeyboardResolutionIntent where
  | physicalKey
  | exactText

def maxResolutionOwnedKeys : Nat := 248

inductive ResolutionContextError where
  | tooManyOwnedKeys (actual : Nat)
  | invalidOwnedKeycode (keycode : UInt8)
  | duplicateOwnedKeycode (keycode : UInt8)

structure KeyboardResolutionContext where
  intent : KeyboardResolutionIntent
  actorOwned : List UInt8

/-- The first keycode that is too small or was seen before. -/
def checkOwnedKeycodes : List UInt8 → List UInt8 → Except ResolutionContextError Unit
  | _, [] => .ok ()
  | seen, keycode :: rest =>
    if keycode < minPhysicalKeycode then .error (.invalidOwnedKeycode keycode)
    else if keycode ∈ seen then .error (.duplicateOwnedKeycode keycode)
    else checkOwnedKeycodes (keycode :: seen) rest

def KeyboardResolutionContext.new (intent : KeyboardResolutionIntent) (actorOwned : List UInt8) :
    Except ResolutionContextError KeyboardResolutionContext := do
  if maxResolutionOwnedKeys < actorOwned.length then throw (.tooManyOwnedKeys actorOwned.length)
  checkOwnedKeycodes [] actorOwned
  return ⟨intent, actorOwned⟩

/-! ## Keyboard actions -/

def maxKeyboardSequenceSteps : Nat := 1024

def maxPhysicalTextScalars : Nat := 128

def maxKeyboardDelayMs : Nat := 10000

def maxKeyboardTotalDurationMs : Nat := 300000

def maxKeyboardChordKeys : Nat := 16

def maxKeyboardActionEvents : Nat := 4096

inductive PhysicalTextMode where
  | currentLayout
  | extendedTemporaryMapping
deriving DecidableEq

inductive KeyboardActionError where
  | invalidRawKeycode (keycode : UInt8)
  | emptyChord
  | tooManyChordKeys (actual : Nat)
  | duplicateChordKey
  | emptySequence
  | tooManySequenceSteps (actual : Nat)
  | emptyText
  | tooManyTextScalars (actual : Nat)
  | delayTooLong (actualMs : Nat)
  | durationOverflow
  | totalDurationTooLong (actualMs : Nat)
  | tooManyEvents (actual : Nat)

def validateIdentifier : KeyIdentifier → Except KeyboardActionError Unit
  | .raw keycode => if keycode < minPhysicalKeycode then .error (.invalidRawKeycode keycode) else .ok ()
  | _ => .ok ()

def validateDelay (delayMs : Nat) : Except KeyboardActionError Unit :=
  if maxKeyboardDelayMs < delayMs then .error (.delayTooLong delayMs) else .ok ()

/-- Each identity is valid and new. -/
def validateChord : List KeyIdentifier → List KeyIdentifier → Except KeyboardActionError Unit
  | _, [] => .ok ()
  | seen, key :: rest => do
    validateIdentifier key
    if key ∈ seen then throw .duplicateChordKey
    validateChord (key :: seen) rest

def validateKeys (keys : List KeyIdentifier) : Except KeyboardActionError Unit := do
  if keys = [] then throw .emptyChord
  if maxKeyboardChordKeys < keys.length then throw (.tooManyChordKeys keys.length)
  validateChord [] keys

/-- One complete press or chord of a sequence. -/
structure KeyboardSequenceStep where
  keys : List KeyIdentifier
  holdMs : Nat
  delayBeforeMs : Nat
  keys_valid : validateKeys keys = .ok ()
  hold_valid : validateDelay holdMs = .ok ()
  delay_valid : validateDelay delayBeforeMs = .ok ()

namespace KeyboardSequenceStep

def chord (keys : List KeyIdentifier) (holdMs delayBeforeMs : Nat) :
    Except KeyboardActionError KeyboardSequenceStep :=
  match hkeys : validateKeys keys, hhold : validateDelay holdMs, hdelay : validateDelay delayBeforeMs with
  | .error e, _, _ => .error e
  | .ok (), .error e, _ => .error e
  | .ok (), .ok (), .error e => .error e
  | .ok (), .ok (), .ok () => .ok ⟨keys, holdMs, delayBeforeMs, hkeys, hhold, hdelay⟩

def press (key : KeyIdentifier) (holdMs delayBeforeMs : Nat) :
    Except KeyboardActionError KeyboardSequenceStep := chord [key] holdMs delayBeforeMs

def eventUpperBound (step : KeyboardSequenceStep) : Nat := (step.keys.length + 8) * 2

end KeyboardSequenceStep

inductive KeyboardActionKind where
  | down (key : KeyIdentifier)
  | up (key : KeyIdentifier)
  | sequence (steps : List KeyboardSequenceStep)
  | text (scalars : List Char) (mode : PhysicalTextMode) (interCharacterDelayMs : Nat)

namespace KeyboardActionKind

def eventUpperBound : KeyboardActionKind → Nat
  | .down _ | .up _ => 9
  | .sequence steps => (steps.map (·.eventUpperBound)).sum
  | .text scalars _ _ => scalars.length * 18

def containsScalarIdentifier : KeyboardActionKind → Bool
  | .down key | .up key => key.isScalar
  | .sequence steps => steps.any fun step => step.keys.any (·.isScalar)
  | .text _ _ _ => true

/-- The requested delays together. -/
def totalDurationMs : KeyboardActionKind → Nat
  | .down _ | .up _ => 0
  | .sequence steps => (steps.map fun step => step.holdMs + step.delayBeforeMs).sum
  | .text scalars _ delayMs => delayMs * (scalars.length - 1)

/-- The checks of `KeyboardAction`'s constructors. -/
def validate (kind : KeyboardActionKind) : Except KeyboardActionError Unit := do
  match kind with
  | .down key | .up key => validateIdentifier key
  | .sequence steps =>
    if steps = [] then throw .emptySequence
    if maxKeyboardSequenceSteps < steps.length then throw (.tooManySequenceSteps steps.length)
  | .text scalars _ delayMs =>
    validateDelay delayMs
    if scalars = [] then throw .emptyText
    if maxPhysicalTextScalars < scalars.length then throw (.tooManyTextScalars scalars.length)
  if u32Max < kind.totalDurationMs then throw .durationOverflow
  if maxKeyboardTotalDurationMs < kind.totalDurationMs then
    throw (.totalDurationTooLong kind.totalDurationMs)
  if maxKeyboardActionEvents < kind.eventUpperBound then throw (.tooManyEvents kind.eventUpperBound)

end KeyboardActionKind

/-- A bounded keyboard action, resolved only inside the actor. Its constructors
check its kind. -/
structure KeyboardAction where
  kind : KeyboardActionKind
  valid : kind.validate = .ok ()

end Xenoteer
