/-
Validated pointer actions (`input/action.rs`), and the releases a reset plans
for what is owned (`input/cleanup.rs`).
-/
import Xenoteer.Input.Motion
import Xenoteer.Input.State

namespace Xenoteer

/-! ## Root points -/

/-- `RootPoint::new`: the XTEST coordinate range. -/
def RootPoint.new (x y : Int) : Option RootPoint :=
  if h : (-2 ^ 15 ≤ x ∧ x < 2 ^ 15) ∧ -2 ^ 15 ≤ y ∧ y < 2 ^ 15 then some ⟨x, y, h.1, h.2⟩ else none

/-- A relative pointer displacement: an `i32` each way. -/
structure PointerDelta where
  dx : Int
  dy : Int
  dx_range : -2 ^ 31 ≤ dx ∧ dx < 2 ^ 31
  dy_range : -2 ^ 31 ≤ dy ∧ dy < 2 ^ 31

/-- `RootPoint::checked_add`. A sum outside `i32` is outside the XTEST range
as well. -/
def RootPoint.checkedAdd (point : RootPoint) (delta : PointerDelta) : Option RootPoint :=
  RootPoint.new (point.x + delta.dx) (point.y + delta.dy)

/-! ## Buttons -/

inductive LogicalButton where
  | left
  | middle
  | right
  | scrollUp
  | scrollDown
  | scrollLeft
  | scrollRight
  | back
  | forward
deriving DecidableEq

def LogicalButton.number : LogicalButton → UInt8
  | .left => 1
  | .middle => 2
  | .right => 3
  | .scrollUp => 4
  | .scrollDown => 5
  | .scrollLeft => 6
  | .scrollRight => 7
  | .back => 8
  | .forward => 9

inductive InputDelayKind where
  | preClickDwell
  | pressDuration
  | dragPressDwell
  | dragReleaseDwell

/-- Why a mapping or a pointer action was rejected. -/
inductive PointerActionError where
  | invalidButtonMappingLength (actual : Nat)
  | ambiguousLogicalButton (logical : UInt8)
  | unavailableLogicalButton (logical : UInt8)
  | invalidPhysicalButton
  | invalidClickCount (count : Nat)
  | eventLimitExceeded
  | xtestDelayTooLong (kind : InputDelayKind) (delayMs : Nat)
  | invalidDoubleClickThreshold (thresholdMs : Nat)
  | interClickIntervalTooLong (intervalMs thresholdMs : Nat)
  | invalidScrollCount (count : Nat)
  | invalidScrollInterval (intervalMs : Nat)

/-- A server pointer map; index zero is physical button 1. -/
structure ButtonMapping where
  logicalByPhysical : List UInt8
  length_le : logicalByPhysical.length ≤ 255

namespace ButtonMapping

/-- The indices that map to the logical number. -/
def matching (mapping : ButtonMapping) (logical : UInt8) : List Nat :=
  (List.range mapping.logicalByPhysical.length).filter fun index =>
    mapping.logicalByPhysical[index]? = some logical

/-- The one physical button of a logical name. -/
def physicalFor (mapping : ButtonMapping) (logical : LogicalButton) :
    Except PointerActionError PhysicalButton :=
  match mapping.matching logical.number with
  | [] => .error (.unavailableLogicalButton logical.number)
  | [index] => (PhysicalButton.new (UInt8.ofNat (index + 1))).mapError fun _ => .invalidPhysicalButton
  | _ => .error (.ambiguousLogicalButton logical.number)

/-- The logical number of a physical button (`logical_for_physical`). -/
def logicalFor (mapping : ButtonMapping) (button : PhysicalButton) : Option UInt8 :=
  mapping.logicalByPhysical[button.detail.toNat - 1]?

end ButtonMapping

inductive ButtonDirection where
  | down
  | up
deriving DecidableEq

/-! ## Actions -/

def maxClickCount : Nat := 5

def maxScrollCount : Nat := 1000

def maxScrollIntervalMs : Nat := 1000

def maxXtestDelayMs : Nat := 10000

def defaultDoubleClickThresholdMs : Nat := 250

def maxInputActionEvents : Nat := maxMotionEvents

def validateXtestDelay (kind : InputDelayKind) (delayMs : Nat) : Except PointerActionError Unit :=
  if maxXtestDelayMs < delayMs then .error (.xtestDelayTooLong kind delayMs) else .ok ()

structure ClickAction where
  movement : Option MotionPlan
  logicalButton : LogicalButton
  count : Nat
  preClickDwellMs : Nat
  pressDurationMs : Nat
  interClickIntervalMs : Nat
  count_range : 1 ≤ count ∧ count ≤ maxClickCount
  events_le : (movement.map MotionPlan.eventCount).getD 0 + 2 * count ≤ maxInputActionEvents

def ClickAction.new (movement : Option MotionPlan) (logicalButton : LogicalButton)
    (count preClickDwellMs pressDurationMs interClickIntervalMs doubleClickThresholdMs : Nat) :
    Except PointerActionError ClickAction := do
  if hcount : ¬ (1 ≤ count ∧ count ≤ maxClickCount) then throw (.invalidClickCount count)
  else
    validateXtestDelay .preClickDwell preClickDwellMs
    validateXtestDelay .pressDuration pressDurationMs
    if doubleClickThresholdMs = 0 ∨ maxXtestDelayMs < doubleClickThresholdMs then
      throw (.invalidDoubleClickThreshold doubleClickThresholdMs)
    if doubleClickThresholdMs ≤ interClickIntervalMs then
      throw (.interClickIntervalTooLong interClickIntervalMs doubleClickThresholdMs)
    if hevents : maxInputActionEvents < (movement.map MotionPlan.eventCount).getD 0 + 2 * count then
      throw .eventLimitExceeded
    else
      .ok { movement, logicalButton, count, preClickDwellMs, pressDurationMs, interClickIntervalMs,
            count_range := not_not.mp hcount, events_le := Nat.le_of_not_lt hevents }

/-- An atomic press, motion and release. The press is followed by a motion to
the start, which carries the dwell. -/
structure DragAction where
  movement : MotionPlan
  logicalButton : LogicalButton
  pressDwellMs : Nat
  releaseDwellMs : Nat
  events_le : movement.eventCount + 3 ≤ maxInputActionEvents

def DragAction.new (movement : MotionPlan) (logicalButton : LogicalButton)
    (pressDwellMs releaseDwellMs : Nat) : Except PointerActionError DragAction := do
  validateXtestDelay .dragPressDwell pressDwellMs
  validateXtestDelay .dragReleaseDwell releaseDwellMs
  if hevents : maxInputActionEvents < movement.eventCount + 3 then throw .eventLimitExceeded
  else
    .ok { movement, logicalButton, pressDwellMs, releaseDwellMs, events_le := Nat.le_of_not_lt hevents }

inductive ScrollDirection where
  | up
  | down
  | left
  | right
deriving DecidableEq

def ScrollDirection.logicalButton : ScrollDirection → LogicalButton
  | .up => .scrollUp
  | .down => .scrollDown
  | .left => .scrollLeft
  | .right => .scrollRight

/-- A bounded sequence of discrete scroll notches. -/
structure ScrollAction where
  direction : ScrollDirection
  count : Nat
  intervalMs : Nat
  count_range : 1 ≤ count ∧ count ≤ maxScrollCount
  interval_le : intervalMs ≤ maxScrollIntervalMs

def ScrollAction.logicalButton (action : ScrollAction) : LogicalButton := action.direction.logicalButton

/-- An admitted physical input operation. The engine refuses the key plans of
this type; keys come as `KeyboardAction`s. -/
inductive InputAction where
  | move (plan : MotionPlan)
  | click (action : ClickAction)
  | drag (action : DragAction)
  | scroll (action : ScrollAction)
  | key
  | button (button : PhysicalButton) (direction : ButtonDirection) (allowRedundant : Bool)

/-! ## Cleanup -/

/-- One zero-delay release of a reset. -/
inductive CleanupAction where
  | releaseButton (button : PhysicalButton)
  | releaseKey (key : PhysicalKey) (modifier : Bool)
deriving DecidableEq

def CleanupAction.target : CleanupAction → PendingRelease
  | .releaseButton button => .button button
  | .releaseKey key _ => .key key

def CleanupAction.isButton : CleanupAction → Bool
  | .releaseButton _ => true
  | .releaseKey _ _ => false

def CleanupAction.isKey (modifier : Bool) : CleanupAction → Bool
  | .releaseButton _ => false
  | .releaseKey _ value => value == modifier

/-- Owned buttons, then keys, then modifiers, each in reverse order. -/
def planCleanup (state : InputState) : List CleanupAction :=
  state.pressedButtons.reverse.map .releaseButton ++
    (state.pressedKeys.reverse.filter (!·.modifier)).map (fun owned => .releaseKey owned.key false) ++
    (state.pressedKeys.reverse.filter (·.modifier)).map fun owned => .releaseKey owned.key true

end Xenoteer
