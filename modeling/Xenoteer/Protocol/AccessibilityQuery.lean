/-
Accessibility selectors, query limits and wait requests, with their
validation (`xenoteer-protocol/src/accessibility.rs`).
-/
import Xenoteer.Protocol.Accessibility

namespace Xenoteer

def maxAccessibilitySelectorPredicates : Nat := 64
def maxAccessibilityRegexBytes : Nat := 1024
def maxAccessibilityQueryVisitedNodes : Nat := 25000
def maxAccessibilitySelectorDepth : Nat := 64
def maxAccessibilityQueryMatches : Nat := 1000
def maxAccessibilityQueryTimeoutMs : Nat := 10000
def maxAccessibilityWaitTimeoutMs : Nat := 120000

/-! ## Selectors -/

inductive ElementOrder where
  | preorder
  | reversePreorder
  | nameAscending
  | nameDescending
  | roleThenName
  | objectPathAscending
deriving DecidableEq

/-- `startsWith` and `endsWith` are the source's `Prefix` and `Suffix`. -/
inductive ElementStringMatch where
  | exact (value : Text) (caseSensitive : Bool)
  | contains (value : Text) (caseSensitive : Bool)
  | startsWith (value : Text) (caseSensitive : Bool)
  | endsWith (value : Text) (caseSensitive : Bool)
  | regex (pattern : Text) (caseSensitive : Bool)

def ElementStringMatch.validate (m : ElementStringMatch) : Except AccessibilityValidationError Unit :=
  let (value, maximum) := match m with
    | .exact value _ | .contains value _ | .startsWith value _ | .endsWith value _ =>
      (value, maxAccessibilityShortTextBytes)
    | .regex pattern _ => (pattern, maxAccessibilityRegexBytes)
  if value.isEmpty || maximum < value.byteLen || value.contains '\x00' then .error .selectorText else .ok ()

inductive ElementPredicate where
  | role (roles : List ElementRole)
  | name (matcher : ElementStringMatch)
  | description (matcher : ElementStringMatch)
  | accessibleId (matcher : ElementStringMatch)
  | state (state : ElementState) (value : Bool)
  | interface (interface : ElementInterface)
  | attribute (name : Text) (matcher : ElementStringMatch)
  | action (matcher : ElementStringMatch)
  | valueRange (minimum maximum : Option F64)
  | indexInParent (index : UInt32)
  | childCount (minimum maximum : Option UInt32)
  | relation (relation : ElementRelationType) (target : ElementRef)
  | componentIntersects (coordinateSpace : CoordinateSpace) (rect : Rect)

/-- The present bounds are in order. -/
def validCounts (minimum maximum : Option UInt32) : Bool :=
  match minimum, maximum with
  | some minimum, some maximum => minimum ≤ maximum
  | _, _ => true

/-- A rectangle in screen coordinates. -/
def validateScreenRect (coordinateSpace : CoordinateSpace) (rect : Rect) :
    Except AccessibilityValidationError Unit :=
  if coordinateSpace ≠ .atspiScreen then .error .geometry else rect.validate.mapError fun _ => .geometry

/-- Predicates on metadata that is not hydrated are refused. -/
def ElementPredicate.validate : ElementPredicate → Except AccessibilityValidationError Unit
  | .role roles =>
    if roles.isEmpty || maxAccessibilityCollectionItems < roles.length then .error .collection else .ok ()
  | .name matcher | .description matcher => matcher.validate
  | .accessibleId _ | .attribute _ _ | .action _ | .relation _ _ => .error .unsupportedFeature
  | .valueRange minimum maximum => if !validRange minimum maximum then .error .numericRange else .ok ()
  | .childCount minimum maximum => if !validCounts minimum maximum then .error .numericRange else .ok ()
  | .componentIntersects coordinateSpace rect => validateScreenRect coordinateSpace rect
  | .state _ _ | .interface _ | .indexInParent _ => .ok ()

inductive ElementScope where
  | desktop
  | application (application : ApplicationRef)
  | window (window : WindowRef)
  | subtree (root : ElementRef) (includeRoot : Bool)
  | children (parent : ElementRef)

def ElementScope.validateFor (desktopId : DesktopId) (desktopGeneration : DesktopGeneration) :
    ElementScope → Except AccessibilityValidationError Unit
  | .desktop => .ok ()
  | .application a => do
    a.validate
    validateApplicationScope desktopId desktopGeneration a
  | .window w => do
    w.validateShape.mapError fun _ => .referenceScope
    if w.desktopId ≠ desktopId ∨ w.desktopGeneration ≠ desktopGeneration then throw .referenceScope
  | .subtree root _ | .children root => do
    root.validate
    validateElementScope desktopId desktopGeneration root

structure ElementSelector where
  scope : ElementScope
  predicates : List ElementPredicate
  order : ElementOrder
  resultIndex : Option UInt32

def ElementSelector.validateFor (s : ElementSelector) (desktopId : DesktopId)
    (desktopGeneration : DesktopGeneration) : Except AccessibilityValidationError Unit := do
  s.scope.validateFor desktopId desktopGeneration
  if maxAccessibilitySelectorPredicates < s.predicates.length then throw .selectorPredicates
  s.predicates.forM fun predicate => do
    predicate.validate
    match predicate with
    | .relation _ target => validateElementScope desktopId desktopGeneration target
    | _ => return ()

structure AccessibilityQueryLimits where
  maxVisitedNodes : UInt32
  maxDepth : UInt16
  maxMatches : UInt16
  timeoutMs : UInt32

namespace AccessibilityQueryLimits

def validate (l : AccessibilityQueryLimits) : Except AccessibilityValidationError Unit :=
  if l.maxVisitedNodes = 0 ∨ maxAccessibilityQueryVisitedNodes < l.maxVisitedNodes.toNat ∨
      l.maxDepth = 0 ∨ maxAccessibilitySelectorDepth < l.maxDepth.toNat ∨
      l.maxMatches = 0 ∨ maxAccessibilityQueryMatches < l.maxMatches.toNat ∨
      l.timeoutMs = 0 ∨ maxAccessibilityQueryTimeoutMs < l.timeoutMs.toNat then
    .error .queryLimits
  else .ok ()

end AccessibilityQueryLimits

/-- Which optional fields of a snapshot an answer carries. -/
structure ElementSnapshotExpansion where
  actions : Bool
  value : Bool
  textMetadata : Bool
  textContent : Bool
  attributes : Bool
  relations : Bool
  component : Bool

namespace ElementSnapshotExpansion

def validate (e : ElementSnapshotExpansion) : Except AccessibilityValidationError Unit :=
  if e.actions || e.textContent || e.attributes || e.relations then .error .unsupportedFeature else .ok ()

end ElementSnapshotExpansion

structure ElementSnapshotEntry where
  snapshot : ElementSnapshot

/-! ## Waits -/

inductive ElementWaitQuantifier where
  | any
  | all
  | exactlyOne
  | none

inductive ElementWaitTarget where
  | reference (element : ElementRef)
  | selector (selector : ElementSelector) (quantifier : ElementWaitQuantifier)

inductive ElementWaitPredicate where
  | exists
  | gone
  | state (state : ElementState) (value : Bool)
  | name (matcher : ElementStringMatch)
  | value (minimum maximum : Option F64)
  | text (matcher : ElementStringMatch)
  | childCount (minimum maximum : Option UInt32)
  | geometry (coordinateSpace : CoordinateSpace) (intersects : Rect)
  | selectorCount (minimum : UInt32) (maximum : Option UInt32)

def ElementWaitPredicate.validate : ElementWaitPredicate → Except AccessibilityValidationError Unit
  | .name matcher => matcher.validate
  | .text _ => .error .unsupportedFeature
  | .value minimum maximum => if !validRange minimum maximum then .error .numericRange else .ok ()
  | .childCount minimum maximum => if !validCounts minimum maximum then .error .numericRange else .ok ()
  | .geometry coordinateSpace intersects => validateScreenRect coordinateSpace intersects
  | .selectorCount minimum maximum =>
    if !validCounts (some minimum) maximum then .error .numericRange else .ok ()
  | .exists | .gone | .state _ _ => .ok ()

structure ElementWaitRequest where
  desktopId : DesktopId
  desktopGeneration : DesktopGeneration
  target : ElementWaitTarget
  predicate : ElementWaitPredicate
  afterRevision : Option AccessibilityRevision
  timeoutMs : UInt32
  allowPollFallback : Bool
  expansion : ElementSnapshotExpansion
  limits : AccessibilityQueryLimits

def ElementWaitRequest.validate (r : ElementWaitRequest) : Except AccessibilityValidationError Unit := do
  validateDesktopScope r.desktopId r.desktopGeneration
  if r.timeoutMs = 0 ∨ maxAccessibilityWaitTimeoutMs < r.timeoutMs.toNat then throw .waitTimeout
  match r.target with
  | .reference element =>
    element.validate
    validateElementScope r.desktopId r.desktopGeneration element
  | .selector selector _ => selector.validateFor r.desktopId r.desktopGeneration
  r.predicate.validate
  r.limits.validate
  r.expansion.validate

end Xenoteer
