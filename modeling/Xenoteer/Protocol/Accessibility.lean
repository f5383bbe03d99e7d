/-
Accessibility references and element snapshots, with their validation
(`xenoteer-protocol/src/accessibility.rs`).

The size of a snapshot's JSON encoding is the serializer's, which is not part
of the repository: `validate` takes it as an argument (`none` when the
serializer fails).
-/
import Xenoteer.Protocol.Window

namespace Xenoteer

/-! ## Ceilings -/

def maxAccessibilityBusNameBytes : Nat := 255
def maxAccessibilityObjectPathBytes : Nat := 4096
def accessibilityIdentityHashBytes : Nat := 64
def maxAccessibilityTextBytes : Nat := 16 * 1024
def maxAccessibilityShortTextBytes : Nat := 4096
def maxAccessibilityCollectionItems : Nat := 256
def maxAccessibilityActions : Nat := 128
def maxAccessibilityStates : Nat := 128
def maxAccessibilityInterfaces : Nat := 64
def maxAccessibilityWarnings : Nat := 32
def maxAccessibilityAttributes : Nat := 256
def maxAccessibilityRelations : Nat := 128
def maxAccessibilityRelationTargets : Nat := 128
def maxAccessibilityElementEncodedBytes : Nat := 1024 * 1024

inductive AccessibilityValidationError where
  | nilIdentifier
  | generation
  | revision
  | busName
  | objectPath
  | identityHash
  | cacheSequence
  | referenceScope
  | collection
  | text
  | protectedTextExposed
  | geometry
  | correlation
  | selectorText
  | selectorPredicates
  | numericRange
  | queryLimits
  | pageLimit
  | cursor
  | waitTimeout
  | eventSource
  | warning
  | completeness
  | elementEncoding
  | expansion
  | unsupportedFeature
  | exactOnePolicy
  | resultShape
deriving DecidableEq

/-! ## References -/

@[ext]
structure AtspiGeneration where
  value : Nat
  nonzero : value ≠ 0

instance : DecidableEq AtspiGeneration := fun _ _ => decidable_of_iff _ AtspiGeneration.ext_iff.symm

def AtspiGeneration.new (value : Nat) : Except AccessibilityValidationError AtspiGeneration :=
  if h : value = 0 then .error .generation else .ok ⟨value, h⟩

@[ext]
structure AccessibilityRevision where
  value : Nat
  nonzero : value ≠ 0

instance : DecidableEq AccessibilityRevision := fun _ _ => decidable_of_iff _ AccessibilityRevision.ext_iff.symm

def AccessibilityRevision.new (value : Nat) : Except AccessibilityValidationError AccessibilityRevision :=
  if h : value = 0 then .error .revision else .ok ⟨value, h⟩

def validBusElement (value : Text) : Bool :=
  !value.isEmpty && value.all fun c => isAsciiAlphanumeric c || c = '_' || c = '-'

/-- A unique bus name: a colon and at least two elements between dots. -/
def validAtspiBusName : Text → Bool
  | ':' :: suffix => 2 ≤ (Text.split '.' suffix).length && (Text.split '.' suffix).all validBusElement
  | _ => false

def validAtspiObjectPath : Text → Bool
  | ['/'] => true
  | '/' :: suffix => (Text.split '/' suffix).all fun element =>
      !element.isEmpty && element.all fun c => c = '_' || isAsciiAlphanumeric c
  | _ => false

structure AtspiBusName where
  text : Text
  valid : (!text.isEmpty && text.byteLen ≤ maxAccessibilityBusNameBytes && validAtspiBusName text) = true
deriving DecidableEq

structure AtspiObjectPath where
  text : Text
  valid : (!text.isEmpty && text.byteLen ≤ maxAccessibilityObjectPathBytes && validAtspiObjectPath text) = true
deriving DecidableEq

@[ext]
structure AccessibilityIdentityHash where
  text : Text
  length : text.byteLen = accessibilityIdentityHashBytes
  lowerHex : text.all isLowerHexDigit = true

instance : DecidableEq AccessibilityIdentityHash := fun _ _ => decidable_of_iff _ AccessibilityIdentityHash.ext_iff.symm

def validateDesktopScope (desktopId : DesktopId) (desktopGeneration : DesktopGeneration) :
    Except AccessibilityValidationError Unit :=
  if desktopId.uuid = 0 ∨ desktopGeneration.uuid = 0 then .error .nilIdentifier else .ok ()

/-- One instance of an application on one AT-SPI connection. -/
structure ApplicationRef where
  desktopId : DesktopId
  desktopGeneration : DesktopGeneration
  atspiGeneration : AtspiGeneration
  uniqueBusName : AtspiBusName
  rootObjectPath : AtspiObjectPath
  appInstanceGeneration : Nat
  identityHash : AccessibilityIdentityHash
deriving DecidableEq

def ApplicationRef.validate (a : ApplicationRef) : Except AccessibilityValidationError Unit := do
  validateDesktopScope a.desktopId a.desktopGeneration
  if a.appInstanceGeneration = 0 then throw .generation

/-- One birth of an object in one application instance. -/
structure ElementRef where
  desktopId : DesktopId
  desktopGeneration : DesktopGeneration
  atspiGeneration : AtspiGeneration
  application : ApplicationRef
  objectPath : AtspiObjectPath
  objectIdentityHash : AccessibilityIdentityHash
  cacheSequence : Nat
deriving DecidableEq

def ElementRef.validate (e : ElementRef) : Except AccessibilityValidationError Unit := do
  validateDesktopScope e.desktopId e.desktopGeneration
  e.application.validate
  if e.cacheSequence = 0 then throw .cacheSequence
  if e.desktopId ≠ e.application.desktopId ∨ e.desktopGeneration ≠ e.application.desktopGeneration ∨
      e.atspiGeneration ≠ e.application.atspiGeneration then
    throw .referenceScope

def validateApplicationScope (desktopId : DesktopId) (desktopGeneration : DesktopGeneration)
    (application : ApplicationRef) : Except AccessibilityValidationError Unit :=
  if application.desktopId ≠ desktopId ∨ application.desktopGeneration ≠ desktopGeneration then
    .error .referenceScope
  else .ok ()

def validateElementScope (desktopId : DesktopId) (desktopGeneration : DesktopGeneration)
    (element : ElementRef) : Except AccessibilityValidationError Unit :=
  if element.desktopId ≠ desktopId ∨ element.desktopGeneration ≠ desktopGeneration then
    .error .referenceScope
  else .ok ()

def validateSameScope (left right : ElementRef) : Except AccessibilityValidationError Unit :=
  if left.desktopId ≠ right.desktopId ∨ left.desktopGeneration ≠ right.desktopGeneration ∨
      left.atspiGeneration ≠ right.atspiGeneration ∨ left.application ≠ right.application then
    .error .referenceScope
  else .ok ()

/-! ## Texts and collections -/

def validateBounded (value : Text) (allowEmpty : Bool) : Except AccessibilityValidationError Unit :=
  if (!allowEmpty && value.isEmpty) || maxAccessibilityShortTextBytes < value.byteLen || value.contains '\x00' then
    .error .text
  else .ok ()

/-- `validate_short`: as `validate_bounded` without the empty text. -/
def validateShort (value : Text) : Except AccessibilityValidationError Unit := validateBounded value false

def validateShortOptional (value : Option Text) : Except AccessibilityValidationError Unit :=
  value.forM validateShort

def validateOptionalBounded (value : Option Text) (allowEmpty : Bool) :
    Except AccessibilityValidationError Unit :=
  value.forM fun value => validateBounded value allowEmpty

def validateCollection (length maximum : Nat) : Except AccessibilityValidationError Unit :=
  if maximum < length then .error .collection else .ok ()

def validateUnique {α} [DecidableEq α] (values : List α) : Except AccessibilityValidationError Unit :=
  if hasDuplicates values then .error .collection else .ok ()

structure AccessibilityWarning where
  code : Text
  message : Text
deriving DecidableEq

/-- `byte.is_ascii_lowercase() || byte.is_ascii_digit() || matches!(byte, b'.' | b'_' | b'-')`. -/
def isWarningCodeChar (c : Char) : Bool :=
  ('a' ≤ c && c ≤ 'z') || ('0' ≤ c && c ≤ '9') || c = '.' || c = '_' || c = '-'

def validateWarnings (warnings : List AccessibilityWarning) : Except AccessibilityValidationError Unit :=
  warnings.forM fun warning => do
    if warning.code.isEmpty || 64 < warning.code.byteLen || !warning.code.all isWarningCodeChar then
      throw .warning
    validateBounded warning.message false

/-! ## Element snapshots -/

inductive ElementRole where
  | unknown | application | window | dialog | alert | document | section | panel | toolbar | menu | menuItem
  | tab | tabList | button | checkBox | radioButton | toggleButton | comboBox | list | listItem | tree | treeItem
  | table | tableCell | label | text | entry | passwordText | spinButton | slider | scrollBar | progressBar
  | link | image | canvas | terminal
deriving DecidableEq, Ord

structure ElementRoleSnapshot where
  role : ElementRole
  rawName : Option Text
  rawNumeric : Option UInt32
deriving DecidableEq

inductive ElementState where
  | active | busy | checked | defunct | editable | enabled | expandable | expanded | focusable | focused
  | indeterminate | modal | multiSelectable | opaqueState | pressed | protectedState | readOnly | required
  | selectable | selected | sensitive | showing | singleLine | stale | transient | visible | visited
deriving DecidableEq

inductive ElementInterface where
  | accessible | action | application | collection | component | document | editableText | hypertext | image
  | selection | table | tableCell | text | value
deriving DecidableEq

structure ElementActionSnapshot where
  name : Text
  description : Option Text
  keyBinding : Option Text
deriving DecidableEq

structure ElementValueSnapshot where
  current : F64
  minimum : Option F64
  maximum : Option F64
  increment : Option F64
  text : Option Text
deriving DecidableEq

structure AccessibleTextContent where
  text : Text
  bounded : text.byteLen ≤ maxAccessibilityTextBytes
deriving DecidableEq

structure ElementTextRange where
  start : Int32
  stop : Int32
deriving DecidableEq

structure ElementTextSnapshot where
  characterCount : Int32
  caretOffset : Int32
  selections : List ElementTextRange
  content : Option AccessibleTextContent
  contentTruncated : Bool
  isProtected : Bool
deriving DecidableEq

def ElementTextSnapshot.validate (t : ElementTextSnapshot) : Except AccessibilityValidationError Unit := do
  if t.characterCount < 0 ∨ t.caretOffset < -1 ∨ (0 ≤ t.caretOffset ∧ t.characterCount < t.caretOffset) ∨
      maxAccessibilityCollectionItems < t.selections.length ∨
      t.selections.any (fun range =>
        range.start < 0 || range.stop < range.start || t.characterCount < range.stop) then
    throw .text
  if t.isProtected ∧ t.content.isSome then throw .protectedTextExposed

structure ElementComponentSnapshot where
  coordinateSpace : CoordinateSpace
  extents : Option Rect
  layer : Option Text
  zOrder : Option Int16
  alpha : Option UInt8
deriving DecidableEq

inductive WindowCorrelationConfidence where
  | none
  | weak
  | strong
  | exactProcess
deriving DecidableEq

inductive WindowCorrelationSignal where
  | processId
  | managedProcess
  | topLevelExtents
  | title
  | toolkitIdentity
  | clientLeader
  | focusTransition
  | creationProximity
  | explicitCallerReference
deriving DecidableEq

structure WindowCorrelationEvidence where
  signal : WindowCorrelationSignal
  matched : Bool
  detail : Option Text
deriving DecidableEq

structure ElementWindowCorrelation where
  window : Option WindowRef
  confidence : WindowCorrelationConfidence
  evidence : List WindowCorrelationEvidence
  conflictingEvidence : Bool
deriving DecidableEq

inductive ElementCompleteness where
  | complete
  | partially
  | truncated
  | dirty
deriving DecidableEq

structure ElementAttribute where
  name : Text
  value : Text
deriving DecidableEq

inductive ElementRelationType where
  | labelFor | labelledBy | controllerFor | controlledBy | memberOf | nodeChildOf | flowsTo | flowsFrom
  | descriptionFor | describedBy | embeddedBy | embeds | popupFor | parentWindowOf | errorFor | errorMessage
  | details | detailsFor | unknown
deriving DecidableEq

structure ElementRelation where
  relation : ElementRelationType
  targets : List ElementRef
deriving DecidableEq

structure ElementSnapshot where
  element : ElementRef
  parent : Option ElementRef
  indexInParent : Option UInt32
  childCount : Option UInt32
  role : ElementRoleSnapshot
  name : Option Text
  description : Option Text
  accessibleId : Option Text
  locale : Option Text
  states : List ElementState
  interfaces : List ElementInterface
  actions : List ElementActionSnapshot
  value : Option ElementValueSnapshot
  text : Option ElementTextSnapshot
  component : Option ElementComponentSnapshot
  attributes : List ElementAttribute
  relations : List ElementRelation
  windowCorrelation : ElementWindowCorrelation
  revision : AccessibilityRevision
  completeness : ElementCompleteness
  truncated : Bool
  warnings : List AccessibilityWarning
deriving DecidableEq

/-- A range whose present bounds are finite and in order. -/
def validRange (minimum maximum : Option F64) : Bool :=
  minimum.all F64.isFinite && maximum.all F64.isFinite && match minimum, maximum with
    | some minimum, some maximum => !maximum.lt minimum
    | _, _ => true

def ElementValueSnapshot.validate (v : ElementValueSnapshot) :
    Except AccessibilityValidationError Unit := do
  if !v.current.isFinite || !validRange v.minimum v.maximum || !v.increment.all F64.isFinite then
    throw .numericRange
  validateOptionalBounded v.text true

def ElementWindowCorrelation.validate (w : ElementWindowCorrelation) (element : ElementRef) :
    Except AccessibilityValidationError Unit := do
  if maxAccessibilityCollectionItems < w.evidence.length then throw .collection
  if (decide (w.confidence = .none)) ≠ w.window.isNone then throw .correlation
  w.window.forM fun window => do
    window.validateShape.mapError fun _ => .correlation
    if window.desktopId ≠ element.desktopId ∨ window.desktopGeneration ≠ element.desktopGeneration then
      throw .correlation
  w.evidence.forM fun evidence => validateOptionalBounded evidence.detail true

def ElementComponentSnapshot.validate (c : ElementComponentSnapshot) :
    Except AccessibilityValidationError Unit := do
  if c.coordinateSpace ≠ .atspiScreen ∨ c.extents.any (fun rect => rect.validate.isOk = false) then
    throw .geometry
  validateOptionalBounded c.layer true

def ElementRelation.validate (r : ElementRelation) (element : ElementRef) :
    Except AccessibilityValidationError Unit := do
  validateCollection r.targets.length maxAccessibilityRelationTargets
  r.targets.forM fun target => do
    target.validate
    if target.desktopId ≠ element.desktopId ∨ target.desktopGeneration ≠ element.desktopGeneration ∨
        target.atspiGeneration ≠ element.atspiGeneration then
      throw .referenceScope

namespace ElementSnapshot

/-- Password roles are protected even when a toolkit omits its state flag. -/
def isProtected (s : ElementSnapshot) : Bool :=
  s.role.role = .passwordText || s.states.contains .protectedState || s.text.any ElementTextSnapshot.isProtected

def validate (encodedBytes : ElementSnapshot → Option Nat) (s : ElementSnapshot) :
    Except AccessibilityValidationError Unit := do
  s.element.validate
  s.parent.forM fun parent => do
    parent.validate
    validateSameScope s.element parent
  validateShortOptional s.role.rawName
  validateShortOptional s.name
  validateShortOptional s.description
  validateShortOptional s.accessibleId
  validateShortOptional s.locale
  validateCollection s.states.length maxAccessibilityStates
  validateCollection s.interfaces.length maxAccessibilityInterfaces
  validateCollection s.actions.length maxAccessibilityActions
  validateCollection s.attributes.length maxAccessibilityAttributes
  validateCollection s.relations.length maxAccessibilityRelations
  validateCollection s.warnings.length maxAccessibilityWarnings
  validateUnique s.states
  validateUnique s.interfaces
  s.actions.forM fun action => do
    validateShort action.name
    validateOptionalBounded action.description true
    validateOptionalBounded action.keyBinding true
  s.value.forM ElementValueSnapshot.validate
  s.text.forM ElementTextSnapshot.validate
  if s.isProtected ∧ (s.text.any (fun text => text.content.isSome) ∨ s.value.isSome ∨
    s.attributes ≠ []) then
    throw .protectedTextExposed
  s.component.forM ElementComponentSnapshot.validate
  s.windowCorrelation.validate s.element
  s.attributes.forM fun entry => do
    validateShort entry.name
    validateBounded entry.value true
  s.relations.forM fun relation => relation.validate s.element
  validateWarnings s.warnings
  if s.completeness = .truncated ∧ !s.truncated then throw .completeness
  match encodedBytes s with
  | none => throw .elementEncoding
  | some bytes => if maxAccessibilityElementEncodedBytes < bytes then throw .elementEncoding

end ElementSnapshot

/-! ## Orders of the cache keys -/

instance : Ord AtspiBusName := ⟨compareOn AtspiBusName.text⟩
instance : Ord AtspiObjectPath := ⟨compareOn AtspiObjectPath.text⟩

instance : Std.TransOrd AtspiBusName := inferInstanceAs (Std.TransCmp (compareOn AtspiBusName.text))
instance : Std.TransOrd AtspiObjectPath := inferInstanceAs (Std.TransCmp (compareOn AtspiObjectPath.text))
instance : Std.LawfulEqOrd AtspiBusName := lawfulEqCmp_compareOn fun a b h => by cases a; cases b; simp_all
instance : Std.LawfulEqOrd AtspiObjectPath :=
  lawfulEqCmp_compareOn fun a b h => by cases a; cases b; simp_all

/-! ## Values of the runs on fixed inputs -/

def AtspiBusName.sample : AtspiBusName := ⟨":1.2".toList, by decide⟩

def AtspiObjectPath.sample : AtspiObjectPath := ⟨"/org/a11y".toList, by decide⟩

def AccessibilityIdentityHash.allA : AccessibilityIdentityHash :=
  ⟨List.replicate 64 'a', by decide +kernel, WindowIdentityHash.allA.lowerHex⟩

/-- An instance of the sample application on the first connection. -/
def ApplicationRef.nth (generation : Nat) : ApplicationRef :=
  ⟨⟨1⟩, ⟨1⟩, ⟨1, Nat.one_ne_zero⟩, .sample, .sample, generation, .allA⟩

/-- A birth of the sample object in the first instance. -/
def ElementRef.nth (cacheSequence : Nat) : ElementRef :=
  ⟨⟨1⟩, ⟨1⟩, ⟨1, Nat.one_ne_zero⟩, .nth 1, .sample, .allA, cacheSequence⟩

def ElementSnapshot.bare (element : ElementRef) (role : ElementRole) : ElementSnapshot :=
  ⟨element, none, none, none, ⟨role, none, none⟩, none, none, none, none, [], [], [], none, none,
    none, [], [],
    ⟨none, .none, [], false⟩, ⟨1, Nat.one_ne_zero⟩, .complete, false, []⟩

end Xenoteer
