/-
Correlation of one accessible element with the live X11 windows
(`core/accessibility_correlation.rs`): the bounds on the inputs, the score of
one candidate, the conflict between anchors, and the verdict that gates a
physical effect.

The source adds up one `CandidateScore` signal by signal; here each signal is
a function on the score so far, and `scoreCandidate` runs them in the
source's order. Scores and discriminator counts are sums of at most nine
small constants, far inside `i32` and `u8`; areas are exact, as in `u128`.
`HashSet`s of inputs are lists.
-/
import Xenoteer.Protocol.Accessibility
import Mathlib.Data.List.ReduceOption
import Mathlib.Data.List.Sort

namespace Xenoteer

/-! ## Limits -/

def maxAccessibilityCorrelationCandidates : Nat := 128
def maxAccessibilityCorrelationStringBytes : Nat := 256
def maxAccessibilityCorrelationTotalStringBytes : Nat := 32 * 1024
def maxAccessibilityCorrelationObservationAgeMs : Nat := 60000
def maxAccessibilityCorrelationFocusDeltaMs : Nat := 10000
def maxAccessibilityCorrelationCreationDeltaMs : Nat := 30000

inductive AccessibilityCorrelationError where
  | invalidLimits
  | candidateLimit
  | stringLimit
  | invalidString
  | invalidProcessEvidence
  | invalidReference
  | referenceScope
  | invalidGeometry
  | invalidTime
  | staleObservation
  | duplicateWindow
  | conflictingWindowBirth
deriving DecidableEq

structure AccessibilityCorrelationLimits where
  maxCandidates : Nat := 64
  maxTotalStringBytes : Nat := 16 * 1024
  maxObservationAgeMs : Nat := 5000
  maxFocusDeltaMs : Nat := 750
  maxCreationDeltaMs : Nat := 2000

def AccessibilityCorrelationLimits.validate (limits : AccessibilityCorrelationLimits) :
    Except AccessibilityCorrelationError Unit :=
  if limits.maxCandidates = 0
      ∨ maxAccessibilityCorrelationCandidates < limits.maxCandidates
      ∨ limits.maxTotalStringBytes = 0
      ∨ maxAccessibilityCorrelationTotalStringBytes < limits.maxTotalStringBytes
      ∨ maxAccessibilityCorrelationObservationAgeMs < limits.maxObservationAgeMs
      ∨ maxAccessibilityCorrelationFocusDeltaMs < limits.maxFocusDeltaMs
      ∨ maxAccessibilityCorrelationCreationDeltaMs < limits.maxCreationDeltaMs then
    .error .invalidLimits
  else .ok ()

/-! ## Subject and candidates -/

/-- A bounded, canonical, case-folded title or identity. -/
@[ext]
structure NormalizedCorrelationText where
  text : Text
  nonempty : text ≠ []
  bounded : text.byteLen ≤ maxAccessibilityCorrelationStringBytes

instance : DecidableEq NormalizedCorrelationText := fun _ _ => decidable_of_iff _ NormalizedCorrelationText.ext_iff.symm

/-- The accessible element and its AT-SPI-side evidence. -/
structure AccessibilityCorrelationSubject where
  application : ApplicationRef
  element : ElementRef
  processId : Option UInt32
  managedProcessId : Option UInt32
  topLevelExtents : Option Rect
  title : Option NormalizedCorrelationText
  applicationIdentity : Option NormalizedCorrelationText
  toolkitIdentity : Option NormalizedCorrelationText
  focused : Bool
  focusChangedAt : Option MonotonicMillis
  createdAt : Option MonotonicMillis
  observedAt : MonotonicMillis
  explicitWindow : Option WindowRef
  clientLeader : Option WindowRef

/-- One window and its X11-side evidence. -/
structure AccessibilityWindowCandidate where
  window : WindowRef
  live : Bool
  processId : Option UInt32
  managedProcessId : Option UInt32
  topLevelExtents : Option Rect
  title : Option NormalizedCorrelationText
  applicationIdentity : Option NormalizedCorrelationText
  toolkitIdentity : Option NormalizedCorrelationText
  focused : Bool
  focusChangedAt : Option MonotonicMillis
  createdAt : Option MonotonicMillis
  observedAt : MonotonicMillis
  clientLeader : Option WindowRef

/-! ## Bounds on the inputs -/

namespace Correlation

def validateProcessPair (processId managedProcessId : Option UInt32) :
    Except AccessibilityCorrelationError Unit :=
  if processId = some 0 ∨ managedProcessId = some 0 then .error .invalidProcessEvidence else .ok ()

def validateRect (rect : Option Rect) : Except AccessibilityCorrelationError Unit :=
  rect.forM fun r => r.validate.mapError fun _ => .invalidGeometry

def validateTimeSet (createdAt focusChangedAt : Option MonotonicMillis) (observedAt now : MonotonicMillis)
    (requireFresh : Bool) (limits : AccessibilityCorrelationLimits) :
    Except AccessibilityCorrelationError Unit := do
  if now < observedAt ∨ createdAt.any (observedAt < ·) ∨ focusChangedAt.any (observedAt < ·) then
    throw .invalidTime
  if requireFresh ∧ (checkedSub now observedAt).all (limits.maxObservationAgeMs < ·) then
    throw .staleObservation

def validateOptionalWindow (window : Option WindowRef) (desktopId : DesktopId)
    (desktopGeneration : DesktopGeneration) : Except AccessibilityCorrelationError Unit :=
  window.forM fun w => do
    w.validateShape.mapError fun _ => .invalidReference
    if w.desktopId ≠ desktopId ∨ w.desktopGeneration ≠ desktopGeneration then throw .referenceScope

/-- The loop over the candidates: the exact windows and the live XIDs seen so
far. -/
def validateCandidates (subject : AccessibilityCorrelationSubject) (now : MonotonicMillis)
    (limits : AccessibilityCorrelationLimits) (exactWindows : List WindowRef)
    (liveXids : List (UInt32 × WindowRef)) :
    List AccessibilityWindowCandidate → Except AccessibilityCorrelationError Unit
  | [] => .ok ()
  | candidate :: rest => do
    candidate.window.validateShape.mapError fun _ => .invalidReference
    if candidate.window.desktopId ≠ subject.application.desktopId
        ∨ candidate.window.desktopGeneration ≠ subject.application.desktopGeneration then
      throw .referenceScope
    if candidate.window ∈ exactWindows then throw .duplicateWindow
    if candidate.live ∧ (liveXids.lookup candidate.window.xid).any (· ≠ candidate.window) then
      throw .conflictingWindowBirth
    validateProcessPair candidate.processId candidate.managedProcessId
    validateRect candidate.topLevelExtents
    validateTimeSet candidate.createdAt candidate.focusChangedAt candidate.observedAt now candidate.live limits
    validateOptionalWindow candidate.clientLeader subject.application.desktopId
      subject.application.desktopGeneration
    validateCandidates subject now limits (candidate.window :: exactWindows)
      (if candidate.live then (candidate.window.xid, candidate.window) :: liveXids else liveXids) rest

def stringBytes (title applicationIdentity toolkitIdentity : Option NormalizedCorrelationText) : Nat :=
  ([title, applicationIdentity, toolkitIdentity].reduceOption.map (·.text.byteLen)).sum

def subjectStringBytes (s : AccessibilityCorrelationSubject) : Nat :=
  stringBytes s.title s.applicationIdentity s.toolkitIdentity

def candidateStringBytes (c : AccessibilityWindowCandidate) : Nat :=
  stringBytes c.title c.applicationIdentity c.toolkitIdentity

/-- The running total of `validate_string_budget`. -/
def spendStringBudget (limits : AccessibilityCorrelationLimits) (total : Nat) :
    List AccessibilityWindowCandidate → Except AccessibilityCorrelationError Nat
  | [] => .ok total
  | candidate :: rest =>
    match checkedAdd total (candidateStringBytes candidate) with
    | none => .error .stringLimit
    | some total =>
      if limits.maxTotalStringBytes < total then .error .stringLimit
      else spendStringBudget limits total rest

section

variable (subject : AccessibilityCorrelationSubject)

def validateStringBudget
    (candidates : List AccessibilityWindowCandidate) (limits : AccessibilityCorrelationLimits) :
    Except AccessibilityCorrelationError Unit := do
  let total ← spendStringBudget limits (subjectStringBytes subject) candidates
  if limits.maxTotalStringBytes < total then throw .stringLimit

def validateInputs (candidates : List AccessibilityWindowCandidate) (now : MonotonicMillis)
    (limits : AccessibilityCorrelationLimits) : Except AccessibilityCorrelationError Unit := do
  limits.validate
  if limits.maxCandidates < candidates.length then throw .candidateLimit
  subject.application.validate.mapError fun _ => .invalidReference
  subject.element.validate.mapError fun _ => .invalidReference
  if subject.element.application ≠ subject.application then throw .referenceScope
  validateProcessPair subject.processId subject.managedProcessId
  validateRect subject.topLevelExtents
  validateTimeSet subject.createdAt subject.focusChangedAt subject.observedAt now true limits
  validateOptionalWindow subject.explicitWindow subject.application.desktopId
    subject.application.desktopGeneration
  validateOptionalWindow subject.clientLeader subject.application.desktopId
    subject.application.desktopGeneration
  validateCandidates subject now limits [] [] candidates
  validateStringBudget subject candidates limits

/-! ## Comparisons -/

/-- `u64::abs_diff`. -/
def absoluteTimeDelta (left right : MonotonicMillis) : Nat := max left right - min left right

def observationsAreClose (left right : MonotonicMillis) (limits : AccessibilityCorrelationLimits) : Bool :=
  absoluteTimeDelta left right ≤ limits.maxFocusDeltaMs

inductive GeometryComparison where
  | exact
  | strong
  | weak
  | miss
deriving DecidableEq

def rectangleArea (rect : Rect) : Option Nat :=
  rect.size.toOption.map fun size => size.width.toNat * size.height.toNat

/-- The area of the intersection, `none` when it is empty. -/
def intersectionArea (left right : Rect) : Option Nat := do
  let leftSize ← left.size.toOption
  let rightSize ← right.size.toOption
  let leftX2 : Int := left.x.toInt + leftSize.width.toNat
  let leftY2 : Int := left.y.toInt + leftSize.height.toNat
  let rightX2 : Int := right.x.toInt + rightSize.width.toNat
  let rightY2 : Int := right.y.toInt + rightSize.height.toNat
  let width := min leftX2 rightX2 - max left.x.toInt right.x.toInt
  let height := min leftY2 rightY2 - max left.y.toInt right.y.toInt
  if width ≤ 0 ∨ height ≤ 0 then none else some (width.toNat * height.toNat)

def geometryComparison (left right : Rect) : GeometryComparison :=
  if left = right then .exact
  else match intersectionArea left right, rectangleArea left, rectangleArea right with
    | some intersection, some leftArea, some rightArea =>
      let smaller := min leftArea rightArea
      if smaller * 80 ≤ intersection * 100 then .strong
      else if smaller * 50 ≤ intersection * 100 then .weak
      else .miss
    | _, _, _ => .miss

structure IdentityComparison where
  matched : Bool
  score : Int
  detail : String

/-- `left.zip(right).map(|(left, right)| left == right)`. -/
def sameIdentity (left right : Option NormalizedCorrelationText) : Option Bool :=
  left.bind fun l => right.map fun r => decide (l = r)

def identityComparison (candidate : AccessibilityWindowCandidate) : Option IdentityComparison :=
  match sameIdentity subject.applicationIdentity candidate.applicationIdentity,
      sameIdentity subject.toolkitIdentity candidate.toolkitIdentity with
  | none, none => none
  | some true, some true => some ⟨true, 24, "application and toolkit identities matched"⟩
  | some true, none => some ⟨true, 18, "application identity matched"⟩
  | none, some true => some ⟨true, 18, "toolkit identity matched"⟩
  | _, _ => some ⟨false, 0, "application or toolkit identity conflicted"⟩

end

/-! ## The score of one candidate -/

def evidence (signal : WindowCorrelationSignal) (matched : Bool) (detail : String) :
    WindowCorrelationEvidence :=
  ⟨signal, matched, some detail.toList⟩

structure CandidateScore where
  score : Int := 0
  pidMatch : Bool := false
  managedMatch : Bool := false
  explicitMatch : Bool := false
  strongDiscriminators : Nat := 0
  geometryOrFocusMatch : Bool := false
  conflict : Bool := false
  evidence : List WindowCorrelationEvidence := []
  exactGeometry : Bool := false
  focusMatch : Bool := false
  leaderMatch : Bool := false

/-- `result.evidence.push(evidence(..))`. -/
def CandidateScore.push (r : CandidateScore) (signal : WindowCorrelationSignal) (matched : Bool)
    (detail : String) : CandidateScore :=
  { r with evidence := r.evidence ++ [Correlation.evidence signal matched detail] }

section Signals

variable (subject : AccessibilityCorrelationSubject) (candidate : AccessibilityWindowCandidate)
  (limits : AccessibilityCorrelationLimits)

section

variable (r : CandidateScore)

def noteExplicitReference : CandidateScore :=
  match subject.explicitWindow with
  | none => r
  | some explicit =>
    if candidate.window = explicit then
      let r := r.push .explicitCallerReference true "exact window reference matched"
      { r with score := r.score + 100, explicitMatch := true }
    else
      let r := r.push .explicitCallerReference false "exact window reference differed"
      { r with score := r.score - 100, conflict := true }

/-- Both sides name the same managed process. -/
def commonManagedGroup : Bool :=
  subject.managedProcessId.any fun expected => candidate.managedProcessId.any (expected = ·)

def noteProcessId : CandidateScore :=
  match subject.processId, candidate.processId with
  | some expected, some actual =>
    if expected = actual then
      let r := r.push .processId true "process identifier matched"
      { r with score := r.score + 60, pidMatch := true }
    else if commonManagedGroup subject candidate then
      r.push .processId false "process identifiers differed within one managed group"
    else
      let r := r.push .processId false "process identifier conflicted"
      { r with score := r.score - 80, conflict := true }
  | _, _ => r

def noteManagedProcess : CandidateScore :=
  match subject.managedProcessId, candidate.managedProcessId with
  | some expected, some actual =>
    if expected = actual then
      let r := r.push .managedProcess true "managed process identifier matched"
      { r with score := r.score + 50, managedMatch := true }
    else
      let r := r.push .managedProcess false "managed process identifier conflicted"
      { r with score := r.score - 80, conflict := true }
  | _, _ => r

def noteTopLevelExtents : CandidateScore :=
  match subject.topLevelExtents, candidate.topLevelExtents with
  | some expected, some actual =>
    match geometryComparison expected actual with
    | .exact =>
      let r := r.push .topLevelExtents true "root-physical extents matched exactly"
      { r with
        score := r.score + 40, strongDiscriminators := r.strongDiscriminators + 1
        geometryOrFocusMatch := true, exactGeometry := true }
    | .strong =>
      let r := r.push .topLevelExtents true "root-physical extents strongly overlapped"
      { r with
        score := r.score + 30, strongDiscriminators := r.strongDiscriminators + 1
        geometryOrFocusMatch := true }
    | .weak =>
      let r := r.push .topLevelExtents false "root-physical extents weakly overlapped"
      { r with score := r.score + 12 }
    | .miss =>
      let r := r.push .topLevelExtents false "root-physical extents conflicted"
      { r with score := r.score - 40, conflict := true }
  | _, _ => r

def noteTitle : CandidateScore :=
  match subject.title, candidate.title with
  | some expected, some actual =>
    if expected = actual then
      let r := r.push .title true "normalized title matched"
      { r with score := r.score + 5 }
    else r.push .title false "normalized title differed"
  | _, _ => r

def noteIdentity : CandidateScore :=
  match identityComparison subject candidate with
  | none => r
  | some identity =>
    let r := r.push .toolkitIdentity identity.matched identity.detail
    if identity.matched then
      { r with score := r.score + identity.score, strongDiscriminators := r.strongDiscriminators + 1 }
    else { r with score := r.score - 30, conflict := true }

def leaderMatches (expected : WindowRef) : Bool :=
  candidate.window = expected || candidate.clientLeader.any (· = expected)

def noteClientLeader : CandidateScore :=
  match subject.clientLeader with
  | none => r
  | some expected =>
    if leaderMatches candidate expected then
      let r := r.push .clientLeader true "exact client-leader group matched"
      { r with
        score := r.score + 24, strongDiscriminators := r.strongDiscriminators + 1, leaderMatch := true }
    else
      let r := r.push .clientLeader false "exact client-leader group conflicted"
      { r with score := r.score - 20, conflict := true }

/-- Both sides are focused since about the same time. -/
def focusTransitionMatches : Bool :=
  candidate.focused && subject.focusChangedAt.any fun left => candidate.focusChangedAt.any fun right =>
    absoluteTimeDelta left right ≤ limits.maxFocusDeltaMs

def noteFocusTransition : CandidateScore :=
  if subject.focused then
    if focusTransitionMatches subject candidate limits then
      let r := r.push .focusTransition true "fresh focus transitions matched"
      { r with
        score := r.score + 24, strongDiscriminators := r.strongDiscriminators + 1
        geometryOrFocusMatch := true, focusMatch := true }
    else
      let r := r.push .focusTransition false "focus evidence was absent or stale"
      if observationsAreClose subject.observedAt candidate.observedAt limits && !candidate.focused then
        { r with score := r.score - 12, conflict := true }
      else r
  else r

def noteCreationProximity : CandidateScore :=
  match subject.createdAt, candidate.createdAt with
  | some left, some right =>
    if absoluteTimeDelta left right ≤ limits.maxCreationDeltaMs then
      let r := r.push .creationProximity true "creation observations were proximate"
      { r with score := r.score + 8 }
    else r.push .creationProximity false "creation observations were not proximate"
  | _, _ => r

end

def scoreCandidate : CandidateScore :=
  ({} : CandidateScore)
    |> noteExplicitReference subject candidate
    |> noteProcessId subject candidate
    |> noteManagedProcess subject candidate
    |> noteTopLevelExtents subject candidate
    |> noteTitle subject candidate
    |> noteIdentity subject candidate
    |> noteClientLeader subject candidate
    |> noteFocusTransition subject candidate limits
    |> noteCreationProximity subject candidate limits

end Signals

/-! ## The verdict -/

/-- The index of the only score that `matched` holds of. -/
def uniqueAnchor (scores : List CandidateScore) (matched : CandidateScore → Bool) : Option Nat :=
  match (scores.zipIdx.filter fun entry => matched entry.1).map Prod.snd with
  | [index] => some index
  | _ => none

section

variable (subject : AccessibilityCorrelationSubject)

/-- Two kinds of evidence single out different candidates. -/
def anchorConflict (candidates : List AccessibilityWindowCandidate) (scores : List CandidateScore) : Bool :=
  let anchors := [subject.explicitWindow.bind fun explicit => candidates.findIdx? (·.window = explicit),
    uniqueAnchor scores (·.pidMatch),
    uniqueAnchor scores (·.managedMatch),
    uniqueAnchor scores (·.exactGeometry),
    uniqueAnchor scores (·.focusMatch),
    uniqueAnchor scores (·.leaderMatch)].reduceOption
  1 < anchors.dedup.length

/-- The order of `window_key`. -/
def windowKeyLe (left right : WindowRef) : Bool :=
  (compareLex (compareOn fun w : WindowRef => w.xid.toNat)
    (compareLex (compareOn WindowRef.observedGeneration)
      (compareOn fun w : WindowRef => w.identityHash.text.map Char.toNat)) left right).isLE

def noCorrelation (conflictingEvidence : Bool) (evidence : List WindowCorrelationEvidence) :
    ElementWindowCorrelation :=
  ⟨none, .none, evidence, conflictingEvidence⟩

/-- The confidence of the winner, from the counts over all live candidates. -/
def confidenceOf (score : CandidateScore) (pidUniverseComplete : Bool)
    (pidMatchCount managedMatchCount : Nat) : WindowCorrelationConfidence :=
  let exactProcess := !score.conflict && score.pidMatch && pidUniverseComplete && pidMatchCount = 1
  if score.conflict then .weak
  else if exactProcess then .exactProcess
  else if score.explicitMatch
      || (score.pidMatch && 2 ≤ score.strongDiscriminators && score.geometryOrFocusMatch)
      || (score.managedMatch && managedMatchCount = 1 && 1 ≤ score.strongDiscriminators
        && score.geometryOrFocusMatch)
      || (score.managedMatch && 1 < managedMatchCount && 2 ≤ score.strongDiscriminators
        && score.geometryOrFocusMatch)
      || (!score.pidMatch && !score.managedMatch && 3 ≤ score.strongDiscriminators
        && score.geometryOrFocusMatch) then .strong
  else .weak

/-- The scores of the live candidates; two anchors in conflict mark them all. -/
def scoreAll (limits : AccessibilityCorrelationLimits)
    (ordered : List AccessibilityWindowCandidate) : List CandidateScore :=
  let scores := ordered.map (scoreCandidate subject · limits)
  if anchorConflict subject ordered scores then scores.map ({ · with conflict := true }) else scores

/-- The verdict over the live candidates in key order. -/
def verdict (limits : AccessibilityCorrelationLimits)
    (ordered : List AccessibilityWindowCandidate) : ElementWindowCorrelation :=
  let pidUniverseComplete := subject.processId.isSome && ordered.all (·.processId.isSome)
  let pidMatchCount := subject.processId.elim 0 fun pid => ordered.countP (·.processId = some pid)
  let managedMatchCount :=
    subject.managedProcessId.elim 0 fun pid => ordered.countP (·.managedProcessId = some pid)
  let scores := scoreAll subject limits ordered
  match (scores.map (·.score)).max? with
  | none => noCorrelation false []
  | some bestScore =>
    if bestScore ≤ 0 then noCorrelation (scores.any (·.conflict)) []
    else match (ordered.zip scores).filter fun entry => entry.2.score = bestScore with
      | [(winner, score)] =>
        ⟨some winner.window, confidenceOf score pidUniverseComplete pidMatchCount managedMatchCount,
          score.evidence, score.conflict⟩
      | _ => noCorrelation true []

end

end Correlation

open Correlation in
def correlateAccessibilityWindow (subject : AccessibilityCorrelationSubject)
    (candidates : List AccessibilityWindowCandidate) (now : MonotonicMillis)
    (limits : AccessibilityCorrelationLimits) :
    Except AccessibilityCorrelationError ElementWindowCorrelation := do
  validateInputs subject candidates now limits
  let ordered := (candidates.filter (·.live)).insertionSort fun left right =>
    windowKeyLe left.window right.window = true
  if ordered.isEmpty then return noCorrelation false []
  if subject.explicitWindow.any fun explicit => !ordered.any (·.window = explicit) then
    return noCorrelation true
      [evidence .explicitCallerReference false "exact live window reference unavailable"]
  return verdict subject limits ordered

/-- Signals that do not come from the client's own title or process id. -/
def WindowCorrelationSignal.isIndependent : WindowCorrelationSignal → Bool
  | .managedProcess | .topLevelExtents | .clientLeader | .focusTransition | .explicitCallerReference => true
  | _ => false

def correlationAuthorizesPhysicalEffect (correlation : ElementWindowCorrelation) : Bool :=
  let hasIndependentCorroboration := correlation.evidence.any fun e => e.matched && e.signal.isIndependent
  correlation.window.isSome && !correlation.conflictingEvidence && hasIndependentCorroboration
    && (correlation.confidence = .strong || correlation.confidence = .exactProcess)

end Xenoteer
