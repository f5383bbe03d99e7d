/-
Safe problem details (`xenoteer-protocol/src/problem.rs`) and the effect
stages they report (`EffectStage` of `result.rs`).

A JSON value of `details` is kept as its encoding, so that the encoded size
of the map is a sum. The keys that reach that sum are lower-case ASCII and
need no escape.
-/
import Xenoteer.Protocol.Values

namespace Xenoteer

def maxProblemTypeBytes : Nat := 256
def maxProblemTitleBytes : Nat := 128
def maxProblemDetailBytes : Nat := 1024
def maxProblemInstanceBytes : Nat := 256
def maxProblemDetails : Nat := 16
def maxProblemDetailKeyBytes : Nat := 64
def maxProblemDetailsEncodedBytes : Nat := 4096

/-! ## Error codes -/

inductive ErrorCode where
  | invalidRequest
  | unsupportedVersion
  | authenticationRequired
  | permissionDenied
  | notFound
  | staleReference
  | commandIdConflict
  | leaseConflict
  | resourceExhausted
  | capabilityUnavailable
  | unsupportedByTarget
  | applicationNotAccessible
  | elementNotFound
  | ambiguousTarget
  | elementDefunct
  | interfaceNotSupported
  | elementNotShowing
  | elementNotSensitive
  | elementNotEditable
  | actionNotFound
  | weakWindowCorrelation
  | elementGeometryInvalid
  | elementOccluded
  | queryBudgetExceeded
  | snapshotTruncated
  | toolkitProtocolError
  | semanticPostconditionFailed
  | deadlineExceededBeforeEffect
  | deadlineExceededAfterEffect
  | requestOutcomeUnknown
  | cancelledBeforeEffect
  | cancelledAfterEffect
  | backendFailure
  | internal
deriving DecidableEq

/-- The snake-case wire value. -/
def ErrorCode.asStr : ErrorCode → String
  | .invalidRequest => "invalid_request"
  | .unsupportedVersion => "unsupported_version"
  | .authenticationRequired => "authentication_required"
  | .permissionDenied => "permission_denied"
  | .notFound => "not_found"
  | .staleReference => "stale_reference"
  | .commandIdConflict => "command_id_conflict"
  | .leaseConflict => "lease_conflict"
  | .resourceExhausted => "resource_exhausted"
  | .capabilityUnavailable => "capability_unavailable"
  | .unsupportedByTarget => "unsupported_by_target"
  | .applicationNotAccessible => "application_not_accessible"
  | .elementNotFound => "element_not_found"
  | .ambiguousTarget => "ambiguous_target"
  | .elementDefunct => "element_defunct"
  | .interfaceNotSupported => "interface_not_supported"
  | .elementNotShowing => "element_not_showing"
  | .elementNotSensitive => "element_not_sensitive"
  | .elementNotEditable => "element_not_editable"
  | .actionNotFound => "action_not_found"
  | .weakWindowCorrelation => "weak_window_correlation"
  | .elementGeometryInvalid => "element_geometry_invalid"
  | .elementOccluded => "element_occluded"
  | .queryBudgetExceeded => "query_budget_exceeded"
  | .snapshotTruncated => "snapshot_truncated"
  | .toolkitProtocolError => "toolkit_protocol_error"
  | .semanticPostconditionFailed => "semantic_postcondition_failed"
  | .deadlineExceededBeforeEffect => "deadline_exceeded_before_effect"
  | .deadlineExceededAfterEffect => "deadline_exceeded_after_effect"
  | .requestOutcomeUnknown => "request_outcome_unknown"
  | .cancelledBeforeEffect => "cancelled_before_effect"
  | .cancelledAfterEffect => "cancelled_after_effect"
  | .backendFailure => "backend_failure"
  | .internal => "internal"

inductive RetryAdvice where
  | never
  | sameCommandId
  | afterResync
  | afterBackoff
deriving DecidableEq

/-! ## Effect stages -/

/-- The last externally visible stage a command reached. -/
inductive EffectStage where
  | none
  | accepted
  | outcomeUnknown
  | sideEffectObserved
  | pointerMoved
  | buttonPressed
  | buttonReleased
  | pointerClicked
  | pointerDragged
  | pointerScrolled
  | keyPressed
  | keyReleased
  | keyboardActionCompleted
  | inputReset
  | processStarted
  | processSignalled
  | processExited
  | postconditionMet
  | windowRequestSent
  | windowStateChanged
  | clipboardOwnershipChanged
  | textInserted
  | semanticActionDispatched
  | semanticStateChanged
  | elementPhysicallyClicked
deriving DecidableEq

def EffectStage.hasVisibleEffect : EffectStage → Bool
  | .none | .accepted => false
  | _ => true

/-! ## Problems -/

inductive ProblemValidationError where
  | invalidStatus
  | invalidTypeUri
  | invalidTextLength
  | invalidInstanceUri
  | retryEffectMismatch
  | detailsLimit

structure Problem where
  problemType : Text
  title : Text
  status : Nat
  code : ErrorCode
  detail : Text
  instanceUri : Option Text
  retry : RetryAdvice
  effectStage : EffectStage
  desktopGeneration : Option DesktopGeneration
  details : List (Text × Text)
deriving DecidableEq

/-- `format!("https://xenoteer.dev/problems/…")` with dashes for underscores. -/
def ErrorCode.typeUri (code : ErrorCode) : Text :=
  "https://xenoteer.dev/problems/".toList ++ code.asStr.toList.map fun c => if c = '_' then '-' else c

/-- Bounded printable text. -/
def isSafeText (maximum : Nat) (text : Text) : Bool :=
  !text.isEmpty && text.byteLen ≤ maximum && !text.any isControl

/-- A stable lower-case key. -/
def isDetailKey (key : Text) : Bool :=
  !key.isEmpty && key.byteLen ≤ maxProblemDetailKeyBytes &&
    key.all fun c => ('a' ≤ c && c ≤ 'z') || ('0' ≤ c && c ≤ '9') || c = '.' || c = '_' || c = '-'

/-- Bytes of the encoded map: braces, `"key":value` members and commas. -/
def encodedDetailsBytes (details : List (Text × Text)) : Nat :=
  2 + (details.map fun member => member.1.byteLen + 3 + member.2.byteLen).sum + (details.length - 1)

/-- Retry advice that creates new work is unsafe after a visible effect. -/
def RetryAdvice.isSafeAfter (retry : RetryAdvice) (stage : EffectStage) : Bool :=
  !((retry = .afterBackoff || retry = .afterResync) && stage.hasVisibleEffect)

namespace Problem

def validate (p : Problem) : Except ProblemValidationError Unit :=
  if p.status < 400 ∨ 599 < p.status then .error .invalidStatus
  else if p.problemType ≠ p.code.typeUri ∨ p.problemType.isEmpty ∨ maxProblemTypeBytes < p.problemType.byteLen
    then .error .invalidTypeUri
  else if !isSafeText maxProblemTitleBytes p.title ∨ !isSafeText maxProblemDetailBytes p.detail then
    .error .invalidTextLength
  else if p.instanceUri.any fun uri => maxProblemInstanceBytes < uri.byteLen || uri.any isControl then
    .error .invalidInstanceUri
  else if !p.retry.isSafeAfter p.effectStage then .error .retryEffectMismatch
  else if maxProblemDetails < p.details.length ∨ (p.details.any fun member => !isDetailKey member.1)
      ∨ maxProblemDetailsEncodedBytes < encodedDetailsBytes p.details then .error .detailsLimit
  else .ok ()

def new (status : Nat) (code : ErrorCode) (title detail : Text) (retry : RetryAdvice)
    (effectStage : EffectStage) : Except ProblemValidationError Problem := do
  let problem : Problem :=
    ⟨code.typeUri, title, status, code, detail, none, retry, effectStage, none, []⟩
  problem.validate
  return problem

def withDesktopGeneration (p : Problem) (generation : DesktopGeneration) : Problem :=
  { p with desktopGeneration := some generation }

/-- The generation is not validated. -/
@[simp] theorem validate_withDesktopGeneration {p : Problem} (g : DesktopGeneration) :
    (p.withDesktopGeneration g).validate = p.validate := rfl

/-- What `new` checks of its arguments. -/
def Acceptable (status : Nat) (title detail : Text) (retry : RetryAdvice) (stage : EffectStage) : Prop :=
  400 ≤ status ∧ status ≤ 599 ∧ isSafeText maxProblemTitleBytes title = true
    ∧ isSafeText maxProblemDetailBytes detail = true ∧ retry.isSafeAfter stage = true

instance (status : Nat) (title detail : Text) (retry : RetryAdvice) (stage : EffectStage) :
    Decidable (Acceptable status title detail retry stage) :=
  inferInstanceAs (Decidable (_ ∧ _))

section New

variable {s : Nat} {code : ErrorCode} {title detail : Text} {retry : RetryAdvice}
  {stage : EffectStage} {p : Problem}

theorem new_of_acceptable (code : ErrorCode) (h : Acceptable s title detail retry stage) :
    new s code title detail retry stage =
      .ok ⟨code.typeUri, title, s, code, detail, none, retry, stage, none, []⟩ := by
  obtain ⟨hlo, hh, ht, hd, hr⟩ := h
  obtain ⟨he, hl⟩ : code.typeUri.isEmpty = false ∧ code.typeUri.byteLen ≤ maxProblemTypeBytes := by
    cases code <;> decide +kernel
  have hs : ¬ (s < 400 ∨ 599 < s) := by omega
  have hu : ¬ (code.typeUri ≠ code.typeUri ∨ code.typeUri.isEmpty = true ∨
      maxProblemTypeBytes < code.typeUri.byteLen) := by
    rw [he]
    simp only [ne_eq, not_true_eq_false, Bool.false_eq_true, false_or, Nat.not_lt]
    exact hl
  simp only [new, validate, hs, hu, ht, hd, hr, Option.any_none, if_false]
  rfl

theorem new_refused (code : ErrorCode) (h : ¬ Acceptable s title detail retry stage) :
    ∃ e, new s code title detail retry stage = .error e := by
  simp only [new, validate]
  split_ifs with hs hu ht hi hr hd <;>
    first
      | exact ⟨_, rfl⟩
      | refine absurd ?_ h
        simp only [not_or, Bool.not_eq_true, Bool.not_eq_false'] at hs ht hr
        exact ⟨by omega, by omega, by simpa using ht.1, by simpa using ht.2, by simpa using hr⟩

/-- A new problem is valid and carries its arguments. -/
theorem new_ok (h : new s code title detail retry stage = .ok p) :
    p.validate = .ok () ∧ p.code = code ∧ p.effectStage = stage := by
  simp only [new] at h
  cases hv : validate ⟨code.typeUri, title, s, code, detail, none, retry, stage, none, []⟩ with
  | error e => rw [hv] at h; cases h
  | ok _ =>
    rw [hv] at h
    cases h
    exact ⟨hv, rfl, rfl⟩

end New

end Problem

end Xenoteer
