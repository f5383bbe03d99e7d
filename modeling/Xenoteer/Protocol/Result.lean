/-
Command results (`xenoteer-protocol/src/result.rs`): detailed traces, the
lifecycle of one command, and the checked transitions of its public result.

The payload of a successful command is a type with its own validator; the
kinds of `CommandOutcome` and their nested validators are not opened here. A
`Timestamp` is the instant its canonical text stands for, which the text
parses back to, so `unix_timestamp_nanos` never fails.
-/
import Xenoteer.Lib.Checks
import Xenoteer.Protocol.Problem

namespace Xenoteer

open Lib.Checks

def maxWarningCodeBytes : Nat := 64
def maxWarningMessageBytes : Nat := 512
def maxResultWarnings : Nat := 16
def maxCommandTraceSteps : Nat := 16

/-! ## Detailed traces -/

inductive CommandTraceDomain where
  | general
  | semanticAccessibility
  | physicalElementInput
deriving DecidableEq

inductive CommandTraceStage where
  | commandValidated
  | semanticTargetRevalidated
  | semanticDispatched
  | semanticReadback
  | physicalCorrelationRevalidated
  | physicalWindowRevalidated
  | physicalScroll
  | physicalActivation
  | physicalPointerInterpolation
  | physicalButtonPress
  | physicalButtonRelease
  | postconditionObserved
  | commandCompleted
deriving DecidableEq

inductive CommandTraceStatus where
  | completed
  | notRequired
  | failed
deriving DecidableEq

structure CommandTraceStep where
  stage : CommandTraceStage
  status : CommandTraceStatus
deriving DecidableEq

structure CommandTrace where
  domain : CommandTraceDomain
  steps : List CommandTraceStep
deriving DecidableEq

inductive CommandTraceValidationError where
  | stepLimit
  | boundary
  | domainStage
  | stageOrder
  | stageStatus

def traceStageRank : CommandTraceDomain → CommandTraceStage → Option Nat
  | _, .commandValidated => some 0
  | .general, .commandCompleted => some 1
  | .semanticAccessibility, .semanticTargetRevalidated => some 1
  | .semanticAccessibility, .semanticDispatched => some 2
  | .semanticAccessibility, .semanticReadback => some 3
  | .semanticAccessibility, .postconditionObserved => some 4
  | .semanticAccessibility, .commandCompleted => some 5
  | .physicalElementInput, .physicalCorrelationRevalidated => some 1
  | .physicalElementInput, .physicalWindowRevalidated => some 2
  | .physicalElementInput, .physicalScroll => some 3
  | .physicalElementInput, .physicalActivation => some 4
  | .physicalElementInput, .physicalPointerInterpolation => some 5
  | .physicalElementInput, .physicalButtonPress => some 6
  | .physicalElementInput, .physicalButtonRelease => some 7
  | .physicalElementInput, .postconditionObserved => some 8
  | .physicalElementInput, .commandCompleted => some 9
  | _, _ => none

/-- The stages that policy or live state can make unnecessary. -/
def CommandTraceStage.isOptional : CommandTraceStage → Bool
  | .physicalScroll | .physicalActivation | .postconditionObserved => true
  | _ => false

namespace CommandTrace

/-- The loop of `validate`, by the rank of the step before. -/
def validateSteps (domain : CommandTraceDomain) :
    Option Nat → List CommandTraceStep → Except CommandTraceValidationError Unit
  | _, [] => .ok ()
  | previous, step :: rest => match traceStageRank domain step.stage with
    | none => .error .domainStage
    | some rank =>
      if previous.any (rank ≤ ·) then .error .stageOrder
      else if step.status = .notRequired ∧ !step.stage.isOptional then .error .stageStatus
      else if step.stage ≠ .commandCompleted ∧ step.status = .failed then .error .stageStatus
      else validateSteps domain (some rank) rest

def validate (trace : CommandTrace) : Except CommandTraceValidationError Unit :=
  if ¬ (2 ≤ trace.steps.length ∧ trace.steps.length ≤ maxCommandTraceSteps) then .error .stepLimit
  else if trace.steps.head? ≠ some ⟨.commandValidated, .completed⟩ ∨
      trace.steps.getLast?.map (·.stage) ≠ some .commandCompleted then .error .boundary
  else validateSteps trace.domain none trace.steps

def terminalStatus (trace : CommandTrace) : Option CommandTraceStatus := trace.steps.getLast?.map (·.status)

end CommandTrace

/-! ## Lifecycle, warnings and timestamps -/

inductive CommandLifecycle where
  | accepted
  | running
  | succeeded
  | failed
  | cancelledBeforeEffect
  | cancelledAfterEffect
  | deadlineBeforeEffect
  | deadlineAfterEffect
deriving DecidableEq

def CommandLifecycle.isTerminal : CommandLifecycle → Bool
  | .accepted | .running => false
  | _ => true

inductive WarningValidationError where
  | code
  | message

structure Warning where
  code : Text
  message : Text
deriving DecidableEq

def Warning.validate (w : Warning) : Except WarningValidationError Unit :=
  if w.code.isEmpty ∨ maxWarningCodeBytes < w.code.byteLen ∨
      !(w.code.all fun c => ('a' ≤ c && c ≤ 'z') || ('0' ≤ c && c ≤ '9') || c = '.' || c = '_' || c = '-') then
    .error .code
  else if w.message.isEmpty ∨ maxWarningMessageBytes < w.message.byteLen ∨ w.message.any isControl then
    .error .message
  else .ok ()

/-- The first instant of the year 0, in Unix nanoseconds. -/
def timestampMin : Int := -62167219200 * 10 ^ 9

/-- The last instant of the year 9999. -/
def timestampMax : Int := 253402300799 * 10 ^ 9 + 999999999

/-- An instant with a four-digit year, which RFC 3339 can write. -/
structure Timestamp where
  unixNanos : Int
  lower : timestampMin ≤ unixNanos
  upper : unixNanos ≤ timestampMax
deriving DecidableEq

inductive TimestampError where
  | outOfRange

def Timestamp.fromUnixTimestampNanos (value : Int) : Except TimestampError Timestamp :=
  if h : timestampMin ≤ value ∧ value ≤ timestampMax then .ok ⟨value, h.1, h.2⟩ else .error .outOfRange

/-! ## Results -/

inductive ResultInvariantError where
  | illegalTransition
  | payloadDoesNotMatchLifecycle
  | warningLimit
  | invalidWarning (error : WarningValidationError)
  | invalidProblem (error : ProblemValidationError)
  | effectDoesNotMatchLifecycle
  | problemEffectMismatch
  | problemCodeMismatch
  | timestampOrder
  | invalidTimestamp (error : TimestampError)
  | invalidOutcome
  | invalidTrace (error : CommandTraceValidationError)
  | traceLifecycle
  | traceTerminalStatus

/-- `CommandOutcome::validate`. -/
class OutcomeValidation (O : Type) where
  validate : O → Except ResultInvariantError Unit

/-- State and terminal payload of one command. -/
structure CommandResult (O : Type) where
  commandId : CommandId
  lifecycle : CommandLifecycle
  effectStage : EffectStage
  acceptedAt : Timestamp
  startedAt : Option Timestamp
  finishedAt : Option Timestamp
  outcome : Option O
  error : Option Problem
  trace : Option CommandTrace
  warnings : List Warning
deriving DecidableEq

namespace CommandResult

variable {O : Type} [OutcomeValidation O]

section

variable (r : CommandResult O)

/-- `valid_payload`. -/
def payloadMatches : Bool :=
  match r.lifecycle with
  | .accepted => r.startedAt.isNone && r.finishedAt.isNone && r.outcome.isNone && r.error.isNone
  | .running => r.startedAt.isSome && r.finishedAt.isNone && r.outcome.isNone && r.error.isNone
  | .succeeded => r.startedAt.isSome && r.finishedAt.isSome && r.outcome.isSome && r.error.isNone
  | .failed | .cancelledAfterEffect | .deadlineAfterEffect =>
    r.startedAt.isSome && r.finishedAt.isSome && r.outcome.isNone && r.error.isSome
  | .cancelledBeforeEffect | .deadlineBeforeEffect =>
    r.finishedAt.isSome && r.outcome.isNone && r.error.isSome

/-- `effect_matches_lifecycle`. -/
def effectMatches (lifecycle : CommandLifecycle) (stage : EffectStage) : Bool :=
  match lifecycle with
  | .accepted => stage = .accepted
  | .cancelledBeforeEffect | .deadlineBeforeEffect => !stage.hasVisibleEffect
  | .cancelledAfterEffect | .deadlineAfterEffect => stage.hasVisibleEffect
  | .running | .succeeded | .failed => true

/-- The codes with a lifecycle of their own. -/
def isSpecialized : ErrorCode → Bool
  | .cancelledBeforeEffect | .cancelledAfterEffect | .deadlineExceededBeforeEffect
  | .deadlineExceededAfterEffect => true
  | _ => false

/-- `specialized_code_matches`. -/
def codeMatches (lifecycle : CommandLifecycle) (code : ErrorCode) : Bool :=
  match lifecycle with
  | .cancelledBeforeEffect => code = .cancelledBeforeEffect
  | .cancelledAfterEffect => code = .cancelledAfterEffect
  | .deadlineBeforeEffect => code = .deadlineExceededBeforeEffect
  | .deadlineAfterEffect => code = .deadlineExceededAfterEffect
  | .failed => !isSpecialized code
  | .accepted | .running | .succeeded => true

/-- The status the last step of a trace has by the lifecycle. -/
def expectedStatus (lifecycle : CommandLifecycle) : CommandTraceStatus :=
  if lifecycle = .succeeded then .completed else .failed

def validateProblem (problem : Problem) : Except ResultInvariantError Unit := do
  problem.validate.mapError .invalidProblem
  ensure (problem.effectStage = r.effectStage) .problemEffectMismatch
  ensure (codeMatches r.lifecycle problem.code) .problemCodeMismatch

def validateTrace (trace : CommandTrace) : Except ResultInvariantError Unit := do
  ensure r.lifecycle.isTerminal .traceLifecycle
  trace.validate.mapError .invalidTrace
  ensure (trace.terminalStatus = some (expectedStatus r.lifecycle)) .traceTerminalStatus

/-- No lifecycle timestamp precedes an earlier one. -/
def inOrder : Bool :=
  let accepted := r.acceptedAt.unixNanos
  let started := r.startedAt.map (·.unixNanos)
  let finished := r.finishedAt.map (·.unixNanos)
  !(started.any (· < accepted) || finished.any (· < accepted) ||
    started.any fun startedAt => finished.any (· < startedAt))

def validate (r : CommandResult O) : Except ResultInvariantError Unit := do
  ensure r.payloadMatches .payloadDoesNotMatchLifecycle
  optional OutcomeValidation.validate r.outcome
  ensure (effectMatches r.lifecycle r.effectStage) .effectDoesNotMatchLifecycle
  optional r.validateProblem r.error
  optional r.validateTrace r.trace
  ensure r.inOrder .timestampOrder
  ensure (r.warnings.length ≤ maxResultWarnings) .warningLimit
  each (fun w => w.validate.mapError .invalidWarning) r.warnings

def accepted (commandId : CommandId) (acceptedAt : Timestamp) : CommandResult O :=
  ⟨commandId, .accepted, .accepted, acceptedAt, none, none, none, none, none, []⟩

/-- A result that passes its validator. -/
def checked : Except ResultInvariantError (CommandResult O) := do
  r.validate
  return r

def start (startedAt : Timestamp) : Except ResultInvariantError (CommandResult O) :=
  if r.lifecycle ≠ .accepted then .error .illegalTransition
  else { r with lifecycle := .running, startedAt := some startedAt }.checked

def succeed (effectStage : EffectStage) (outcome : O) (finishedAt : Timestamp) :
    Except ResultInvariantError (CommandResult O) :=
  if r.lifecycle ≠ .running then .error .illegalTransition
  else
    { r with
      lifecycle := .succeeded
      effectStage
      finishedAt := some finishedAt
      outcome := some outcome }.checked

/-- `legal_transition`. -/
def canFailAs : CommandLifecycle → CommandLifecycle → Bool
  | .accepted, .cancelledBeforeEffect | .accepted, .deadlineBeforeEffect => true
  | .running, .failed | .running, .cancelledBeforeEffect | .running, .cancelledAfterEffect
  | .running, .deadlineBeforeEffect | .running, .deadlineAfterEffect => true
  | _, _ => false

def fail (lifecycle : CommandLifecycle) (problem : Problem) (finishedAt : Timestamp) :
    Except ResultInvariantError (CommandResult O) :=
  if !canFailAs r.lifecycle lifecycle then .error .illegalTransition
  else
    { r with
      lifecycle
      effectStage := problem.effectStage
      finishedAt := some finishedAt
      error := some problem }.checked

def withTrace (trace : CommandTrace) : Except ResultInvariantError (CommandResult O) := do
  ensure r.lifecycle.isTerminal .traceLifecycle
  trace.validate.mapError .invalidTrace
  { r with trace := some trace }.checked

end

/-! ## What the validator accepts -/

variable {r : CommandResult O}

theorem checked_eq_ok {r'} : r.checked = .ok r' ↔ r.validate = .ok () ∧ r' = r := by
  simp only [checked, andThen_eq_ok, pure, Except.pure, Except.ok.injEq]
  constructor
  · intro ⟨hv, heq⟩
    exact ⟨hv, heq.symm⟩
  · intro ⟨hv, heq⟩
    exact ⟨hv, heq.symm⟩

omit [OutcomeValidation O] in
theorem inOrder_iff : r.inOrder = true ↔ (∀ s ∈ r.startedAt, r.acceptedAt.unixNanos ≤ s.unixNanos) ∧
      (∀ f ∈ r.finishedAt, r.acceptedAt.unixNanos ≤ f.unixNanos) ∧
        ∀ s ∈ r.startedAt, ∀ f ∈ r.finishedAt, s.unixNanos ≤ f.unixNanos := by
  simp only [inOrder]
  cases r.startedAt <;> cases r.finishedAt <;> simp [and_assoc]

/-- The conditions of `validate`, one field per check. -/
structure Valid (r : CommandResult O) : Prop where
  payload : r.payloadMatches = true
  outcome : ∀ o, r.outcome = some o → OutcomeValidation.validate o = .ok ()
  effect : effectMatches r.lifecycle r.effectStage = true
  problem : ∀ p, r.error = some p → p.validate = .ok () ∧ p.effectStage = r.effectStage ∧
    codeMatches r.lifecycle p.code = true
  trace : ∀ t, r.trace = some t → r.lifecycle.isTerminal = true ∧ t.validate = .ok () ∧
    t.terminalStatus = some (expectedStatus r.lifecycle)
  order : r.inOrder = true
  warningCount : r.warnings.length ≤ maxResultWarnings
  warning : ∀ w ∈ r.warnings, w.validate = .ok ()

theorem validate_eq_ok : r.validate = .ok () ↔ r.Valid := by
  simp only [validate, validateProblem, validateTrace, andThen_eq_ok, ensure_eq_ok, optional_eq_ok,
    each_eq_ok, wrapped_eq_ok, decide_eq_true_eq]
  constructor
  · rintro ⟨hp, ho, he, hpr, ht, hor, hc, hw⟩
    exact ⟨hp, ho, he, hpr, ht, hor, hc, hw⟩
  · intro h
    exact ⟨h.payload, h.outcome, h.effect, h.problem, h.trace, h.order, h.warningCount, h.warning⟩

end CommandResult

end Xenoteer
