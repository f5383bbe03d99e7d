/-
The public result of a ledger record (`map_record` of the daemon's
`control_plane.rs`): the clock projection, the failures that stand for a
stopped command, and the checked transitions of `CommandResult` they go
through. `mapRecord_eq_ok` says exactly which records have a public result.

`trace_progress` of a failure is left out: nothing here reads it.
-/
import Xenoteer.Coordinator.Messages
import Xenoteer.Protocol.Result

namespace Xenoteer

open Lib.Checks

/-- Failures of the control plane (`xenoteer-server/src/control.rs`). -/
inductive ControlPlaneError where
  | invalidRequest
  | permissionDenied
  | notFound
  | staleReference (currentGeneration : Option DesktopGeneration)
  | commandIdConflict
  | leaseConflict
  | resourceExhausted
  | capabilityUnavailable
  | unsupportedByTarget
  | cancellationConflict
  | internal
deriving DecidableEq

/-! ## Time -/

/-- `map_err(|_| ControlPlaneError::Internal)`. -/
def internally {ε α : Type} (result : Except ε α) : Except ControlPlaneError α :=
  result.mapError fun _ => .internal

def i128Max : Int := 170141183460469231731687303715884105727

/-- A result of `i128` arithmetic, unless it overflows. -/
def checkedI128 (value : Int) : Option Int :=
  if -i128Max - 1 ≤ value ∧ value ≤ i128Max then some value else none

structure ClockProjection where
  unixOriginNs : Int

/-- `value.ok_or(ControlPlaneError::Internal)`. -/
def orInternal {α : Type} (value : Option α) : Except ControlPlaneError α :=
  value.elim (.error .internal) .ok

def ClockProjection.timestamp (clock : ClockProjection) (monotonic : MonotonicMillis) :
    Except ControlPlaneError Timestamp := do
  let delta ← orInternal (checkedI128 (monotonic * 1000000))
  let value ← orInternal (checkedI128 (clock.unixOriginNs + delta))
  internally (Timestamp.fromUnixTimestampNanos value)

/-! ## Executor results -/

structure RuntimeSuccess (O : Type) where
  outcome : O
  effectStage : EffectStage
  trace : Option CommandTrace
deriving DecidableEq

structure RuntimeFailure where
  status : Nat
  code : ErrorCode
  title : Text
  detail : Text
  retry : RetryAdvice
  effectStage : EffectStage
  trace : Option CommandTrace
deriving DecidableEq

inductive RuntimeResult (O : Type) where
  | success (result : RuntimeSuccess O)
  | failure (result : RuntimeFailure)
deriving DecidableEq

variable {O : Type}

def RuntimeResult.effectStage : RuntimeResult O → EffectStage
  | .success result => result.effectStage
  | .failure result => result.effectStage

def RuntimeResult.trace : RuntimeResult O → Option CommandTrace
  | .success result => result.trace
  | .failure result => result.trace

def lifecycleForFailure (failure : RuntimeFailure) : CommandLifecycle :=
  match failure.code with
  | .cancelledBeforeEffect => .cancelledBeforeEffect
  | .cancelledAfterEffect => .cancelledAfterEffect
  | .deadlineExceededBeforeEffect => .deadlineBeforeEffect
  | .deadlineExceededAfterEffect => .deadlineAfterEffect
  | _ => .failed

/-- The failure that stands for a terminal record without a returned result. -/
def terminalFailure (terminal : CommandTerminal (RuntimeResult O)) : CommandLifecycle × RuntimeFailure :=
  let after := terminal.effect = .afterEffect
  let effectStage : EffectStage := if after then .sideEffectObserved else .none
  match terminal.cause with
  | .cancelled =>
    (if after then .cancelledAfterEffect else .cancelledBeforeEffect,
      { status := 409
        code := if after then .cancelledAfterEffect else .cancelledBeforeEffect
        title := "Command cancelled".toList
        detail := "The coordinator honored explicit command cancellation.".toList
        retry := if after then .never else .sameCommandId
        effectStage
        trace := none })
  | .deadlineExceeded =>
    (if after then .deadlineAfterEffect else .deadlineBeforeEffect,
      { status := 504
        code := if after then .deadlineExceededAfterEffect else .deadlineExceededBeforeEffect
        title := "Command deadline exceeded".toList
        detail := "The coordinator honored the command's monotonic deadline.".toList
        retry := if after then .never else .sameCommandId
        effectStage
        trace := none })
  | .generationChanged =>
    (.failed,
      { status := 409
        code := .staleReference
        title := "Desktop generation changed".toList
        detail := "The command belonged to a retired desktop generation.".toList
        retry := .afterResync
        effectStage
        trace := none })
  | .shutdown =>
    (.failed,
      { status := 503
        code := .capabilityUnavailable
        title := "Daemon is shutting down".toList
        detail := "The daemon stopped command execution during orderly shutdown.".toList
        retry := .afterBackoff
        effectStage
        trace := none })
  | .unexpectedStop | .executorPanicked =>
    (.failed,
      { status := 500
        code := .internal
        title := "Command execution failed".toList
        detail := "The command executor stopped without a safe typed result.".toList
        retry := .never
        effectStage
        trace := none })
  | .returned =>
    (.failed,
      { status := 500
        code := .internal
        title := "Command result invalid".toList
        detail := "The retained command result violated an internal invariant.".toList
        retry := .never
        effectStage
        trace := none })

def runtimeProblem (failure : RuntimeFailure) (generation : DesktopGeneration) :
    Except ControlPlaneError Problem :=
  internally ((Problem.new failure.status failure.code failure.title failure.detail failure.retry
    failure.effectStage).map (·.withDesktopGeneration generation))

/-! ## Records -/

variable [OutcomeValidation O]

/-- A failure after a visible effect, or of no special kind, is that of a
command that ran; any other one ends the command before it started. -/
def failFrom (accepted : CommandResult O) (acceptedAt finishedAt : Timestamp) (lifecycle : CommandLifecycle)
    (effectStage : EffectStage) (problem : Problem) : Except ControlPlaneError (CommandResult O) :=
  internally <|
    if effectStage.hasVisibleEffect || lifecycle = .failed then do
      let running ← accepted.start acceptedAt
      running.fail lifecycle problem finishedAt
    else accepted.fail lifecycle problem finishedAt

def attachTrace (result : CommandResult O) : Option CommandTrace → Except ControlPlaneError (CommandResult O)
  | some trace => internally (result.withTrace trace)
  | none => .ok result

def mapTerminal (accepted : CommandResult O) (acceptedAt finishedAt : Timestamp)
    (terminal : CommandTerminal (RuntimeResult O)) (generation : DesktopGeneration) :
    Except ControlPlaneError (CommandResult O) :=
  if terminal.cause = .returned then
    match terminal.output with
    | none => .error .internal
    | some output => do
      let result ← match output with
        | .success success => internally do
          let running ← accepted.start acceptedAt
          running.succeed success.effectStage success.outcome finishedAt
        | .failure failure => do
          let problem ← runtimeProblem failure generation
          failFrom accepted acceptedAt finishedAt (lifecycleForFailure failure) failure.effectStage problem
      attachTrace result output.trace
  else do
    let (lifecycle, failure) := terminalFailure terminal
    let trace := terminal.output.bind RuntimeResult.trace
    let problem ← runtimeProblem failure generation
    let result ← failFrom accepted acceptedAt finishedAt lifecycle failure.effectStage problem
    attachTrace result trace

def mapRecord (clock : ClockProjection) (record : CommandRecord (CommandTerminal (RuntimeResult O))) :
    Except ControlPlaneError (CommandResult O) := do
  let acceptedAt ← clock.timestamp record.acceptedAt
  let updatedAt ← clock.timestamp record.updatedAt
  let accepted := CommandResult.accepted record.commandId acceptedAt
  let result ← match record.state with
    | .accepted => .ok accepted
    | .running => internally (accepted.start updatedAt)
    | .terminal terminal =>
      mapTerminal accepted acceptedAt updatedAt terminal record.generation.generation
  internally result.validate
  return result

end Xenoteer
