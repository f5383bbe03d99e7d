/-
The vocabulary of the coordinator actor (`coordinator/runtime.rs`): commands,
outcomes and errors, settings, messages with their replies, and the tasks it
spawns. The actor itself is in `Coordinator.Runtime`.
-/
import Xenoteer.Coordinator.EventHub
import Xenoteer.Coordinator.Lease
import Xenoteer.Coordinator.Ledger

namespace Xenoteer

/-! ## Commands and their outcomes -/

inductive CommandEffect where
  | beforeEffect
  | afterEffect
deriving DecidableEq

inductive ExecutionStop where
  | continue
  | cancelled
  | deadlineExceeded
  | generationChanged
  | shutdown
deriving DecidableEq

inductive ExecutionOutcome (R : Type) where
  | completed (output : R) (effect : CommandEffect)
  | atomicCompleted (output : R) (effect : CommandEffect)
  | stopped (effect : CommandEffect)
  | stoppedWithEvidence (output : R) (effect : CommandEffect)

inductive TerminalCause where
  | returned
  | cancelled
  | deadlineExceeded
  | generationChanged
  | shutdown
  | unexpectedStop
  | executorPanicked
deriving DecidableEq

structure CommandTerminal (R : Type) where
  cause : TerminalCause
  effect : CommandEffect
  output : Option R
deriving DecidableEq

namespace CommandTerminal

def returned {R : Type} (output : R) (effect : CommandEffect) : CommandTerminal R :=
  ⟨.returned, effect, some output⟩

def stopped {R : Type} (cause : TerminalCause) (effect : CommandEffect) : CommandTerminal R :=
  ⟨cause, effect, none⟩

def stoppedWithEvidence {R : Type} (cause : TerminalCause) (effect : CommandEffect) (output : R) :
    CommandTerminal R :=
  ⟨cause, effect, some output⟩

end CommandTerminal

def terminalCause : ExecutionStop → TerminalCause
  | .continue => .unexpectedStop
  | .cancelled => .cancelled
  | .deadlineExceeded => .deadlineExceeded
  | .generationChanged => .generationChanged
  | .shutdown => .shutdown

/-- The terminal result of an execution, by the outcome its task joined with
(`none` for a panic while the future was polled) and the stop requested. -/
def terminalOf {R : Type} (stop : ExecutionStop) : Option (ExecutionOutcome R) → CommandTerminal R
  | some (.atomicCompleted output effect) => .returned output effect
  | some (.completed output effect) =>
    if stop = .continue then .returned output effect else .stopped (terminalCause stop) effect
  | some (.stopped effect) => .stopped (terminalCause stop) effect
  | some (.stoppedWithEvidence output effect) => .stoppedWithEvidence (terminalCause stop) effect output
  | none => .stopped .executorPanicked .afterEffect

structure ResetRequest where
  resetEpoch : Nat
  lease : LeaseGrant
  reason : RevocationReason
  currentGeneration : GenerationToken
deriving DecidableEq

inductive ResetOutcome where
  | complete
  | failed
deriving DecidableEq

inductive CancelCommandOutcome where
  | accepted
  | alreadyTerminal
  | notFound
deriving DecidableEq

inductive ResetRetryOutcome where
  | started
  | alreadyRunning
  | notRequired
deriving DecidableEq

inductive LeaseRequirement where
  | notRequired
  | required (leaseId : ControlLeaseId)
deriving DecidableEq

inductive CoordinatorError where
  | invalidSettings
  | commandCapacityExhausted
  | principalCommandCapacityExhausted
  | closed
  | deadlineOverflow
  | generation (error : GenerationFenceError)
  | lease (error : LeaseError)
  | ledger (error : CommandLedgerError)
  | event (error : EventHubError)
deriving DecidableEq

/-! ## Settings and state -/

/-- Actor sizing and policy, within the bounds `CoordinatorSettings::new` checks. -/
structure CoordinatorSettings where
  desktopId : DesktopId
  initialGeneration : DesktopGeneration
  mailboxCapacity : Nat
  maximumActiveCommands : Nat
  maximumActivePerPrincipal : Nat
  maximumConcurrentExecutions : Nat
  leasePolicy : LeasePolicy
  ledgerLimits : CommandLedgerLimits
  eventLimits : EventHubLimits
  mailbox_pos : 0 < mailboxCapacity
  principal_pos : 0 < maximumActivePerPrincipal
  executions_pos : 0 < maximumConcurrentExecutions
  principal_le : maximumActivePerPrincipal ≤ maximumActiveCommands
  executions_le : maximumConcurrentExecutions ≤ maximumActiveCommands

structure ActiveKey where
  generation : GenerationToken
  principal : PrincipalId
  commandId : CommandId
deriving DecidableEq

instance : Ord ActiveKey := ⟨compareLex (compareOn ActiveKey.generation)
  (compareLex (compareOn ActiveKey.principal) (compareOn ActiveKey.commandId))⟩

instance : Std.TransOrd ActiveKey := inferInstanceAs (Std.TransCmp (compareLex _ (compareLex _ _)))

instance : Std.LawfulEqOrd ActiveKey where
  compare_self := Std.ReflCmp.compare_self
  eq_of_compare {a b} h := by
    obtain ⟨hg, hpc⟩ := compareLex_eq_eq.mp h
    obtain ⟨hp, hc⟩ := compareLex_eq_eq.mp hpc
    cases a; cases b
    simp only [ActiveKey.mk.injEq]
    exact ⟨Std.LawfulEqOrd.eq_of_compare hg, Std.LawfulEqOrd.eq_of_compare hp,
      Std.LawfulEqOrd.eq_of_compare hc⟩

/-- The key of the command's ledger record. -/
def ActiveKey.command (key : ActiveKey) : CommandKey := ⟨key.principal, key.commandId⟩

inductive ActivePhase where
  | pending
  | running
deriving DecidableEq

/-- `stop` and `updates` are the current values of the two watch channels. -/
structure ActiveCommand (C R : Type) where
  command : Option C
  deadline : Option Instant
  phase : ActivePhase
  stop : ExecutionStop
  updates : CommandRecord (CommandTerminal R)
  record : CommandRecord (CommandTerminal R)

/-- One normalized event of the mapper. -/
structure CoordinatorEvent (E : Type) where
  event : E
  encodedSize : Nat

structure CommandAdmission (C : Type) where
  principal : PrincipalId
  commandId : CommandId
  requestHash : CanonicalCommandHash
  generation : GenerationToken
  lease : LeaseRequirement
  executeWithin : Option Nat
  command : C
deriving DecidableEq

def CommandAdmission.key {C : Type} (a : CommandAdmission C) :
    ActiveKey := ⟨a.generation, a.principal, a.commandId⟩

/-- `updates` is the value the receiver of the watch channel sees first. -/
structure CommandSubmission (R : Type) where
  admitted : Bool
  record : CommandRecord (CommandTerminal R)
  updates : CommandRecord (CommandTerminal R)
deriving DecidableEq

/-- `Message`, without the reply senders. -/
inductive Message (C E : Type) where
  | generation
  | leaseSnapshot
  | acquireLease (owner : PrincipalId) (leaseId : ControlLeaseId) (ttlMs : Option Nat)
      (generation : GenerationToken)
  | renewLease (owner : PrincipalId) (leaseId : ControlLeaseId) (ttlMs : Option Nat)
      (generation : GenerationToken)
  | releaseLease (owner : PrincipalId) (leaseId : ControlLeaseId) (generation : GenerationToken)
  | revokeLease (reason : RevocationReason)
  | retryReset
  | submit (admission : CommandAdmission C)
  | lookup (principal : PrincipalId) (commandId : CommandId) (generation : GenerationToken)
  | watchLookup (principal : PrincipalId) (commandId : CommandId) (generation : GenerationToken)
  | cancel (principal : PrincipalId) (commandId : CommandId) (generation : GenerationToken)
  | publishEvent (event : E) (encodedSize : Nat) (generation : GenerationToken)
  | replayEvents (generation : GenerationToken) (sinceSequence : Nat)
  | subscribeEvents (generation : GenerationToken) (sinceSequence : Option Nat)
  | rotateGeneration (generation : DesktopGeneration)
  | shutdown

/-- What the oneshot reply of a message carries. -/
inductive Reply (R E : Type) where
  | generation (token : GenerationToken)
  | leaseSnapshot (snapshot : LeaseSnapshot)
  | lease (result : Except CoordinatorError LeaseGrant)
  | released (result : Except CoordinatorError Unit)
  | revoked (revoked : Bool)
  | retried (outcome : ResetRetryOutcome)
  | submitted (result : Except CoordinatorError (CommandSubmission R))
  | found (result : Except CoordinatorError (Option (CommandRecord (CommandTerminal R))))
  | watched (result : Except CoordinatorError (Option (CommandRecord (CommandTerminal R))))
  | cancelled (result : Except CoordinatorError CancelCommandOutcome)
  | published (result : Except CoordinatorError PublishOutcome)
  | replayed (result : ReplayResult E)
  | subscribed (replay : ReplayResult E)
  | rotated (result : Except CoordinatorError GenerationToken)
  | shutdown
deriving DecidableEq

inductive Sent (C R E : Type) where
  | reply (reply : Reply R E)
  | live (sequence : Nat)
  | update (key : ActiveKey) (record : CommandRecord (CommandTerminal R))
  | execute (key : ActiveKey) (command : C) (deadline : Option Instant)
  | reset (request : ResetRequest)
deriving DecidableEq

/-- A task of the `JoinSet`. -/
inductive SpawnedTask where
  | execution (key : ActiveKey)
  | reset (epoch : Nat)
deriving DecidableEq

/-- How a spawned task ends: the backend call itself panics, before there is
a future that `catch_unwind` could guard; the future panics while it is
polled; or it returns. -/
inductive TaskEnd (R : Type) where
  | callPanicked
  | pollPanicked
  | executed (outcome : ExecutionOutcome R)
  | reset (outcome : ResetOutcome)

inductive TaskCompletion (R : Type) where
  | execution (key : ActiveKey) (outcome : Option (ExecutionOutcome R))
  | reset (resetEpoch : Nat) (outcome : ResetOutcome)

end Xenoteer
